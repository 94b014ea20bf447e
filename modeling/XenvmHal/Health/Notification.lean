import XenvmHal.Health.Calls

/-!
# Updates and notifications

`update` says of itself that it calls `battery_update`, which calls `notifyListeners`. It does
not: it only adjusts the wake alarm. So an update that reports success reaches no listener, in no
reachable state and through no entry point (`update_reaches_nobody`).
-/

namespace XenvmHal

open Interaction Program

namespace Health

variable {C : Type}

/-- The listener that a call notifies, with the information sent. -/
def notified : SysEvent C → Option (C × HealthInfo)
  | ⟨.healthInfoChanged callback info, _⟩ => some (callback, info)
  | _ => none

/-- **The update reaches the listeners**: `battery_update` is called, and each entry of the
registry is notified exactly once, of the same information. -/
structure ReachesListeners (callbacks : List C) (t : List (SysEvent C)) : Prop where
  batteryUpdate : ∃ e ∈ t, e.call = .modeOp .batteryUpdate
  notified : ∃ info, (t.filterMap notified).Perm (callbacks.map (·, info))

/-- The entry points that update. -/
inductive Entry (C : Type)
  | update
  | registerCallback (callback : C)
  | getHealthInfo
  | wakealarmEvent
  | ueventEvent
  deriving DecidableEq, Repr

namespace Entry

/-- The state in which the entry point calls `update`. -/
def before (s : Healthd C) : Entry C → Healthd C
  | registerCallback callback => registerPush s callback
  | _ => s

/-- What the entry point does. -/
def proc (config : HealthdConfig) (board : Board) (s : Healthd C) : Entry C → Proc C (Healthd C)
  | update => do
    let (_, s) ← Health.update config s
    pure s
  | registerCallback callback => do
    let (_, s) ← Health.registerCallback config s (some callback)
    pure s
  | getHealthInfo => Health.getHealthInfo config board s
  | wakealarmEvent => Health.wakealarmEvent config s
  | ueventEvent => Health.ueventEvent config s

end Entry

/-- Every call but `battery_update`. -/
def IsNotBatteryUpdate (c : Sys C) : Prop :=
  c ≠ .modeOp .batteryUpdate

section Only

variable (config : HealthdConfig) (board : Board) (s : Healthd C)

/-- **An update never calls `battery_update`.** -/
theorem update_only_isNotBatteryUpdate : Only IsNotBatteryUpdate (update config s) := by
  refine (update_only s).mono ?_
  rintro _ ⟨fd, interval, rfl⟩
  nofun

theorem getHealthInfo_only : Only IsNotBatteryUpdate (getHealthInfo config board s) :=
  (update_only_isNotBatteryUpdate config s).bind fun _ ↦ ⟨nofun, fun _ ↦ ⟨nofun, fun _ ↦ trivial⟩⟩

theorem healthdBatteryUpdate_only : Only IsNotBatteryUpdate (healthdBatteryUpdate config s) := by
  have hinstance : Only IsNotBatteryUpdate (getImplementation s) := by
    rw [getImplementation]
    split
    · trivial
    · exact ⟨nofun, fun x ↦ x.elim⟩
  exact hinstance.bind fun _ ↦ (update_only_isNotBatteryUpdate config s).bind fun _ ↦ trivial

/-- Nor does any entry point. -/
theorem Entry.proc_only (e : Entry C) : Only IsNotBatteryUpdate (e.proc config board s) := by
  cases e with
  | update => exact (update_only_isNotBatteryUpdate config s).bind fun _ ↦ trivial
  | registerCallback callback =>
    have hregister : Only IsNotBatteryUpdate (Health.registerCallback config s (some callback)) :=
      ⟨by rintro ⟨⟩, fun _ ↦ update_only_isNotBatteryUpdate config _⟩
    exact hregister.bind fun _ ↦ trivial
  | getHealthInfo => exact getHealthInfo_only config board s
  | wakealarmEvent =>
    refine ⟨by rintro ⟨⟩, fun result ↦ ?_⟩
    show Only _ (if result = -1 then _ else _)
    split
    · trivial
    · exact ⟨by rintro ⟨⟩, fun _ ↦ healthdBatteryUpdate_only config s⟩
  | ueventEvent =>
    refine ⟨by rintro ⟨⟩, fun x ↦ ?_⟩
    obtain ⟨n, received⟩ := x
    show Only _ (if n ≤ 0 then _ else if n ≥ ueventMsgLen then _ else _)
    split_ifs
    · trivial
    · trivial
    · dsimp only
      split
      · exact ⟨by rintro ⟨⟩, fun _ ↦ trivial⟩
      · exact healthdBatteryUpdate_only config s
      · trivial

end Only

/-! ### Reachable states -/

section Reachable

variable [Interfaces C] {config : HealthdConfig} {board : Board} {s₀ s s' : Healthd C}

/-- No section exchanges the ops table. -/
theorem Section.proc_modeOps {x : Section C} {r : x.Answer} {t : List (SysEvent C)}
    (h : Runs (x.proc config s) t (r, s')) : s'.healthdModeOps = s.healthdModeOps := by
  cases x with
  | push callback =>
    obtain ⟨-, hr⟩ := runs_ret_iff.1 h
    obtain ⟨-, rfl⟩ := Prod.mk.inj hr
    rfl
  | remove callback => rw [(unregisterCallbackInternal_spec h).1]
  | update => rw [(update_spec h).1]
  | notify _ | link _ | currentAverage =>
    obtain ⟨_, -, hr⟩ := runs_bind_ret_iff.1 h
    obtain ⟨-, rfl⟩ := Prod.mk.inj hr
    rfl

/-- Nor does any sequence of calls. -/
theorem modeOps_eq {l : List (CallRun C)} (h : Execution (Call.proc config board) s₀ l s) :
    s.healthdModeOps = s₀.healthdModeOps := by
  refine h.invariant (G := fun _ _ ↦ True) (I := fun _ s ↦ s.healthdModeOps = s₀.healthdModeOps)
    rfl ?_ (fun _ _ _ _ ↦ trivial)
  intro l e s hbefore _ he
  rw [Executed.IsRun, ← Call.inline_sections] at he
  obtain ⟨m, hm, -, -⟩ := execution_of_inline he
  have hsections := hm.invariant (G := fun _ _ ↦ True)
    (I := fun _ s ↦ s.healthdModeOps = e.before.healthdModeOps) rfl
    (fun _ _ _ h _ hrun ↦ (Section.proc_modeOps hrun).trans h) (fun _ _ _ _ ↦ trivial)
  exact hsections.trans hbefore

end Reachable

/-- A run without `battery_update` reaches nobody, not even when nobody listens. -/
theorem not_reachesListeners {α : Type} {p : Proc C α} {t : List (SysEvent C)} {a : α}
    {callbacks : List C} (h : Only IsNotBatteryUpdate p) (hr : Runs p t a) :
    ¬ReachesListeners callbacks t := by
  rintro ⟨⟨e, he, hcall⟩, -⟩
  exact (h.steps hr).1 e he hcall

/-- **No update reaches a listener**: from every reachable state, with the service's ops table
installed, every update can be run, succeeds and calls nobody; nor does the entry point that makes
the update. -/
theorem update_reaches_nobody [Interfaces C] {config : HealthdConfig} {board : Board}
    {s₀ s : Healthd C} {l : List (CallRun C)}
    (hops : s₀.healthdModeOps = some healthdModeServiceOps)
    (h : Execution (Call.proc config board) s₀ l s) (e : Entry C) :
    (∃ t s', Runs (update config (e.before s)) t (.success, s')) ∧
      (∀ t result s', Runs (update config (e.before s)) t (result, s') →
        result = .success ∧ ¬ReachesListeners (e.before s).callbacks_ t) ∧
      ∀ t s', Runs (e.proc config board s) t s' →
        ¬ReachesListeners (e.before s).callbacks_ t := by
  have hbefore : (e.before s).hasBatteryUpdate = true := by
    have hs : (e.before s).healthdModeOps = some healthdModeServiceOps := by
      rw [← hops, ← modeOps_eq h]
      cases e <;> rfl
    rw [Healthd.hasBatteryUpdate, hs]
    rfl
  have hsuccess : ∀ {t result s'}, Runs (update config (e.before s)) t (result, s') →
      result = .success := by
    intro t result s' hr
    rw [(update_spec hr).2, hbefore]
    rfl
  refine ⟨?_, fun t result s' hr ↦ ⟨hsuccess hr, ?_⟩, fun t s' hr ↦ ?_⟩
  · have hanswered : Only (fun c ↦ Nonempty (SysAnswer c)) (update config (e.before s)) := by
      refine (update_only _).mono ?_
      rintro _ ⟨fd, interval, rfl⟩
      exact ⟨(0 : Int)⟩
    obtain ⟨t, ⟨result, s'⟩, hr⟩ := hanswered.exists_runs
    obtain rfl := hsuccess hr
    exact ⟨t, s', hr⟩
  · exact not_reachesListeners (update_only_isNotBatteryUpdate config _) hr
  · exact not_reachesListeners (e.proc_only config board s) hr

/-- A first registration. -/
def firstRegistration : CallRun ℕ :=
  ⟨.started [], ⟨.registerCallback (some 1), some .success⟩, [⟨.linkToDeath 1, .ok true⟩]⟩

theorem firstRegistration_isRun :
    firstRegistration.IsRun (Call.proc .default .service) (.started [1]) :=
  Steps.call (Steps.refl _)

theorem update_reaches_nobody_registered :
    (∃ t s', Runs (update .default (.started [1])) t (.success, s')) ∧
      (∀ t result s', Runs (update .default (.started [1])) t (result, s') →
        result = .success ∧ ¬ReachesListeners [1] t) ∧
      ∀ t s', Runs (Entry.update.proc .default .service (.started [1])) t s' →
        ¬ReachesListeners [1] t :=
  update_reaches_nobody rfl (.single firstRegistration_isRun) .update

/-- **A listener that is not notified**: it registers, and the next update succeeds without a
call. -/
theorem update_leaves_listener_unnotified :
    Execution (Call.proc .default .service) (.started []) [firstRegistration] (.started [1]) ∧
      Runs (update .default (.started [1])) [] (.success, .started [1]) ∧
      ¬ReachesListeners [1] ([] : List (SysEvent ℕ)) := by
  refine ⟨.single firstRegistration_isRun, Steps.refl _, ?_⟩
  rintro ⟨⟨e, he, -⟩, -⟩
  cases he

end Health

end XenvmHal
