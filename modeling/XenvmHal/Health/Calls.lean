import XenvmHal.Health.Mainloop
import XenvmHal.Interaction.Sections

/-!
# Calls on the health object

The calls on the health object, and the sections they consist of. The registry is only touched
under `callbacks_lock_`: in the push of `registerCallback`, in `unregisterCallbackInternal` and in
the loop of `notifyListeners`. What a call does outside the lock is a section of its own, since
other calls can come before and after it.

`inline_sections` ties the two levels together: a call that runs without interruption is the
method. The specifications before it say what an update and the two loops do to the registry, and
are all that later modules use of them.
-/

namespace XenvmHal

open Interaction Program

namespace Health

variable {C : Type}

/-! ### What an update does -/

/-- The one call that an update makes. -/
def IsTimerCall (c : Sys C) : Prop :=
  ∃ fd interval, c = .timerfdSettime fd interval

section Update

variable {config : HealthdConfig} {s s' : Healthd C} {t : List (SysEvent C)} {result : Result}

theorem wakealarmSetInterval_only (s : Healthd C) (interval : Int) :
    Only IsTimerCall (wakealarmSetInterval s interval) := by
  rw [wakealarmSetInterval]
  split
  · trivial
  · exact ⟨⟨_, _, rfl⟩, fun _ ↦ trivial⟩

theorem wakealarmSetInterval_spec {interval : Int}
    (h : Runs (wakealarmSetInterval s interval) t s') :
    s' = { s with wakealarmWakeInterval := s'.wakealarmWakeInterval } := by
  rw [wakealarmSetInterval] at h
  split at h
  · obtain ⟨-, rfl⟩ := runs_ret_iff.1 h
    rfl
  · obtain ⟨x, u, rfl, hu⟩ := runs_call_iff.1 h
    obtain ⟨-, rfl⟩ := runs_ret_iff.1 hu
    rfl

theorem healthdBatteryUpdateInternal_only (s : Healthd C) (chargerOnline : Bool) :
    Only IsTimerCall (healthdBatteryUpdateInternal config s chargerOnline) := by
  simp only [healthdBatteryUpdateInternal]
  generalize (if chargerOnline = true then config.periodicChoresIntervalFast
    else config.periodicChoresIntervalSlow) = newWakeInterval
  split
  · exact (wakealarmSetInterval_only s _).bind fun _ ↦ trivial
  · trivial

theorem healthdBatteryUpdateInternal_spec {chargerOnline : Bool}
    (h : Runs (healthdBatteryUpdateInternal config s chargerOnline) t s') :
    s' = { s with
      awakePollInterval := s'.awakePollInterval
      wakealarmWakeInterval := s'.wakealarmWakeInterval } := by
  simp only [healthdBatteryUpdateInternal] at h
  generalize (if chargerOnline = true then config.periodicChoresIntervalFast
    else config.periodicChoresIntervalSlow) = newWakeInterval at h
  split at h
  · obtain ⟨s₁, hset, rfl⟩ := runs_bind_ret_iff.1 h
    have hs₁ := wakealarmSetInterval_spec hset
    rw [hs₁]
  · obtain ⟨-, rfl⟩ := runs_ret_iff.1 h
    rfl

/-- An update only programs the timer. -/
theorem update_only (s : Healthd C) : Only IsTimerCall (update config s) := by
  rw [update]
  split
  · trivial
  · exact (healthdBatteryUpdateInternal_only s true).bind fun _ ↦ trivial

/-- **An update** only changes the two intervals, and succeeds when there is a `battery_update`. -/
theorem update_spec (h : Runs (update config s) t (result, s')) :
    s' = { s with
        awakePollInterval := s'.awakePollInterval
        wakealarmWakeInterval := s'.wakealarmWakeInterval } ∧
      result = if s.hasBatteryUpdate then .success else .unknown := by
  rw [update] at h
  split at h
  case isTrue hops =>
    obtain ⟨-, hr⟩ := runs_ret_iff.1 h
    obtain ⟨rfl, rfl⟩ := Prod.mk.inj hr
    exact ⟨rfl, by simp [hops]⟩
  case isFalse hops =>
    obtain ⟨s₁, hupdate, hr⟩ := runs_bind_ret_iff.1 h
    obtain ⟨rfl, rfl⟩ := Prod.mk.inj hr
    exact ⟨healthdBatteryUpdateInternal_spec hupdate, by simp [hops]⟩

theorem update_callbacks (h : Runs (update config s) t (result, s')) :
    s'.callbacks_ = s.callbacks_ := by
  rw [(update_spec h).1]

/-- **A registration** appends the callback, links to its death and then only updates. -/
theorem registerCallback_spec {callback : C}
    (h : Runs (registerCallback config s (some callback)) t (result, s')) :
    s'.callbacks_ = s.callbacks_ ++ [callback] ∧
      ∃ x u, t = ⟨.linkToDeath callback, x⟩ :: u ∧ ∀ e ∈ u, IsTimerCall e.call := by
  obtain ⟨x, u, rfl, hu⟩ := runs_call_iff.1 h
  have hupdate : Runs (update config (registerPush s callback)) u (result, s') := hu
  exact ⟨update_callbacks hupdate, x, u, rfl, ((update_only _).steps hupdate).1⟩

end Update

/-! ### What the loops do -/

/-- The reply of a notification. -/
def reply : SysEvent C → Option (Return Unit)
  | ⟨.healthInfoChanged _ _, result⟩ => some result
  | _ => none

/-- The entries whose notification did not fail with a dead object. -/
def survivors (callbacks : List C) (t : List (SysEvent C)) : List C :=
  ((callbacks.zip (t.filterMap reply)).filter fun p ↦ !p.2.isDeadObject).map Prod.fst

section Loops

@[simp] theorem survivors_nil (t : List (SysEvent C)) : survivors [] t = [] := rfl

theorem survivors_cons (c d : C) (callbacks : List C) (info : HealthInfo) (result : Return Unit)
    (t : List (SysEvent C)) :
    survivors (c :: callbacks) (⟨.healthInfoChanged d info, result⟩ :: t) =
      if result.isDeadObject then survivors callbacks t else c :: survivors callbacks t := by
  cases h : result.isDeadObject <;> simp [survivors, reply, h]

theorem mem_of_mem_survivors {callbacks : List C} {t : List (SysEvent C)} {callback : C}
    (h : callback ∈ survivors callbacks t) : callback ∈ callbacks := by
  obtain ⟨⟨c, result⟩, hmem, rfl⟩ := List.mem_map.1 h
  exact (List.of_mem_zip (List.mem_filter.1 hmem).1).1

/-- Erasing at `it` leaves what comes before it. -/
theorem take_eraseIdx_self (callbacks : List C) {it : ℕ} (h : it < callbacks.length) :
    (callbacks.eraseIdx it).take it = callbacks.take it := by
  rw [List.eraseIdx_eq_take_drop_succ, List.take_left' (by simp; omega)]

/-- Erasing at `it` moves the next element there. -/
theorem drop_eraseIdx_self (callbacks : List C) {it : ℕ} (h : it < callbacks.length) :
    (callbacks.eraseIdx it).drop it = callbacks.drop (it + 1) := by
  rw [List.eraseIdx_eq_take_drop_succ, List.drop_left' (by simp; omega)]

/-- **The loop of `notifyListeners`** calls each entry once, in order, and drops the dead ones. -/
theorem notifyLoop_spec {info : HealthInfo} {callbacks callbacks' : List C} {it : ℕ}
    {t : List (SysEvent C)} (h : Runs (notifyLoop info callbacks it) t callbacks') :
    t.map Event.call = (callbacks.drop it).map (Sys.healthInfoChanged · info) ∧
      callbacks' = callbacks.take it ++ survivors (callbacks.drop it) t := by
  induction callbacks, it using notifyLoop.induct generalizing t with
  | case1 callbacks it hlt ihDead ihAlive =>
    rw [notifyLoop, dif_pos hlt] at h
    obtain ⟨result, u, rfl, hu⟩ := runs_call_iff.1 h
    rw [List.drop_eq_getElem_cons hlt, survivors_cons]
    change Runs (if result.isOk = false ∧ result.isDeadObject = true then _ else _) u _ at hu
    split at hu
    case isTrue hdead =>
      obtain ⟨hcalls, hcallbacks⟩ := ihDead hu
      rw [drop_eraseIdx_self callbacks hlt] at hcalls hcallbacks
      rw [take_eraseIdx_self callbacks hlt] at hcallbacks
      exact ⟨by rw [List.map_cons, List.map_cons, hcalls], by rw [if_pos hdead.2, hcallbacks]⟩
    case isFalse halive =>
      have hne : ¬result.isDeadObject = true := by
        intro hdead
        cases result <;> simp_all [Return.isOk, Return.isDeadObject]
      obtain ⟨hcalls, hcallbacks⟩ := ihAlive hu
      rw [List.take_succ_eq_append_getElem hlt] at hcallbacks
      exact ⟨by rw [List.map_cons, List.map_cons, hcalls],
        by rw [if_neg hne, hcallbacks, List.append_assoc, List.singleton_append]⟩
  | case2 callbacks it hge =>
    rw [notifyLoop, dif_neg hge] at h
    obtain ⟨rfl, rfl⟩ := runs_ret_iff.1 h
    have hle : callbacks.length ≤ it := Nat.le_of_not_lt hge
    simp [List.drop_of_length_le hle, List.take_of_length_le hle]

variable [Interfaces C]

/-- **The loop of `unregisterCallbackInternal`** removes the equal entries and no others. -/
theorem eraseLoop_eq (callback : C) (callbacks : List C) (it : ℕ) (removed : Bool) :
    eraseLoop callback callbacks it removed =
      (callbacks.take it ++ (callbacks.drop it).filter (!interfacesEqual · callback),
        removed || (callbacks.drop it).any (interfacesEqual · callback)) := by
  induction callbacks, it, removed using eraseLoop.induct callback with
  | case1 callbacks it removed hlt heq ih =>
    rw [eraseLoop, dif_pos hlt, if_pos heq, ih, drop_eraseIdx_self callbacks hlt,
      take_eraseIdx_self callbacks hlt, List.drop_eq_getElem_cons hlt,
      List.filter_cons_of_neg (by simp [heq]), List.any_cons, heq, Bool.true_or, Bool.or_true]
  | case2 callbacks it removed hlt hne ih =>
    rw [eraseLoop, dif_pos hlt, if_neg hne, ih, List.take_succ_eq_append_getElem hlt,
      List.drop_eq_getElem_cons hlt, List.filter_cons_of_pos (by simp [hne]), List.any_cons,
      eq_false_of_ne_true hne, Bool.false_or, List.append_assoc, List.singleton_append]
  | case3 callbacks it removed hge =>
    have hle : callbacks.length ≤ it := Nat.le_of_not_lt hge
    rw [eraseLoop, dif_neg hge, List.drop_of_length_le hle, List.take_of_length_le hle]
    simp

/-- **Unregistering** removes the equal entries and gives one link back. -/
theorem unregisterCallbackInternal_eq (s : Healthd C) (callback : C) :
    unregisterCallbackInternal s (some callback) = Program.call (.unlinkToDeath callback) fun _ ↦
      ret (s.callbacks_.any (interfacesEqual · callback),
        { s with callbacks_ := s.callbacks_.filter (!interfacesEqual · callback) }) := by
  simp only [unregisterCallbackInternal, eraseLoop_eq]
  rfl

theorem unregisterCallbackInternal_spec {callback : C} {s s' : Healthd C} {removed : Bool}
    {t : List (SysEvent C)}
    (h : Runs (unregisterCallbackInternal s (some callback)) t (removed, s')) :
    s' = { s with callbacks_ := s.callbacks_.filter (!interfacesEqual · callback) } ∧
      removed = s.callbacks_.any (interfacesEqual · callback) ∧
      ∃ x, t = [⟨.unlinkToDeath callback, x⟩] := by
  rw [unregisterCallbackInternal_eq] at h
  obtain ⟨x, u, rfl, hu⟩ := runs_call_iff.1 h
  obtain ⟨rfl, hr⟩ := runs_ret_iff.1 hu
  obtain ⟨rfl, rfl⟩ := Prod.mk.inj hr
  exact ⟨rfl, rfl, x, rfl⟩

theorem unregisterCallback_spec {callback : C} {s s' : Healthd C} {result : Result}
    {t : List (SysEvent C)} (h : Runs (unregisterCallback s (some callback)) t (result, s')) :
    s' = { s with callbacks_ := s.callbacks_.filter (!interfacesEqual · callback) } ∧
      (result = if s.callbacks_.any (interfacesEqual · callback) then .success else .notFound) ∧
      ∃ x, t = [⟨.unlinkToDeath callback, x⟩] := by
  obtain ⟨⟨removed, s₁⟩, hinternal, hr⟩ := runs_bind_ret_iff.1 h
  obtain ⟨rfl, rfl⟩ := Prod.mk.inj hr
  obtain ⟨hs, rfl, x, rfl⟩ := unregisterCallbackInternal_spec hinternal
  exact ⟨hs, rfl, x, rfl⟩

end Loops

/-! ### Sections -/

/-- The sections of the calls on the health object. -/
inductive Section (C : Type)
  -- under the lock
  | push (callback : C)
  | remove (callback : C)
  | notify (info : HealthInfo)
  -- outside it
  | link (callback : C)
  | update
  | currentAverage
  deriving DecidableEq, Repr

/-- Whether a section is run under the lock. -/
def Section.isLocked : Section C → Bool
  | .push _ | .remove _ | .notify _ => true
  | .link _ | .update | .currentAverage => false

/-- What a section returns. -/
@[reducible] def Section.Answer : Section C → Type
  | .push _ => Unit
  | .remove _ => Bool
  | .notify _ => Unit
  | .link _ => Unit
  | .update => Result
  | .currentAverage => Int32

/-- A section that was run. -/
abbrev SectionRun (C : Type) :=
  Executed (Section C) Section.Answer (Sys C) SysAnswer (Healthd C)

/-- The calls on the health object. -/
inductive Call (C : Type)
  | registerCallback (callback : Option C)
  | unregisterCallback (callback : Option C)
  /-- A death notification; `none` when `who` cannot be promoted any more. -/
  | serviceDied (who : Option C)
  | update
  | notifyListeners
  deriving DecidableEq, Repr

/-- A call that was run. -/
abbrev CallRun (C : Type) :=
  Executed (Call C) (fun _ ↦ Option Result) (Sys C) SysAnswer (Healthd C)

variable [Interfaces C] (config : HealthdConfig) (board : Board)

/-- What a section does. -/
def Section.proc : (x : Section C) → Healthd C → Proc C (x.Answer × Healthd C)
  | .push callback, s => pure ((), registerPush s callback)
  | .remove callback, s => unregisterCallbackInternal s (some callback)
  | .notify info, s => do
    let callbacks ← notifyLoop info s.callbacks_ 0
    pure ((), { s with callbacks_ := callbacks })
  | .link callback, s => do
    registerLink callback
    pure ((), s)
  | .update, s => Health.update config s
  | .currentAverage, s => do
    let currentAvg ← Health.currentAverage
    pure (currentAvg, s)

namespace Call

/-- The method: its result, `none` for a method without one, and the new state. -/
def proc : Call C → Healthd C → Proc C (Option Result × Healthd C)
  | .registerCallback callback, s => do
    let (result, s) ← Health.registerCallback config s callback
    pure (some result, s)
  | .unregisterCallback callback, s => do
    let (result, s) ← Health.unregisterCallback s callback
    pure (some result, s)
  | .serviceDied who, s => do
    let s ← Health.serviceDied s who
    pure (none, s)
  | .update, s => do
    let (result, s) ← Health.update config s
    pure (some result, s)
  | .notifyListeners, s => do
    let (_, s) ← Health.notifyListeners board s
    pure (none, s)

/-- A call, section by section. -/
def sections : Call C → Program (Section C) Section.Answer (Option Result)
  | .registerCallback none => pure (some .success)
  | .registerCallback (some callback) => do
    Program.perform (Section.push callback)
    Program.perform (Section.link callback)
    let result ← Program.perform (Section.update : Section C)
    pure (some result)
  | .unregisterCallback none => pure (some .notFound)
  | .unregisterCallback (some callback) => do
    let removed ← Program.perform (Section.remove callback)
    pure (some (if removed then .success else .notFound))
  | .serviceDied none => pure none
  | .serviceDied (some who) => do
    let _ ← Program.perform (Section.remove who)
    pure none
  | .update => do
    let result ← Program.perform (Section.update : Section C)
    pure (some result)
  | .notifyListeners => do
    let currentAvg ← Program.perform (Section.currentAverage : Section C)
    Program.perform (Section.notify (healthInfo board currentAvg) : Section C)
    pure none

/-- **A call is its sections**, run without interruption. -/
theorem inline_sections (x : Call C) (s : Healthd C) :
    inline (Section.proc config) (x.sections board) s = x.proc config board s := by
  cases x with
  | registerCallback callback => cases callback <;> rfl
  | unregisterCallback callback => cases callback <;> rfl
  | serviceDied who => cases who <;> rfl
  | update => rfl
  | notifyListeners => simp [sections, proc, Section.proc, Health.notifyListeners, Program.perform]

end Call

end Health

end XenvmHal
