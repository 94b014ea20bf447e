import XenvmHal.Health.LoopState
import XenvmHal.Health.Registry
import XenvmHal.Health.Transactions

/-!
# The daemon as a sequence of calls

The registry, the death links and the listeners are studied over executions: calls on the health
object, one after the other, from any state. The daemon is a loop over events. Here the two meet: a
run of the daemon *is* its set-up followed by such an execution, from the process that set-up leaves
to the one in which the loop ends (`main_refines_calls`).

Nothing about the execution is left open. Its calls are those that the events of the run ask for, in
their order (`asked`): the calls of the transactions fetched, and an update for each call of
`periodic_chores` and each message of the power supply. And its trace is what the run shows of the
object (`objectTrace`).

The proof goes through the daemon from the inside out. `MakesCalls` says of a piece of a run which
calls it makes; pieces compose (`MakesCalls.trans`).
-/

namespace XenvmHal

open Interaction Program

namespace Health

variable {C : Type}

/-! ### Calls on the registry -/

/-- The call on the registry that a transaction asks for. -/
def Transaction.change : Transaction C → Option (Call C)
  | .registerCallback callback => some (.registerCallback callback)
  | .unregisterCallback callback => some (.unregisterCallback callback)
  | .serviceDied who => some (.serviceDied who)
  | .update | .getHealthInfo | .debug _ => none

/-- The calls that a transaction makes on the object. A query begins with an update. -/
def Transaction.calls : Transaction C → List (Call C)
  | .registerCallback callback => [.registerCallback callback]
  | .unregisterCallback callback => [.unregisterCallback callback]
  | .serviceDied who => [.serviceDied who]
  | .update | .getHealthInfo => [.update]
  | .debug numFds => if numFds.getD 0 ≥ 1 then [.update] else []

/-- The calls that an event asks for. -/
def asked : SysEvent C → List (Call C)
  | ⟨.handleTransportPoll _, transactions⟩ => transactions.flatMap Transaction.calls
  | ⟨.periodicChores, _⟩ => [.update]
  | ⟨.ueventRecv _ _, x⟩ =>
    if 0 < x.1 ∧ x.1 < 2048 ∧ subsystemPowerSupply ∈ ueventStrings (x.2.take x.1.toNat) then
      [.update]
    else []
  | _ => []

/-- The calls that a call on the object makes: to the clients, and to the timer. -/
def Sys.ofObject : Sys C → Bool
  | .linkToDeath _ | .unlinkToDeath _ | .healthInfoChanged _ _ | .timerfdSettime _ _ => true
  | _ => false

/-- What a trace shows of the object. -/
def objectTrace (t : List (SysEvent C)) : List (SysEvent C) :=
  t.filter (·.call.ofObject)

/-- Whether a call is an update. -/
def Call.isUpdate : Call C → Bool
  | .update => true
  | _ => false

variable [Interfaces C]

/-- What a call makes of the registry, if it is not a round of notifications. -/
def Call.next (callbacks : List C) : Call C → List C
  | .registerCallback (some callback) => callbacks ++ [callback]
  | .unregisterCallback (some callback) | .serviceDied (some callback) =>
    callbacks.filter (!interfacesEqual · callback)
  | .registerCallback none | .unregisterCallback none | .serviceDied none | .update
  | .notifyListeners => callbacks

/-- The registry that transactions lead to. -/
def registryAfter (ts : List (Transaction C)) : List C :=
  (ts.filterMap Transaction.change).foldl Call.next []

section Calls

variable {config : HealthdConfig} {board : Board} {s s' s₀ : Healthd C} {t u : List (SysEvent C)}

/-- **One call** makes of the registry what `Call.next` says. -/
theorem Call.callbacks_of_isRun {e : CallRun C} (h : e.IsRun (Call.proc config board) s)
    (hnotify : e.event.call ≠ .notifyListeners) :
    s.callbacks_ = Call.next e.before.callbacks_ e.event.call := by
  obtain ⟨before, ⟨x, r⟩, trace⟩ := e
  cases x with
  | registerCallback callback =>
    obtain ⟨⟨result, s₁⟩, hregister, hr⟩ := runs_bind_ret_iff.1 h
    obtain ⟨-, rfl⟩ := Prod.mk.inj hr
    cases callback with
    | none =>
      obtain ⟨-, hr⟩ := runs_ret_iff.1 hregister
      obtain ⟨-, rfl⟩ := Prod.mk.inj hr
      rfl
    | some callback => exact (registerCallback_spec hregister).1
  | unregisterCallback callback =>
    obtain ⟨⟨result, s₁⟩, hunregister, hr⟩ := runs_bind_ret_iff.1 h
    obtain ⟨-, rfl⟩ := Prod.mk.inj hr
    cases callback with
    | none =>
      obtain ⟨-, hr⟩ := runs_ret_iff.1 hunregister
      obtain ⟨-, rfl⟩ := Prod.mk.inj hr
      rfl
    | some callback => rw [(unregisterCallback_spec hunregister).1]; rfl
  | serviceDied who =>
    obtain ⟨s₁, hdied, hr⟩ := runs_bind_ret_iff.1 h
    obtain ⟨-, rfl⟩ := Prod.mk.inj hr
    obtain ⟨⟨removed, s₂⟩, hremove, rfl⟩ := runs_bind_ret_iff.1 hdied
    cases who with
    | none =>
      obtain ⟨-, hr⟩ := runs_ret_iff.1 hremove
      obtain ⟨-, rfl⟩ := Prod.mk.inj hr
      rfl
    | some callback => rw [(unregisterCallbackInternal_spec hremove).1]; rfl
  | update =>
    obtain ⟨⟨result, s₁⟩, hupdate, hr⟩ := runs_bind_ret_iff.1 h
    obtain ⟨-, rfl⟩ := Prod.mk.inj hr
    exact update_callbacks hupdate
  | notifyListeners => exact absurd rfl hnotify

/-- **Any number of calls**, one after the other. -/
theorem Call.callbacks_of_execution {l : List (CallRun C)}
    (h : Execution (Call.proc config board) s₀ l s)
    (hnotify : ∀ e ∈ l, e.event.call ≠ .notifyListeners) :
    s.callbacks_ = (l.map (·.event.call)).foldl Call.next s₀.callbacks_ := by
  induction h with
  | nil => rfl
  | @snoc l e s _ he ih =>
    rw [List.forall_mem_append, List.forall_mem_singleton] at hnotify
    rw [List.map_append, List.foldl_append, ← ih hnotify.1]
    exact Call.callbacks_of_isRun he hnotify.2

/-- Updates leave the registry alone. -/
theorem Call.foldl_next_filter (callbacks : List C) (calls : List (Call C)) :
    (calls.filter (!·.isUpdate)).foldl Call.next callbacks = calls.foldl Call.next callbacks := by
  induction calls generalizing callbacks with
  | nil => rfl
  | cons x calls ih => cases x <;> exact ih _

omit [Interfaces C] in
theorem Transaction.filter_calls (transaction : Transaction C) :
    transaction.calls.filter (!·.isUpdate) = transaction.change.toList := by
  cases transaction
  case debug numFds =>
    rw [calls]
    split <;> rfl
  all_goals rfl

omit [Interfaces C] in
/-- **Apart from updates**, a run asks for what its transactions do to the registry. -/
theorem filter_asked (t : List (SysEvent C)) :
    (t.flatMap asked).filter (!·.isUpdate) =
      ((transactions C).inputs t).filterMap Transaction.change := by
  have hevent : ∀ e : SysEvent C, (asked e).filter (!·.isUpdate) =
      (fetched e).filterMap Transaction.change := by
    rintro ⟨c, x⟩
    cases c
    case handleTransportPoll fd =>
      show (List.flatMap Transaction.calls x).filter (!·.isUpdate) = List.filterMap _ x
      rw [List.filter_flatMap, List.filterMap_eq_flatMap_toList]
      exact List.flatMap_congr fun transaction _ ↦ transaction.filter_calls
    case ueventRecv fd room =>
      rw [asked]
      split <;> rfl
    all_goals rfl
  rw [List.filter_flatMap, Demands.inputs, List.filterMap_flatMap]
  exact List.flatMap_congr fun e _ ↦ hevent e

/-! ### Pieces of a run -/

variable (config board) in
/-- **A piece of a run is an execution** of the calls `xs`, and shows nothing else of the object. -/
def MakesCalls (s : Healthd C) (xs : List (Call C)) (t : List (SysEvent C)) (s' : Healthd C) :
    Prop :=
  ∃ l : List (CallRun C), Execution (Call.proc config board) s l s' ∧
    l.map (·.event.call) = xs ∧ l.flatMap Executed.trace = objectTrace t

variable {xs ys : List (Call C)}

omit [Interfaces C] in
theorem objectTrace_eq_nil (h : ∀ e ∈ t, e.call.ofObject = false) : objectTrace t = [] :=
  List.filter_eq_nil_iff.2 fun e he ↦ Bool.eq_false_iff.1 (h e he)

/-- A piece without calls. -/
theorem MakesCalls.refl (s : Healthd C) (ht : objectTrace t = []) :
    MakesCalls config board s [] t s :=
  ⟨[], .nil, rfl, ht.symm⟩

theorem MakesCalls.trans {s₁ : Healthd C} (h : MakesCalls config board s xs t s₁)
    (h' : MakesCalls config board s₁ ys u s') :
    MakesCalls config board s (xs ++ ys) (t ++ u) s' := by
  obtain ⟨l, hl, rfl, htrace⟩ := h
  obtain ⟨l', hl', rfl, htrace'⟩ := h'
  refine ⟨l ++ l', hl.trans hl', List.map_append, ?_⟩
  rw [List.flatMap_append, htrace, htrace', objectTrace, objectTrace, objectTrace,
    List.filter_append]

/-- What comes before, if it shows nothing of the object. -/
theorem MakesCalls.cons {e : SysEvent C} (h : MakesCalls config board s xs t s')
    (he : e.call.ofObject = false) : MakesCalls config board s xs (e :: t) s' := by
  have hfirst : objectTrace [e] = [] := objectTrace_eq_nil (List.forall_mem_singleton.2 he)
  exact (MakesCalls.refl s hfirst).trans h

/-- What comes after. -/
theorem MakesCalls.append (h : MakesCalls config board s xs t s') (hu : objectTrace u = []) :
    MakesCalls config board s xs (t ++ u) s' := by
  have hall := h.trans (MakesCalls.refl s' hu)
  rwa [List.append_nil] at hall

/-- One call, all of whose own calls are those of an object. -/
theorem MakesCalls.single {x : Call C} {r : Option Result}
    (h : Runs (x.proc config board s) t (r, s')) (ht : ∀ e ∈ t, e.call.ofObject) :
    MakesCalls config board s [x] t s' := by
  have he : Executed.IsRun (Call.proc config board) ⟨s, ⟨x, r⟩, t⟩ s' := h
  refine ⟨[⟨s, ⟨x, r⟩, t⟩], .single he, rfl, ?_⟩
  rw [List.flatMap_singleton, objectTrace, List.filter_eq_self.2 ht]

omit [Interfaces C] in
theorem IsTimerCall.ofObject {c : Sys C} (h : IsTimerCall c) : c.ofObject := by
  obtain ⟨fd, interval, rfl⟩ := h
  rfl

theorem update_makesCalls {result : Result} (h : Runs (update config s) t (result, s')) :
    MakesCalls config board s [.update] t s' :=
  .single (x := .update) (runs_bind_ret_iff.2 ⟨_, h, rfl⟩)
    fun e he ↦ (((update_only s).steps h).1 e he).ofObject

theorem healthdBatteryUpdate_makesCalls (h : Runs (healthdBatteryUpdate config s) t s') :
    MakesCalls config board s [.update] t s' := by
  obtain ⟨u, v, _, rfl, hinstance, hv⟩ := runs_bind_iff.1 h
  obtain ⟨⟨result, s₁⟩, hupdate, rfl⟩ := runs_bind_ret_iff.1 hv
  obtain rfl : u = [] := by
    rw [getImplementation] at hinstance
    split at hinstance
    · exact (runs_ret_iff.1 hinstance).1
    · obtain ⟨x, -⟩ := runs_call_iff.1 hinstance
      exact x.elim
  exact update_makesCalls hupdate

theorem periodicChores_makesCalls (h : Runs (periodicChores config s) t s') :
    MakesCalls config board s [.update] t s' := by
  obtain ⟨_, u, rfl, hu⟩ := runs_call_iff.1 h
  exact (healthdBatteryUpdate_makesCalls hu).cons rfl

theorem getHealthInfo_makesCalls (h : Runs (getHealthInfo config board s) t s') :
    MakesCalls config board s [.update] t s' := by
  obtain ⟨u, v, ⟨result, s₁⟩, rfl, hupdate, hv⟩ := runs_bind_iff.1 h
  obtain ⟨x, w, rfl, hinfo⟩ := runs_call_iff.1 hv
  obtain ⟨_, w', rfl, hw⟩ := runs_call_iff.1 hinfo
  obtain ⟨rfl, rfl⟩ := runs_ret_iff.1 hw
  exact (update_makesCalls hupdate).append rfl

omit [Interfaces C] in
theorem registerCallback_ofObject (s : Healthd C) (callback : Option C) :
    Only (fun c ↦ c.ofObject) (registerCallback config s callback) := by
  cases callback with
  | none => trivial
  | some callback => exact ⟨rfl, fun _ ↦ (update_only _).mono fun _ hc ↦ IsTimerCall.ofObject hc⟩

theorem unregisterCallbackInternal_ofObject (s : Healthd C) (callback : Option C) :
    Only (fun c ↦ c.ofObject) (unregisterCallbackInternal s callback) := by
  cases callback with
  | none => trivial
  | some callback => exact ⟨rfl, fun _ ↦ trivial⟩

/-- Every call on the registry that a transaction makes is one of the object. -/
theorem Call.proc_ofObject {x : Call C} (s : Healthd C) (hnotify : x ≠ .notifyListeners) :
    Only (fun c ↦ c.ofObject) (x.proc config board s) := by
  cases x with
  | registerCallback callback =>
    exact (registerCallback_ofObject s callback).bind fun _ ↦ trivial
  | unregisterCallback callback =>
    have hunregister : Only (fun c ↦ c.ofObject) (Health.unregisterCallback s callback) :=
      (unregisterCallbackInternal_ofObject s callback).bind fun _ ↦ trivial
    exact hunregister.bind fun _ ↦ trivial
  | serviceDied who =>
    have hdied : Only (fun c ↦ c.ofObject) (Health.serviceDied s who) :=
      (unregisterCallbackInternal_ofObject s who).bind fun _ ↦ trivial
    exact hdied.bind fun _ ↦ trivial
  | update =>
    exact ((update_only s).mono fun _ hc ↦ IsTimerCall.ofObject hc).bind fun _ ↦ trivial
  | notifyListeners => exact absurd rfl hnotify

theorem Call.makesCalls {x : Call C} {r : Option Result} (hnotify : x ≠ .notifyListeners)
    (h : Runs (x.proc config board s) t (r, s')) : MakesCalls config board s [x] t s' :=
  .single h fun e he ↦ ((Call.proc_ofObject s hnotify).steps h).1 e he

/-- **A transaction** is the calls it makes. -/
theorem serve_makesCalls {transaction : Transaction C}
    (h : Runs (serve config board s transaction) t s') :
    MakesCalls config board s transaction.calls t s' := by
  cases transaction with
  | registerCallback callback =>
    obtain ⟨⟨result, s₁⟩, hregister, rfl⟩ := runs_bind_ret_iff.1 h
    exact Call.makesCalls (x := .registerCallback callback) (by rintro ⟨⟩)
      (runs_bind_ret_iff.2 ⟨_, hregister, rfl⟩)
  | unregisterCallback callback =>
    obtain ⟨⟨result, s₁⟩, hunregister, rfl⟩ := runs_bind_ret_iff.1 h
    exact Call.makesCalls (x := .unregisterCallback callback) (by rintro ⟨⟩)
      (runs_bind_ret_iff.2 ⟨_, hunregister, rfl⟩)
  | update =>
    obtain ⟨⟨result, s₁⟩, hupdate, rfl⟩ := runs_bind_ret_iff.1 h
    exact update_makesCalls hupdate
  | getHealthInfo => exact getHealthInfo_makesCalls h
  | debug numFds =>
    change Runs (debug config board s numFds) t s' at h
    rw [debug] at h
    rw [Transaction.calls]
    split at h
    case isTrue hfds =>
      obtain ⟨_, u, rfl, hu⟩ := runs_call_iff.1 h
      rw [if_pos hfds]
      exact (getHealthInfo_makesCalls hu).cons rfl
    case isFalse hfds =>
      obtain ⟨rfl, rfl⟩ := runs_ret_iff.1 h
      rw [if_neg hfds]
      exact .refl s rfl
  | serviceDied who =>
    exact Call.makesCalls (x := .serviceDied who) (by rintro ⟨⟩)
      (runs_bind_ret_iff.2 ⟨_, h, rfl⟩)

theorem serveAll_makesCalls {ts : List (Transaction C)}
    (h : Runs (serveAll config board s ts) t s') :
    MakesCalls config board s (ts.flatMap Transaction.calls) t s' := by
  induction ts generalizing s t with
  | nil =>
    obtain ⟨rfl, rfl⟩ := runs_ret_iff.1 h
    exact .refl s rfl
  | cons transaction ts ih =>
    obtain ⟨u, v, s₁, rfl, hu, hv⟩ := runs_bind_iff.1 h
    exact (serve_makesCalls hu).trans (ih hv)

end Calls

/-! ### What is asked for -/

section Asking

variable {config : HealthdConfig} {board : Board} {s s' : Healthd C} {t : List (SysEvent C)}

/-- The calls that ask for nothing. -/
def AsksNothing (c : Sys C) : Prop :=
  ∀ x, asked ⟨c, x⟩ = []

omit [Interfaces C] in
theorem asked_eq_nil {p : Proc C (Healthd C)} (h : Only AsksNothing p) (hr : Runs p t s') :
    t.flatMap asked = [] :=
  List.flatMap_eq_nil_iff.2 fun e he ↦ (h.steps hr).1 e he e.answer

omit [Interfaces C] in
theorem update_asksNothing (s : Healthd C) : Only AsksNothing (update config s) := by
  refine (update_only s).mono ?_
  rintro _ ⟨fd, interval, rfl⟩ x
  rfl

omit [Interfaces C] in
theorem healthdBatteryUpdate_asksNothing (s : Healthd C) :
    Only AsksNothing (healthdBatteryUpdate config s) := by
  have hinstance : Only AsksNothing (getImplementation s) := by
    rw [getImplementation]
    split
    · trivial
    · exact ⟨fun x ↦ x.elim, fun x ↦ x.elim⟩
  exact hinstance.bind fun _ ↦ (update_asksNothing s).bind fun _ ↦ trivial

omit [Interfaces C] in
theorem getHealthInfo_asksNothing (s : Healthd C) :
    Only AsksNothing (getHealthInfo config board s) :=
  (update_asksNothing s).bind fun _ ↦ ⟨fun _ ↦ rfl, fun _ ↦ ⟨fun _ ↦ rfl, fun _ ↦ trivial⟩⟩

/-- Serving a transaction asks for nothing more. -/
theorem serve_asksNothing (s : Healthd C) (transaction : Transaction C) :
    Only AsksNothing (serve config board s transaction) := by
  cases transaction with
  | registerCallback callback =>
    cases callback with
    | none => trivial
    | some callback => exact ⟨fun _ ↦ rfl, fun _ ↦ (update_asksNothing _).bind fun _ ↦ trivial⟩
  | unregisterCallback callback =>
    cases callback with
    | none => trivial
    | some callback => exact ⟨fun _ ↦ rfl, fun _ ↦ trivial⟩
  | update => exact (update_asksNothing s).bind fun _ ↦ trivial
  | getHealthInfo => exact getHealthInfo_asksNothing s
  | debug numFds =>
    show Only _ (debug config board s numFds)
    rw [debug]
    split
    · exact ⟨fun _ ↦ rfl, fun _ ↦ getHealthInfo_asksNothing s⟩
    · trivial
  | serviceDied who =>
    cases who with
    | none => trivial
    | some callback => exact ⟨fun _ ↦ rfl, fun _ ↦ trivial⟩

theorem serveAll_asksNothing (s : Healthd C) (ts : List (Transaction C)) :
    Only AsksNothing (serveAll config board s ts) := by
  induction ts generalizing s with
  | nil => trivial
  | cons transaction ts ih => exact (serve_asksNothing s transaction).bind fun s ↦ ih s

/-! ### The loop -/

/-- **Periodic work** makes the update that its mark asks for. -/
theorem periodicChores_makesAsked (h : Runs (periodicChores config s) t s') :
    MakesCalls config board s (t.flatMap asked) t s' := by
  have hmade : MakesCalls config board s [.update] t s' := periodicChores_makesCalls h
  obtain ⟨_, u, rfl, hu⟩ := runs_call_iff.1 h
  rwa [List.flatMap_cons, asked_eq_nil (healthdBatteryUpdate_asksNothing s) hu]

/-- **A handler** makes the calls that what it fetches asks for. -/
theorem handle_makesCalls {handler : EventHandler} (h : Runs (handle config board s handler) t s') :
    MakesCalls config board s (t.flatMap asked) t s' := by
  cases handler with
  | binderEvent =>
    change Runs (binderEvent config board s) t s' at h
    rw [binderEvent] at h
    split at h
    · obtain ⟨ts, u, rfl, hu⟩ := runs_call_iff.1 h
      rw [List.flatMap_cons, asked_eq_nil (serveAll_asksNothing s ts) hu, List.append_nil]
      exact (serveAll_makesCalls hu).cons rfl
    · obtain ⟨rfl, rfl⟩ := runs_ret_iff.1 h
      exact .refl s rfl
  | wakealarmEvent =>
    obtain ⟨result, u, rfl, hu⟩ := runs_call_iff.1 h
    change Runs (if result = -1 then _ else _) u s' at hu
    split at hu
    · obtain ⟨rfl, rfl⟩ := runs_ret_iff.1 hu
      exact .refl s rfl
    · exact (periodicChores_makesAsked hu).cons rfl
  | ueventEvent =>
    change Runs (ueventEvent config s) t s' at h
    rw [ueventEvent_program] at h
    obtain ⟨x, u, rfl, hu⟩ := runs_call_iff.1 h
    rw [List.flatMap_cons, asked]
    split at hu
    case isTrue hfound =>
      rw [if_pos hfound, asked_eq_nil (healthdBatteryUpdate_asksNothing s) hu]
      exact (healthdBatteryUpdate_makesCalls hu).cons rfl
    case isFalse hfound =>
      obtain ⟨rfl, rfl⟩ := runs_ret_iff.1 hu
      rw [if_neg hfound]
      exact .refl s rfl

/-- The handlers of a wait, one after the other. -/
theorem handlers_makeCalls {l : List (HandlerRun C)}
    (h : Execution (handleSection config board) s l s') :
    MakesCalls config board s ((l.flatMap Executed.trace).flatMap asked)
      (l.flatMap Executed.trace) s' := by
  induction h with
  | nil => exact .refl s rfl
  | @snoc l d s' _ hd ih =>
    obtain ⟨s₁, hu, hs₁⟩ := runs_bind_ret_iff.1 hd
    obtain rfl := (Prod.mk.inj hs₁).2
    rw [List.flatMap_append, List.flatMap_singleton, List.flatMap_append]
    exact ih.trans (handle_makesCalls hu)

/-- **A round** makes the calls that its events ask for. -/
theorem Round.IsRun.makesCalls {due : Prop} {r : Round C} (hr : r.IsRun config board due) :
    MakesCalls config board r.before (r.trace.flatMap asked) r.trace r.after := by
  have hchores : MakesCalls config board r.before ((r.chores.getD []).flatMap asked)
      (r.chores.getD []) r.waiting := by
    rcases hr.chores with ⟨-, t, ht, hrun⟩ | ⟨-, hnone, hwaiting⟩
    · rw [ht]
      exact periodicChores_makesAsked hrun
    · rw [hnone, hwaiting]
      exact .refl r.before rfl
  have hwait := hchores.append
    (u := [⟨.modeOp .heartbeat, ()⟩, ⟨.modeOp .preparetowait, ()⟩, r.wait]) rfl
  have hasked : r.trace.flatMap asked = (r.chores.getD []).flatMap asked ++
      (r.handlers.flatMap Executed.trace).flatMap asked := by
    rw [Round.trace, List.flatMap_append, List.flatMap_append]
    exact congrArg (· ++ _) (List.append_nil _)
  rw [hasked]
  exact hwait.trans (handlers_makeCalls hr.dispatched)

/-- **The loop** makes the calls that its events ask for, and ends with the process that the last of
them leaves. -/
theorem LoopRun.makesCalls {n : ℕ} {due : Prop} {rounds : List (Round C)}
    (h : LoopRun config board n due s rounds) :
    MakesCalls config board s ((rounds.flatMap Round.trace).flatMap asked)
      (rounds.flatMap Round.trace) (rounds.foldl (fun _ r ↦ r.after) s) := by
  induction h with
  | @stop due s => exact .refl s rfl
  | @last n due r hr hresult =>
    rw [List.flatMap_singleton]
    exact hr.makesCalls
  | @next n due r rounds hr hresult h ih =>
    rw [List.flatMap_cons, List.flatMap_append]
    exact hr.makesCalls.trans ih

end Asking

/-! ### Set-up and the daemon -/

section Main

variable {config : HealthdConfig} {board : Board} {s : Healthd C}

/-- The service as it is before the first call: no callbacks, and the ops of its mode. -/
structure Unused (s : Healthd C) : Prop where
  callbacks : s.callbacks_ = []
  ops : s.healthdModeOps = some healthdModeServiceOps

/-- Every run of `p` ends with a service that is unused. -/
abbrev LeavesUnused {α : Type} (state : α → Healthd C) (p : Proc C α) : Prop :=
  Safe (⟨fun _ _ ↦ True, fun _ _ ↦ True, fun _ _ ↦ ()⟩ : Monitor (Sys C) SysAnswer Unit)
    (fun r _ ↦ Unused (state r)) () p

omit [Interfaces C] in
theorem healthdRegisterEvent_unused (h : Unused s) (fd : Int) (handler : EventHandler)
    (wakeup : EventWakeup) :
    LeavesUnused Prod.snd (healthdRegisterEvent s fd handler wakeup) := by
  refine ⟨trivial, fun result _ ↦ ?_⟩
  show LeavesUnused Prod.snd (if result = -1 then _ else _)
  split
  · exact h
  · exact ⟨h.callbacks, h.ops⟩

omit [Interfaces C] in
theorem healthdModeServiceInit_unused (h : Unused s) :
    LeavesUnused id (healthdModeServiceInit s) := by
  have hregistered : ∀ s : Healthd C, Unused s → LeavesUnused id
      (do let registered ← perform .registerAsService
          if registered then pure (initInstance s) else halt .abort sysAnswer_abort :
        Proc C (Healthd C)) := by
    intro s hs
    refine ⟨trivial, fun registered _ ↦ ?_⟩
    show LeavesUnused id (if registered = true then _ else _)
    split
    · show Unused (initInstance s)
      rw [initInstance]
      split
      · exact hs
      · exact ⟨rfl, hs.ops⟩
    · exact ⟨trivial, fun x ↦ x.elim⟩
  refine ⟨trivial, fun fd _ ↦ ?_⟩
  have hbinder : Unused { s with gBinderFd := fd } := ⟨h.callbacks, h.ops⟩
  show LeavesUnused id (if fd ≥ 0 then _ else _)
  split
  · exact Safe.bind (healthdRegisterEvent_unused hbinder _ _ _) fun r _ hr ↦ hregistered r.2 hr
  · exact hregistered _ hbinder

omit [Interfaces C] in
theorem wakealarmInit_unused (h : Unused s) : LeavesUnused id (wakealarmInit config s) := by
  refine ⟨trivial, fun fd _ ↦ ?_⟩
  have hopened : Unused { s with wakealarmFd := fd } := ⟨h.callbacks, h.ops⟩
  show LeavesUnused id (if fd = -1 then _ else _)
  split
  · exact hopened
  · refine Safe.bind (healthdRegisterEvent_unused hopened _ _ _) fun r _ hr ↦ ?_
    show LeavesUnused id (wakealarmSetInterval r.2 _)
    rw [wakealarmSetInterval]
    split
    · exact hr
    · exact ⟨trivial, fun _ _ ↦ ⟨hr.callbacks, hr.ops⟩⟩

omit [Interfaces C] in
theorem ueventInit_unused (h : Unused s) : LeavesUnused id (ueventInit s) := by
  refine ⟨trivial, fun fd _ ↦ ?_⟩
  have hopened : Unused { s with ueventFd := fd } := ⟨h.callbacks, h.ops⟩
  show LeavesUnused id (if fd < 0 then _ else _)
  split
  · exact hopened
  · exact Safe.bind (healthdRegisterEvent_unused hopened _ _ _) fun _ _ hr ↦ hr

omit [Interfaces C] in
/-- **Set-up serves nobody.** -/
theorem healthdInit_unused (h : Unused s) : LeavesUnused Prod.snd (healthdInit config s) := by
  refine ⟨trivial, fun epollfd _ ↦ ?_⟩
  have hcreated : Unused { s with epollfd := epollfd } := ⟨h.callbacks, h.ops⟩
  show LeavesUnused Prod.snd (if epollfd = -1 then _ else _)
  split
  · exact hcreated
  · have hmode : LeavesUnused (fun _ ↦ { s with epollfd := epollfd })
        (callModeOp { s with epollfd := epollfd } .init) := by
      rw [callModeOp]
      split
      · exact ⟨trivial, fun _ _ ↦ hcreated⟩
      · exact ⟨trivial, fun x ↦ x.elim⟩
    refine Safe.bind hmode fun _ _ h ↦ ?_
    refine Safe.bind (healthdModeServiceInit_unused h) fun _ _ h ↦ ?_
    refine Safe.bind (wakealarmInit_unused h) fun _ _ h ↦ ?_
    exact Safe.bind (ueventInit_unused h) fun _ _ h ↦ h

variable {n : ℕ} {t : List (SysEvent C)} {ret : Int}

/-- **The daemon is a sequence of calls.** Every run of the daemon that ends is its set-up, which
leaves a health object that nobody has used, followed by an execution of calls on that object. They
are those that the events of the loop ask for, one by one and in their order; what the run shows of
the object is their trace; the process in which they end is the one in which the daemon ends. Its
registry is the one that the transactions determine. -/
theorem main_refines_calls
    (h : Runs (healthdMain config board n (Healthd.installed C)) t (ret, s)) :
    ∃ (t₀ t₁ : List (SysEvent C)) (s₀ : Healthd C) (l : List (CallRun C)), t = t₀ ++ t₁ ∧
      Runs (healthdInit config (Healthd.installed C)) t₀ (0, s₀) ∧ Unused s₀ ∧
      s₀.instance_ = true ∧ Execution (Call.proc config board) s₀ l s ∧
      l.map (·.event.call) = t₁.flatMap asked ∧ l.flatMap Executed.trace = objectTrace t₁ ∧
      s.callbacks_ = registryAfter ((transactions C).inputs t) := by
  obtain ⟨t₀, s₀, rounds, rfl, hinit, hrounds, -, rfl⟩ := healthdMain_rounds h
  have hunused : Unused s₀ :=
    ((healthdInit_unused ⟨rfl, rfl⟩).runs hinit (Monitor.assumes_of_forall _ fun _ _ _ ↦ trivial)).2
  have hready := ((healthdInit_ready rfl (Option.some_ne_none _)).runs hinit
    (Monitor.assumes_of_forall _ fun _ _ _ ↦ trivial)).2 rfl
  obtain ⟨l, hl, hcalls, htrace⟩ := hrounds.makesCalls
  refine ⟨t₀, _, s₀, l, rfl, hinit, hunused, hready.instance_, hl, hcalls, htrace, ?_⟩
  have hnothing : (transactions C).inputs t₀ = [] := by
    refine List.flatMap_eq_nil_iff.2 fun e he ↦ ?_
    exact (((healthdInit_background config _).steps hinit).1 e he).idle.input e.answer
  have hinputs : (transactions C).inputs (t₀ ++ rounds.flatMap Round.trace) =
      (transactions C).inputs (rounds.flatMap Round.trace) := by
    rw [Demands.inputs, List.flatMap_append]
    exact congrArg (· ++ _) hnothing
  have hnotify : ∀ e ∈ l, e.event.call ≠ .notifyListeners := by
    intro e he heq
    have hmem : e.event.call ∈ (l.map (·.event.call)).filter (!·.isUpdate) :=
      List.mem_filter.2 ⟨List.mem_map_of_mem he, by rw [heq]; rfl⟩
    rw [hcalls, filter_asked] at hmem
    obtain ⟨transaction, -, hchange⟩ := List.mem_filterMap.1 hmem
    rw [heq] at hchange
    cases transaction <;> cases hchange
  rw [Call.callbacks_of_execution hl hnotify, ← Call.foldl_next_filter, hcalls, filter_asked,
    hunused.callbacks, hinputs, registryAfter]

/-- Two clients register and one of them asks for the health information. The alarm goes off, and
the other client has died. -/
def keptRun : List (SysEvent ℕ) :=
  [⟨.epollCreate, (3 : Int)⟩, ⟨.modeOp .init, ()⟩, ⟨.setupTransportPolling, (4 : Int)⟩,
    ⟨.epollCtlAdd 4 .binderEvent .noWakeupFd, (0 : Int)⟩, ⟨.registerAsService, true⟩,
    ⟨.timerfdCreate, (5 : Int)⟩, ⟨.epollCtlAdd 5 .wakealarmEvent .wakeupFd, (0 : Int)⟩,
    ⟨.timerfdSettime 5 60, (0 : Int)⟩, ⟨.ueventOpenSocket, (-1 : Int)⟩,
    ⟨.periodicChores, ()⟩, ⟨.modeOp .heartbeat, ()⟩, ⟨.modeOp .preparetowait, ()⟩,
    ⟨.epollWait 2 2 (-1), .ready [some .binderEvent]⟩,
    ⟨.handleTransportPoll 4, [.registerCallback (some 7), .registerCallback (some 8),
      .getHealthInfo]⟩,
    ⟨.linkToDeath 7, .ok true⟩, ⟨.linkToDeath 8, .ok true⟩,
    ⟨.getProperty .currentAvg, ((0 : Int32), (5 : Int64))⟩,
    ⟨.infoCb .success (healthInfo .service 5), ()⟩,
    ⟨.modeOp .heartbeat, ()⟩, ⟨.modeOp .preparetowait, ()⟩,
    ⟨.epollWait 2 2 (-1), .ready [some .wakealarmEvent, some .binderEvent]⟩,
    ⟨.readWakealarm 5, (8 : Int)⟩, ⟨.periodicChores, ()⟩,
    ⟨.handleTransportPoll 4, [.serviceDied (some 7)]⟩, ⟨.unlinkToDeath 7, .ok true⟩]

theorem runs_keptRun : Runs (main .default .service ℕ 2) keptRun 3 := by
  repeat first | exact Steps.refl _ | apply Steps.call

theorem main_refines_calls_keptRun :
    ∃ (s : Healthd ℕ) (t₀ t₁ : List (SysEvent ℕ)) (s₀ : Healthd ℕ) (l : List (CallRun ℕ)),
      keptRun = t₀ ++ t₁ ∧ Runs (healthdInit .default (Healthd.installed ℕ)) t₀ (0, s₀) ∧
      Unused s₀ ∧ s₀.instance_ = true ∧ Execution (Call.proc .default .service) s₀ l s ∧
      l.map (·.event.call) = t₁.flatMap asked ∧ l.flatMap Executed.trace = objectTrace t₁ ∧
      s.callbacks_ = [8] := by
  obtain ⟨s, hs⟩ := healthdMain_of_main runs_keptRun
  exact ⟨s, main_refines_calls hs⟩

end Main

end Health

end XenvmHal
