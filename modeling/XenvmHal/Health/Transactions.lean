import XenvmHal.Health.Handlers
import XenvmHal.Health.ReadPaths
import XenvmHal.Health.Uevent
import XenvmHal.Interaction.Demands

/-!
# Serving transactions

The daemon is driven by what it polls from the binder transport. A transaction demands calls to the
clients and to the battery monitor, in a fixed order, and these are all such calls the daemon ever
makes: everything else it does, set-up and periodic work and the other two handlers, is in the
background (`IsBackground`).

`main_serves` says so of every run: transactions are served in the order they were fetched, each
one exactly once, and the daemon waits or fetches only when it has served everything. Since no
transaction demands a notification, no listener is ever notified. What a client is told is made
from the reading of the moment.
-/

namespace XenvmHal

open Interaction Program

namespace Health

variable {C : Type}

/-! ### What is demanded -/

/-- A call that a transaction makes. -/
inductive ClientCall (C : Type)
  | link (callback : C)
  | unlink (callback : C)
  | notify (callback : C)
  | dump
  | read
  | info
  deriving DecidableEq, Repr

/-- The calls that a transaction demands. -/
def Transaction.demands : Transaction C → List (ClientCall C)
  | .registerCallback (some callback) => [.link callback]
  | .unregisterCallback (some callback) => [.unlink callback]
  | .serviceDied (some callback) => [.unlink callback]
  | .getHealthInfo => [.read, .info]
  | .debug numFds => if numFds.getD 0 ≥ 1 then [.dump, .read, .info] else []
  | .registerCallback none | .unregisterCallback none | .serviceDied none | .update => []

/-- What a call is to the clients. -/
def clientCall : Sys C → Option (ClientCall C)
  | .linkToDeath callback => some (.link callback)
  | .unlinkToDeath callback => some (.unlink callback)
  | .healthInfoChanged callback _ => some (.notify callback)
  | .dumpState => some .dump
  | .getProperty _ => some .read
  | .infoCb _ _ => some .info
  | _ => none

/-- The transactions that an event fetches. -/
def fetched : SysEvent C → List (Transaction C)
  | ⟨.handleTransportPoll _, transactions⟩ => transactions
  | _ => []

/-- The calls with which the daemon waits and fetches. -/
def IsWaitCall : Sys C → Prop
  | .epollWait _ _ _ | .handleTransportPoll _ | .readWakealarm _ | .ueventRecv _ _ => True
  | _ => False

/-- Transactions as demands. -/
def transactions (C : Type) : Demands (Sys C) SysAnswer (Transaction C) (ClientCall C) where
  input := fetched
  demand := Transaction.demands
  output := clientCall
  rests := IsWaitCall

/-- **A report of the moment**: what a client is told is success, and made from the reading that
came just before. -/
def Reports (board : Board) (u : List (SysEvent C)) (c : Sys C) : Prop :=
  ∀ result info, c = .infoCb result info → result = .success ∧
    ∃ x, u.getLast? = some ⟨.getProperty .currentAvg, x⟩ ∧ info = healthInfo board (narrowed x)

/-- The monitor of the transactions. -/
abbrev transactionMonitor (C : Type) (board : Board) :
    Monitor (Sys C) SysAnswer (List (SysEvent C)) :=
  (transactions C).monitor (Reports board)

/-! ### The background -/

/-- The calls of set-up that neither program the timer nor register the service. -/
def IsSetUpCall : Sys C → Prop
  | .epollCreate | .epollCtlAdd _ _ _ | .timerfdCreate | .ueventOpenSocket | .setupTransportPolling
  | .modeOp _ | .abort | .nullDereference => True
  | _ => False

/-- The calls that start the service. -/
def IsStartCall (c : Sys C) : Prop :=
  IsSetUpCall c ∨ c = .registerAsService

/-- The calls that no transaction demands and that wait for nothing. -/
def IsBackground (c : Sys C) : Prop :=
  IsStartCall c ∨ IsTimerCall c ∨ c = .periodicChores

theorem IsBackground.idle {c : Sys C} (h : IsBackground c) : (transactions C).Idle c := by
  rcases h with (h | rfl) | ⟨fd, interval, rfl⟩ | rfl
  · cases c <;> first | exact h.elim | exact ⟨rfl, fun _ ↦ rfl, id⟩
  · exact ⟨rfl, fun _ ↦ rfl, id⟩
  · exact ⟨rfl, fun _ ↦ rfl, id⟩
  · exact ⟨rfl, fun _ ↦ rfl, id⟩

theorem IsBackground.reports {c : Sys C} (h : IsBackground c) (board : Board)
    (u : List (SysEvent C)) : Reports board u c := by
  rintro result info rfl
  rcases h with (h | h) | ⟨fd, interval, h⟩ | h
  · exact h.elim
  · cases h
  · cases h
  · cases h

theorem IsBackground.fetches_nothing {c : Sys C} (h : IsBackground c) : ¬IsWaitCall c := by
  intro hwait
  rcases h with (h | rfl) | ⟨fd, interval, rfl⟩ | rfl
  · cases c <;> first | exact h | exact hwait
  · exact hwait
  · exact hwait
  · exact hwait

section Background

variable {config : HealthdConfig} {s : Healthd C}

theorem callModeOp_only (s : Healthd C) (op : ModeOp) : Only IsSetUpCall (callModeOp s op) := by
  rw [callModeOp]
  split
  · exact ⟨trivial, fun _ ↦ trivial⟩
  · exact ⟨trivial, fun x ↦ x.elim⟩

theorem IsTimerCall.isBackground {c : Sys C} (h : IsTimerCall c) : IsBackground c :=
  Or.inr (Or.inl h)

theorem healthdBatteryUpdate_background (config : HealthdConfig) (s : Healthd C) :
    Only IsBackground (healthdBatteryUpdate config s) := by
  have hinstance : Only IsBackground (getImplementation s) := by
    rw [getImplementation]
    split
    · trivial
    · exact ⟨Or.inl (Or.inl trivial), fun x ↦ x.elim⟩
  exact hinstance.bind fun _ ↦
    ((update_only s).mono fun _ hc ↦ IsTimerCall.isBackground hc).bind fun _ ↦ trivial

/-- Periodic work is in the background. -/
theorem periodicChores_background (config : HealthdConfig) (s : Healthd C) :
    Only IsBackground (periodicChores config s) :=
  ⟨Or.inr (Or.inr rfl), fun _ ↦ healthdBatteryUpdate_background config s⟩

theorem healthdRegisterEvent_only (s : Healthd C) (fd : Int) (handler : EventHandler)
    (wakeup : EventWakeup) : Only IsSetUpCall (healthdRegisterEvent s fd handler wakeup) := by
  refine ⟨trivial, fun result ↦ ?_⟩
  show Only _ (if result = -1 then _ else _)
  split <;> trivial

theorem healthdModeServiceInit_only (s : Healthd C) :
    Only IsStartCall (healthdModeServiceInit s) := by
  have hregistered : ∀ s : Healthd C, Only IsStartCall
      (do let registered ← perform .registerAsService
          if registered then pure (initInstance s) else halt .abort sysAnswer_abort :
        Proc C (Healthd C)) := by
    intro s
    refine ⟨Or.inr rfl, fun registered ↦ ?_⟩
    show Only _ (if registered = true then _ else _)
    split
    · trivial
    · exact ⟨Or.inl trivial, fun x ↦ x.elim⟩
  refine ⟨Or.inl trivial, fun fd ↦ ?_⟩
  show Only _ (if fd ≥ 0 then _ else _)
  split
  · refine ((healthdRegisterEvent_only _ _ _ _).mono fun _ ↦ Or.inl).bind fun r ↦ ?_
    exact hregistered r.2
  · exact hregistered _

theorem wakealarmInit_only (config : HealthdConfig) (s : Healthd C) :
    Only (fun c ↦ IsSetUpCall c ∨ IsTimerCall c) (wakealarmInit config s) := by
  refine ⟨Or.inl trivial, fun fd ↦ ?_⟩
  show Only _ (if fd = -1 then _ else _)
  split
  · trivial
  · exact ((healthdRegisterEvent_only _ _ _ _).mono fun _ ↦ Or.inl).bind fun r ↦
      (wakealarmSetInterval_only r.2 _).mono fun _ ↦ Or.inr

theorem ueventInit_only (s : Healthd C) : Only IsSetUpCall (ueventInit s) := by
  refine ⟨trivial, fun fd ↦ ?_⟩
  show Only _ (if fd < 0 then _ else _)
  split
  · trivial
  · exact (healthdRegisterEvent_only _ _ _ _).bind fun _ ↦ trivial

/-- **Set-up is in the background.** -/
theorem healthdInit_background (config : HealthdConfig) (s : Healthd C) :
    Only IsBackground (healthdInit config s) := by
  have hsetUp : ∀ c : Sys C, IsSetUpCall c → IsBackground c := fun _ hc ↦ Or.inl (Or.inl hc)
  refine ⟨hsetUp _ trivial, fun epollfd ↦ ?_⟩
  show Only _ (if epollfd = -1 then _ else _)
  split
  · trivial
  · refine ((callModeOp_only _ _).mono hsetUp).bind fun _ ↦ ?_
    refine ((healthdModeServiceInit_only _).mono fun _ ↦ Or.inl).bind fun s ↦ ?_
    refine ((wakealarmInit_only config s).mono fun c hc ↦
      hc.elim (hsetUp c) IsTimerCall.isBackground).bind fun s ↦ ?_
    exact ((ueventInit_only s).mono hsetUp).bind fun _ ↦ trivial

end Background

/-! ### Serving -/

section Serving

variable {config : HealthdConfig} {board : Board} {s : Healthd C} {u : List (SysEvent C)}
  {ds : List (ClientCall C)} {α : Type} {p : Proc C α}

/-- What is in the background leaves what is owed alone. -/
theorem safe_background (h : (transactions C).Owes ds u) (hp : Only IsBackground p) :
    Safe (transactionMonitor C board) (fun _ u' ↦ (transactions C).Owes ds u') u p :=
  Demands.safe_of_idle h (hp.mono fun _ hc ↦ ⟨hc.idle, hc.reports board⟩)

theorem safe_update (h : (transactions C).Owes ds u) :
    Safe (transactionMonitor C board) (fun _ u' ↦ (transactions C).Owes ds u') u
      (update config s) :=
  safe_background h ((update_only s).mono fun _ hc ↦ IsTimerCall.isBackground hc)

theorem safe_callModeOp (h : (transactions C).Owes ds u) (op : ModeOp) :
    Safe (transactionMonitor C board) (fun _ u' ↦ (transactions C).Owes ds u') u
      (callModeOp s op) :=
  safe_background h ((callModeOp_only s op).mono fun _ hc ↦ Or.inl (Or.inl hc))

/-- A client is only told what `infoCb` is called with. -/
theorem reports_of_ne {c : Sys C} (h : ∀ result info, c ≠ .infoCb result info) :
    Reports board u c :=
  fun result info hc ↦ absurd hc (h result info)

/-- **A query**: an update, which demands nothing, a reading, and what is made from it. -/
theorem getHealthInfo_serves (h : (transactions C).Owes (.read :: .info :: ds) u) :
    Safe (transactionMonitor C board) (fun _ u' ↦ (transactions C).Owes ds u') u
      (getHealthInfo config board s) := by
  refine (safe_update h).bind fun _ u' h ↦ ?_
  refine Demands.safe_output h rfl id (fun _ ↦ rfl) (reports_of_ne fun _ _ ↦ by rintro ⟨⟩) ?_
  intro x h
  refine Demands.safe_output h rfl id (fun _ ↦ rfl) ?_ fun _ h ↦ h
  rintro result info ⟨⟩
  exact ⟨rfl, x, List.getLast?_concat, rfl⟩

variable [Interfaces C]

theorem unregisterCallbackInternal_serves {callback : C}
    (h : (transactions C).Owes (.unlink callback :: ds) u) :
    Safe (transactionMonitor C board) (fun _ u' ↦ (transactions C).Owes ds u') u
      (unregisterCallbackInternal s (some callback)) := by
  rw [unregisterCallbackInternal_eq]
  exact Demands.safe_output h rfl id (fun _ ↦ rfl) (reports_of_ne fun _ _ ↦ by rintro ⟨⟩)
    fun _ h ↦ h

/-- **One transaction** makes the calls it demands, and no others. -/
theorem serve_serves (transaction : Transaction C)
    (h : (transactions C).Owes (transaction.demands ++ ds) u) :
    Safe (transactionMonitor C board) (fun _ u' ↦ (transactions C).Owes ds u') u
      (serve config board s transaction) := by
  cases transaction with
  | registerCallback callback =>
    cases callback with
    | none => exact h
    | some callback =>
      refine Safe.bind (Demands.safe_output h rfl id (fun _ ↦ rfl)
        (reports_of_ne fun _ _ ↦ by rintro ⟨⟩) fun _ h ↦ ?_) fun _ _ h ↦ h
      exact safe_update h
  | unregisterCallback callback =>
    cases callback with
    | none => exact h
    | some callback =>
      have hunregister : Safe (transactionMonitor C board)
          (fun _ u' ↦ (transactions C).Owes ds u') u (unregisterCallback s (some callback)) :=
        (unregisterCallbackInternal_serves h).bind fun _ _ h ↦ h
      exact hunregister.bind fun _ _ h ↦ h
  | update => exact (safe_update h).bind fun _ _ h ↦ h
  | getHealthInfo => exact getHealthInfo_serves h
  | debug numFds =>
    show Safe _ _ _ (debug config board s numFds)
    rw [Transaction.demands] at h
    rw [debug]
    split
    case isTrue hfds =>
      rw [if_pos hfds] at h
      exact Demands.safe_output h rfl id (fun _ ↦ rfl) (reports_of_ne fun _ _ ↦ by rintro ⟨⟩)
        fun _ h ↦ getHealthInfo_serves h
    case isFalse hfds =>
      rw [if_neg hfds] at h
      exact h
  | serviceDied who =>
    cases who with
    | none => exact h
    | some callback => exact (unregisterCallbackInternal_serves h).bind fun _ _ h ↦ h

theorem serveAll_serves (ts : List (Transaction C))
    (h : (transactions C).Owes (ts.flatMap Transaction.demands) u) :
    Safe (transactionMonitor C board) (fun _ u' ↦ (transactions C).Owes [] u') u
      (serveAll config board s ts) := by
  induction ts generalizing s u with
  | nil => exact h
  | cons transaction ts ih => exact (serve_serves transaction h).bind fun _ _ h ↦ ih h

/-- **Every handler** serves what it fetches before it returns. -/
theorem handle_serves (h : (transactions C).Owes [] u) (handler : EventHandler) :
    Safe (transactionMonitor C board) (fun _ u' ↦ (transactions C).Owes [] u') u
      (handle config board s handler) := by
  cases handler with
  | binderEvent =>
    show Safe _ _ _ (binderEvent config board s)
    rw [binderEvent]
    split
    · exact Demands.safe_rest h rfl (reports_of_ne fun _ _ ↦ by rintro ⟨⟩)
        fun ts h ↦ serveAll_serves ts h
    · exact h
  | wakealarmEvent =>
    refine Demands.safe_rest h rfl (reports_of_ne fun _ _ ↦ by rintro ⟨⟩) fun result h ↦ ?_
    show Safe _ _ _ (if result = -1 then _ else _)
    split
    · exact h
    · exact safe_background h (periodicChores_background config s)
  | ueventEvent =>
    show Safe _ _ _ (ueventEvent config s)
    rw [ueventEvent_program]
    refine Demands.safe_rest h rfl (reports_of_ne fun _ _ ↦ by rintro ⟨⟩) fun x h ↦ ?_
    split
    · exact safe_background h (healthdBatteryUpdate_background config s)
    · exact h

theorem dispatch_serves (h : (transactions C).Owes [] u) (events : List (Option EventHandler)) :
    Safe (transactionMonitor C board) (fun _ u' ↦ (transactions C).Owes [] u') u
      (dispatch config board s events) := by
  induction events generalizing s u with
  | nil => exact h
  | cons event events ih =>
    cases event with
    | none => exact ih h
    | some handler => exact (handle_serves h handler).bind fun _ _ h ↦ ih h

theorem mainloopWait_serves (h : (transactions C).Owes [] u) (room : ℕ) (timeout : Int) :
    Safe (transactionMonitor C board) (fun _ u' ↦ (transactions C).Owes [] u') u
      (mainloopWait config board s room timeout) := by
  refine (safe_callModeOp h .heartbeat).bind fun _ _ h ↦ ?_
  refine (safe_callModeOp h .preparetowait).bind fun _ _ h ↦ ?_
  refine Demands.safe_rest h rfl (reports_of_ne fun _ _ ↦ by rintro ⟨⟩) fun result h ↦ ?_
  cases result with
  | interrupted => exact h
  | failed => exact h
  | ready events => exact (dispatch_serves h events).bind fun _ _ h ↦ h

/-- **One iteration** serves what it fetches. -/
theorem mainloopIteration_serves (h : (transactions C).Owes [] u) (nevents : Int) :
    Safe (transactionMonitor C board) (fun _ u' ↦ (transactions C).Owes [] u') u
      (mainloopIteration config board s nevents) := by
  simp only [mainloopIteration]
  split
  · exact (safe_background h (periodicChores_background config s)).bind
      fun _ _ h ↦ mainloopWait_serves h _ _
  · exact mainloopWait_serves h _ _

variable {n : ℕ} {t : List (SysEvent C)} {q : Proc C Int}

/-- **The daemon as a server**: it makes the calls that are owed, and owes nothing at rest. -/
theorem main_safe_serves (n : ℕ) :
    Safe (transactionMonitor C board) (fun _ _ ↦ True) [] (main config board C n) := by
  refine main_safe_of_invariant (J := fun _ u ↦ (transactions C).Owes [] u) ?_ ?_ ?_ n
  · exact (safe_background Demands.owes_nil (healthdInit_background config _)).mono
      fun _ _ h _ ↦ h
  · have hexit : (transactions C).Idle (.exit 2) := ⟨rfl, fun _ ↦ rfl, id⟩
    exact fun u ↦ ⟨hexit.permits, reports_of_ne fun _ _ ↦ by rintro ⟨⟩⟩
  · exact fun s u nevents h ↦ mainloopIteration_serves h nevents

/-- **The daemon serves its transactions in order**, in every run. The calls to the clients and to
the battery monitor are at any moment the first of those that the fetched transactions demand, and
all of them whenever the daemon waits or fetches. What a client is told is made from the reading
that came just before. -/
theorem main_serves (h : Steps (main config board C n) t q) :
    (transactions C).outputs t <+: (transactions C).demanded t ∧
      Throughout
        (fun u e ↦ IsWaitCall e.call → (transactions C).outputs u = (transactions C).demanded u)
        t ∧
      Throughout (fun u e ↦ Reports board u e.call) t :=
  Demands.serves (main_safe_serves n) h

omit [Interfaces C] in
theorem notify_not_mem_demands (callback : C) (transaction : Transaction C) :
    .notify callback ∉ transaction.demands := by
  rcases transaction with (- | c) | (- | c) | - | - | numFds | (- | c)
  case debug =>
    rw [Transaction.demands]
    split <;> simp
  all_goals simp [Transaction.demands]

/-- **No run of the daemon notifies a listener**, since no transaction demands it. -/
theorem main_notifies_nobody (h : Steps (main config board C n) t q) :
    ∀ e ∈ t, ∀ callback info, e.call ≠ .healthInfoChanged callback info := by
  intro e he callback info hcall
  have hmade : ClientCall.notify callback ∈ (transactions C).outputs t := by
    refine List.mem_filterMap.2 ⟨e, he, ?_⟩
    rw [hcall]
    rfl
  have hserves : Safe (transactionMonitor C board) (fun _ _ ↦ True) [] (main config board C n) :=
    main_safe_serves n
  obtain ⟨transaction, -, hdemands⟩ :=
    List.mem_flatMap.1 ((Demands.serves hserves h).1.subset hmade)
  exact notify_not_mem_demands callback transaction hdemands

/-- A client registers, asks for the health information, updates and unregisters. -/
def servingRun : List (SysEvent ℕ) :=
  [⟨.epollCreate, (3 : Int)⟩, ⟨.modeOp .init, ()⟩, ⟨.setupTransportPolling, (4 : Int)⟩,
    ⟨.epollCtlAdd 4 .binderEvent .noWakeupFd, (0 : Int)⟩, ⟨.registerAsService, true⟩,
    ⟨.timerfdCreate, (-1 : Int)⟩, ⟨.ueventOpenSocket, (-1 : Int)⟩,
    ⟨.periodicChores, ()⟩, ⟨.modeOp .heartbeat, ()⟩, ⟨.modeOp .preparetowait, ()⟩,
    ⟨.epollWait 1 1 (-1), .ready [some .binderEvent]⟩,
    ⟨.handleTransportPoll 4, [.registerCallback (some 7), .getHealthInfo, .update,
      .unregisterCallback (some 7)]⟩,
    ⟨.linkToDeath 7, .ok true⟩, ⟨.getProperty .currentAvg, ((0 : Int32), (5 : Int64))⟩,
    ⟨.infoCb .success (healthInfo .service 5), ()⟩, ⟨.unlinkToDeath 7, .ok true⟩]

theorem runs_servingRun : Runs (main .default .service ℕ 1) servingRun 3 := by
  repeat first | exact Steps.refl _ | apply Steps.call

theorem main_serves_servingRun :
    [ClientCall.link 7, .read, .info, .unlink 7] <+: (transactions ℕ).demanded servingRun ∧
      Throughout
        (fun u e ↦ IsWaitCall e.call → (transactions ℕ).outputs u = (transactions ℕ).demanded u)
        servingRun ∧
      Throughout (fun u e ↦ Reports .service u e.call) servingRun :=
  main_serves runs_servingRun

end Serving

end Health

end XenvmHal
