import XenvmHal.Health.LoopState
import XenvmHal.Health.Scheduling
import XenvmHal.Health.Transactions

/-!
# What the daemon never does

Two of the daemon's mechanisms have no effect, and two of its endings cannot be reached.

The timer is programmed with the fast interval while the daemon is set up, before it waits for
anything, and never again; every wait is without a timeout. So neither the slow interval nor awake
polling is ever in force, whatever the configuration, which events come and which calls fail
(`main_timing`).

The daemon exits only when it cannot create its epoll instance, and aborts only when it cannot
register its service. Past that it runs until a wait fails, and then returns 3 (`main_ends`).

Both follow from what the handlers may do, so both use the same rule for an iteration of the loop
(`Kept.mainloopIteration`).
-/

namespace XenvmHal

open Interaction Program

namespace Health

variable {C : Type}

/-! ### A rule for the loop -/

section Rule

variable {σ : Type} {config : HealthdConfig} {board : Board} {M : Monitor (Sys C) SysAnswer σ}
  {J : σ → Prop} {I : Healthd C → Prop} {s : Healthd C} [Interfaces C]

/-- **An iteration** keeps the invariants, if it may wait and the handlers may fetch. -/
theorem Kept.mainloopIteration (h : Kept config M J I)
    (hwait : ∀ s a room maxevents, I s → J a →
      M.pre a (.epollWait room maxevents
          (waitTimeout s.awakePollInterval healthdModeServicePreparetowait)) ∧
        ∀ result, J (M.next a ⟨.epollWait room maxevents
          (waitTimeout s.awakePollInterval healthdModeServicePreparetowait), result⟩))
    (hfetch : ∀ s handler, I s →
      (∀ a, J a → M.pre a (handlerCall (s.fdOf handler) handler)) ∧
        ∀ a x, J a → J (M.next a ⟨handlerCall (s.fdOf handler) handler, x⟩))
    (hs : I s) (nevents : Int) :
    Keeps M J I Prod.snd (mainloopIteration config board s nevents) := by
  have hwaits : ∀ s', I s' → Keeps M J I Prod.snd
      (mainloopWait config board s' s.eventct s.awakePollInterval) := by
    intro s' hs'
    refine (h.callModeOp hs' .heartbeat).bind fun _ _ ↦ ?_
    refine (h.callModeOp hs' .preparetowait).bind fun _ _ ↦ ?_
    refine keeps_call (fun a ha ↦ (hwait s a _ _ hs ha).1)
      (fun a result ha ↦ (hwait s a _ _ hs ha).2 result) fun result ↦ ?_
    cases result with
    | interrupted => exact keeps_ret hs'
    | failed => exact keeps_ret hs'
    | ready events =>
      exact (h.dispatch board hs' events fun s hs handler _ ↦ hfetch s handler hs).bind
        fun _ hs ↦ keeps_ret hs
  simp only [Health.mainloopIteration]
  split
  · exact (h.periodicChores hs).bind fun s' hs' ↦ hwaits s' hs'
  · exact hwaits s hs

/-- The monitor that permits some calls, always the same. -/
abbrev permitting (P : Sys C → Prop) : Monitor (Sys C) SysAnswer Unit where
  pre _ c := P c
  assume _ _ := True
  next _ _ := ()

omit [Interfaces C] in
/-- **What handlers do besides fetching** is serving, programming the timer, and failing checks. -/
theorem kept_of_forall {P : Sys C → Prop} (hserving : ∀ c, IsServingCall c → P c)
    (htimer : ∀ c, IsTimerCall c → P c) (habort : P .abort) (hnull : P .nullDereference) :
    Kept config (permitting P) (fun _ ↦ True) fun _ ↦ True where
  pre _ c _ hc := hserving c hc
  next _ _ _ _ _ := trivial
  callbacks _ _ _ := trivial
  update s _ _ _ :=
    ((update_only s).safe_of_invariant (I := fun _ ↦ True) (fun _ c _ hc ↦ htimer c hc)
      (fun _ _ _ _ _ _ ↦ trivial) trivial).mono fun _ _ _ ↦ ⟨trivial, trivial⟩
  checked _ _ _ _ _ := habort
  deref _ _ _ _ _ := hnull

end Rule

/-! ### The timer -/

section Timing

variable {config : HealthdConfig} {s : Healthd C} {u : List (SysEvent C)}

/-- What the timer is programmed with for an interval, where -1 means never. -/
def periodOf (interval : Int) : Int :=
  if interval = -1 then 0 else interval

/-- Nothing has been programmed or waited for. -/
def Untouched (u : List (SysEvent C)) : Prop :=
  ∀ d ∈ u, ¬IsTimerCall d.call ∧ ¬IsWaitCall d.call

/-- **Timing as it is**: a wait has no timeout, and the timer is programmed with the fast interval,
before anything else has happened to it. -/
structure TimedOnce (config : HealthdConfig) (u : List (SysEvent C)) (c : Sys C) : Prop where
  wait : ∀ room maxevents timeout, c = .epollWait room maxevents timeout → timeout = -1
  settime : ∀ fd interval, c = .timerfdSettime fd interval →
    interval = periodOf config.periodicChoresIntervalFast ∧ Untouched u

abbrev timingMonitor (C : Type) (config : HealthdConfig) :
    Monitor (Sys C) SysAnswer (List (SysEvent C)) :=
  .history (TimedOnce config) fun _ _ ↦ True

theorem IsStartCall.timedOnce {c : Sys C} (h : IsStartCall c) : TimedOnce config u c where
  wait _ _ _ hc := by
    subst hc
    rcases h with h | h <;> cases h
  settime _ _ hc := by
    subst hc
    rcases h with h | h <;> cases h

theorem IsServingCall.timedOnce {c : Sys C} (h : IsServingCall c) : TimedOnce config u c where
  wait _ _ _ hc := by
    subst hc
    exact h.elim
  settime _ _ hc := by
    subst hc
    exact h.elim

theorem TimedOnce.settime_fast (h : Untouched u) (fd : Int) :
    TimedOnce config u
      (.timerfdSettime fd (periodOf config.periodicChoresIntervalFast) : Sys C) where
  wait _ _ _ hc := by cases hc
  settime _ _ hc := by
    cases hc
    exact ⟨rfl, h⟩

theorem TimedOnce.exit (code : Int) : TimedOnce config u (.exit code : Sys C) where
  wait _ _ _ hc := by cases hc
  settime _ _ hc := by cases hc

theorem TimedOnce.epollWait (room maxevents : ℕ) :
    TimedOnce config u (.epollWait room maxevents (-1) : Sys C) where
  wait _ _ _ hc := by
    cases hc
    rfl
  settime _ _ hc := by cases hc

theorem TimedOnce.handlerCall (fd : Int) (handler : EventHandler) :
    TimedOnce config u (handlerCall fd handler : Sys C) where
  wait _ _ _ hc := by cases handler <;> cases hc
  settime _ _ hc := by cases handler <;> cases hc

/-- A call of set-up leaves the timer alone. -/
theorem Untouched.snoc (h : Untouched u) {c : Sys C} (hc : IsStartCall c) (x : SysAnswer c) :
    Untouched (u ++ [⟨c, x⟩]) := by
  rw [Untouched, List.forall_mem_append, List.forall_mem_singleton]
  refine ⟨h, ?_, IsBackground.fetches_nothing (Or.inl hc)⟩
  rintro ⟨fd, interval, hcall⟩
  dsimp only at hcall
  subst hcall
  rcases hc with hc | hc <;> cases hc

theorem safe_start {α : Type} {p : Proc C α} (hp : Only IsStartCall p) (h : Untouched u) :
    Safe (timingMonitor C config) (fun _ u' ↦ Untouched u') u p :=
  hp.safe_of_invariant (fun _ _ _ hc ↦ hc.timedOnce) (fun _ _ x hu hc _ ↦ hu.snoc hc x) h

/-- **The wake alarm is set up**, and the timer is programmed for the only time. -/
theorem wakealarmInit_timed (h : Untouched u) (hpolling : s.awakePollInterval = -1) :
    Safe (timingMonitor C config) (fun s' _ ↦ Quiet config s') u (wakealarmInit config s) := by
  have hset : ∀ (s' : Healthd C) (v : List (SysEvent C)), Untouched v →
      s'.awakePollInterval = -1 → Safe (timingMonitor C config) (fun s' _ ↦ Quiet config s') v
        (wakealarmSetInterval s' config.periodicChoresIntervalFast) := by
    intro s' v hv hs'
    rw [wakealarmSetInterval]
    split
    · exact ⟨Or.inl ‹_›, hs'⟩
    · refine ⟨.settime_fast hv _, fun _ _ ↦ ⟨Or.inr rfl, hs'⟩⟩
  refine ⟨IsStartCall.timedOnce (c := .timerfdCreate) (Or.inl trivial), fun fd _ ↦ ?_⟩
  have hcreated : Untouched (u ++ [⟨.timerfdCreate, fd⟩]) :=
    h.snoc (c := .timerfdCreate) (Or.inl trivial) fd
  show Safe _ _ _ (if fd = -1 then _ else _)
  split
  · exact ⟨Or.inl ‹_›, hpolling⟩
  · refine ⟨IsStartCall.timedOnce (c := .epollCtlAdd _ _ _) (Or.inl trivial), fun result _ ↦ ?_⟩
    have hadded :=
      hcreated.snoc (c := .epollCtlAdd fd .wakealarmEvent .wakeupFd) (Or.inl trivial) result
    show Safe _ _ _ ((if result = -1 then _ else _) >>= _)
    split
    · exact hset _ _ hadded hpolling
    · exact hset _ _ hadded hpolling

theorem ueventInit_timed (h : Quiet config s) :
    Safe (timingMonitor C config) (fun s' _ ↦ Quiet config s') u (ueventInit s) := by
  refine ⟨IsStartCall.timedOnce (c := .ueventOpenSocket) (Or.inl trivial), fun fd _ ↦ ?_⟩
  show Safe _ _ _ (if fd < 0 then _ else _)
  split
  · exact h.congr rfl rfl rfl
  · refine ⟨IsStartCall.timedOnce (c := .epollCtlAdd _ _ _) (Or.inl trivial), fun result _ ↦ ?_⟩
    show Safe _ _ _ ((if result = -1 then _ else _) >>= _)
    split
    · exact h.congr rfl rfl rfl
    · exact h.congr rfl rfl rfl

/-- **Set-up** leaves a quiet state, whichever of its steps fail. -/
theorem healthdInit_timed (hpolling : s.awakePollInterval = -1) :
    Safe (timingMonitor C config) (fun r _ ↦ r.1 = 0 → Quiet config r.2) []
      (healthdInit config s) := by
  refine ⟨IsStartCall.timedOnce (c := .epollCreate) (Or.inl trivial), fun epollfd _ ↦ ?_⟩
  show Safe _ _ _ (if epollfd = -1 then _ else _)
  split
  · intro hfailed
    cases hfailed
  · have hcreated : Untouched [⟨.epollCreate, epollfd⟩] :=
      Untouched.snoc (u := []) (List.forall_mem_nil _) (c := .epollCreate) (Or.inl trivial)
        epollfd
    refine (safe_start ((callModeOp_only _ _).mono fun _ ↦ Or.inl) hcreated).bind fun _ u₁ h₁ ↦ ?_
    have hsafe : Safe (scheduleMonitor C config) (fun s' a' ↦ s'.awakePollInterval = -1 ∧
        a' = Alarm.init) Alarm.init (healthdModeServiceInit { s with epollfd := epollfd }) :=
      healthdModeServiceInit_safe hpolling
    have hmode : ∀ t s', Runs (healthdModeServiceInit { s with epollfd := epollfd }) t s' →
        s'.awakePollInterval = -1 := fun _ _ hr ↦
      (hsafe.runs hr (Monitor.assumes_of_forall _ fun _ _ _ ↦ trivial)).2.1
    refine ((safe_start (healthdModeServiceInit_only _) h₁).and_of_runs hmode).bind ?_
    rintro s₂ u₂ ⟨h₂, hpolling₂⟩
    refine (wakealarmInit_timed h₂ hpolling₂).bind fun s₃ u₃ h₃ ↦ ?_
    exact (ueventInit_timed h₃).bind fun _ _ h _ ↦ h

/-- **The invariant of the loop**: updates in a quiet state do nothing. -/
theorem timed_kept (config : HealthdConfig) :
    Kept config (timingMonitor C config) (fun _ ↦ True) (Quiet config) where
  pre _ _ _ hc := hc.timedOnce
  next _ _ _ _ _ := trivial
  callbacks _ _ hs := hs.congr rfl rfl rfl
  update s hs := by
    rw [update_of_quiet hs]
    exact keeps_ret hs
  checked _ _ _ _ _ := IsStartCall.timedOnce (c := .abort) (Or.inl trivial)
  deref _ _ _ _ _ := IsStartCall.timedOnce (c := .nullDereference) (Or.inl trivial)

variable [Interfaces C] {board : Board} {n : ℕ} {t : List (SysEvent C)} {q : Proc C Int}

/-- **The slow interval is never in force**, nor is awake polling, in any run and whatever the
configuration: no wait has a timeout, and the timer is programmed at most once, with the fast
interval, before the daemon waits for anything. -/
theorem main_timing (h : Steps (main config board C n) t q) :
    Throughout (fun u e ↦ TimedOnce config u e.call) t := by
  have hsafe : Safe (timingMonitor C config) (fun _ _ ↦ True) [] (main config board C n) := by
    refine main_safe_of_invariant (J := fun s _ ↦ Quiet config s) (healthdInit_timed rfl)
      (fun _ ↦ .exit 2) ?_ n
    intro s u nevents hs
    refine ((timed_kept config).mainloopIteration ?_ ?_ hs nevents u trivial).mono fun _ _ h ↦ h.1
    · intro s u room maxevents hs _
      refine ⟨?_, fun _ ↦ trivial⟩
      rw [hs.polling]
      exact .epollWait room maxevents
    · exact fun s handler _ ↦ ⟨fun _ _ ↦ .handlerCall _ handler, fun _ _ _ ↦ trivial⟩
  exact (hsafe.throughout h).1

theorem main_timing_fourRounds :
    Throughout (fun u e ↦ TimedOnce .default u e.call) fourRounds :=
  main_timing runs_fourRounds

end Timing

/-! ### Endings -/

section Endings

variable {config : HealthdConfig} {board : Board} {s s' : Healthd C} {t u : List (SysEvent C)}

/-- The calls of handlers and of periodic work. -/
def IsHandlerCall : Sys C → Prop
  | .linkToDeath _ | .unlinkToDeath _ | .infoCb _ _ | .getProperty _ | .dumpState | .modeOp _
  | .periodicChores | .outOfBounds | .timerfdSettime _ _ | .handleTransportPoll _ | .readWakealarm _
  | .ueventRecv _ _ | .abort | .nullDereference => True
  | _ => False

/-- The calls of an iteration. -/
def IsIterationCall : Sys C → Prop
  | .epollWait _ _ _ => True
  | c => IsHandlerCall c

theorem IsServingCall.isHandlerCall {c : Sys C} (h : IsServingCall c) : IsHandlerCall c := by
  cases c <;> trivial

theorem IsTimerCall.isHandlerCall {c : Sys C} (h : IsTimerCall c) : IsHandlerCall c := by
  obtain ⟨fd, interval, rfl⟩ := h
  trivial

theorem isHandlerCall_handlerCall (fd : Int) (handler : EventHandler) :
    IsHandlerCall (handlerCall fd handler : Sys C) := by
  cases handler <;> trivial

theorem IsHandlerCall.isIterationCall {c : Sys C} (h : IsHandlerCall c) : IsIterationCall c := by
  cases c <;> trivial

/-- The result of a wait. -/
def waitResult : SysEvent C → Option EpollResult
  | ⟨.epollWait _ _ _, result⟩ => some result
  | _ => none

/-- The results of the waits, in order. -/
def waitResults (t : List (SysEvent C)) : List EpollResult :=
  t.filterMap waitResult

/-- **What belongs to the start**: giving up, for want of an epoll instance, and the registration
of the service. -/
structure BelongsToStart (u : List (SysEvent C)) (c : Sys C) : Prop where
  exit : ∀ code, c = .exit code → code = 2 ∧ u = [⟨.epollCreate, (-1 : Int)⟩]
  register : c = .registerAsService → Untouched u

abbrev startMonitor (C : Type) : Monitor (Sys C) SysAnswer (List (SysEvent C)) :=
  .history BelongsToStart fun _ _ ↦ True

theorem IsSetUpCall.belongsToStart {c : Sys C} (h : IsSetUpCall c) : BelongsToStart u c where
  exit code hc := by
    subst hc
    exact h.elim
  register hc := by
    subst hc
    exact h.elim

theorem IsIterationCall.belongsToStart {c : Sys C} (h : IsIterationCall c) :
    BelongsToStart u c where
  exit code hc := by
    subst hc
    exact h.elim
  register hc := by
    subst hc
    exact h.elim

theorem IsTimerCall.belongsToStart {c : Sys C} (h : IsTimerCall c) : BelongsToStart u c :=
  h.isHandlerCall.isIterationCall.belongsToStart

theorem IsStartCall.belongsToStart {c : Sys C} (h : IsStartCall c) (hu : Untouched u) :
    BelongsToStart u c := by
  rcases h with h | rfl
  · exact h.belongsToStart
  · exact ⟨fun _ hc ↦ (by cases hc), fun _ ↦ hu⟩

theorem belongsToStart_exit :
    BelongsToStart [⟨.epollCreate, (-1 : Int)⟩] (.exit 2 : Sys C) where
  exit _ hc := by
    cases hc
    exact ⟨rfl, rfl⟩
  register hc := by cases hc

/-- **Set-up fails only for want of an epoll instance.** -/
theorem healthdInit_start (config : HealthdConfig) (s : Healthd C) :
    Safe (startMonitor C) (fun r u ↦ r.1 ≠ 0 → u = [⟨.epollCreate, (-1 : Int)⟩]) []
      (healthdInit config s) := by
  refine ⟨IsSetUpCall.belongsToStart (c := .epollCreate) trivial, fun epollfd _ ↦ ?_⟩
  show Safe _ _ _ (if epollfd = -1 then _ else _)
  split
  case isTrue hfails =>
    intro _
    exact congrArg (fun fd : Int ↦ [(⟨.epollCreate, fd⟩ : SysEvent C)]) hfails
  case isFalse =>
    have hcreated : Untouched ([⟨.epollCreate, epollfd⟩] : List (SysEvent C)) :=
      Untouched.snoc (u := []) (List.forall_mem_nil _) (c := .epollCreate) (Or.inl trivial)
        epollfd
    have hstart : ∀ {α : Type} {u : List (SysEvent C)} {p : Proc C α}, Only IsStartCall p →
        Untouched u → Safe (startMonitor C) (fun _ u' ↦ Untouched u') u p := fun hp hu ↦
      hp.safe_of_invariant (fun _ _ hu hc ↦ hc.belongsToStart hu)
        (fun _ _ x hu hc _ ↦ hu.snoc hc x) hu
    have hafter : ∀ {α : Type} {u : List (SysEvent C)} {p : Proc C α},
        Only (fun c ↦ IsSetUpCall c ∨ IsTimerCall c) p →
          Safe (startMonitor C) (fun _ _ ↦ True) u p := fun hp ↦
      hp.safe_of_invariant
        (fun _ _ _ hc ↦ hc.elim IsSetUpCall.belongsToStart IsTimerCall.belongsToStart)
        (fun _ _ _ _ _ _ ↦ trivial) trivial
    refine (hstart ((callModeOp_only _ _).mono fun _ ↦ Or.inl) hcreated).bind fun _ u₁ h₁ ↦ ?_
    refine (hstart (healthdModeServiceInit_only _) h₁).bind fun s₂ u₂ _ ↦ ?_
    refine (hafter (wakealarmInit_only config s₂)).bind fun s₃ u₃ _ ↦ ?_
    refine (hafter ((ueventInit_only s₃).mono fun _ ↦ Or.inl)).bind fun _ _ _ h ↦ ?_
    exact absurd rfl h

/-- Updates, checks and serving make calls of handlers. -/
theorem handlerCalls_kept {P : Sys C → Prop} (hP : ∀ c, IsHandlerCall c → P c) :
    Kept config (permitting P) (fun _ ↦ True) fun _ ↦ True :=
  kept_of_forall (fun _ hc ↦ hP _ hc.isHandlerCall) (fun _ hc ↦ hP _ hc.isHandlerCall)
    (hP .abort trivial) (hP .nullDereference trivial)

theorem periodicChores_only (config : HealthdConfig) (s : Healthd C) :
    Only IsHandlerCall (periodicChores config s) :=
  ((handlerCalls_kept fun _ ↦ id).periodicChores trivial () trivial).only (fun _ _ ↦ id)
    fun _ _ ↦ trivial

variable [Interfaces C]

theorem handle_only (config : HealthdConfig) (board : Board) (s : Healthd C)
    (handler : EventHandler) : Only IsHandlerCall (handle config board s handler) :=
  ((handlerCalls_kept fun _ ↦ id).handle board trivial handler
    (fun _ _ ↦ isHandlerCall_handlerCall _ handler) (fun _ _ _ ↦ trivial) () trivial).only
    (fun _ _ ↦ id) fun _ _ ↦ trivial

theorem mainloopIteration_only (config : HealthdConfig) (board : Board) (s : Healthd C)
    (nevents : Int) : Only IsIterationCall (mainloopIteration config board s nevents) := by
  have hkeeps : Keeps (permitting IsIterationCall) (fun _ ↦ True) (fun _ ↦ True) Prod.snd
      (mainloopIteration config board s nevents) :=
    (handlerCalls_kept fun _ ↦ IsHandlerCall.isIterationCall).mainloopIteration
      (fun _ _ _ _ _ _ ↦ ⟨trivial, fun _ ↦ trivial⟩)
      (fun _ handler _ ↦ ⟨fun _ _ ↦ (isHandlerCall_handlerCall _ handler).isIterationCall,
        fun _ _ _ ↦ trivial⟩)
      trivial nevents
  exact (hkeeps () trivial).only (fun _ _ ↦ id) fun _ _ ↦ trivial

/-- **Giving up and registering** belong to the start. -/
theorem main_start (config : HealthdConfig) (board : Board) (n : ℕ) :
    Safe (startMonitor C) (fun _ _ ↦ True) [] (main config board C n) := by
  have hmain : Safe (startMonitor C) (fun _ _ ↦ True) []
      (healthdMain config board n (Healthd.installed C)) := by
    refine (healthdInit_start config _).bind ?_
    rintro ⟨ret, s⟩ u hfails
    show Safe _ _ u (if ret ≠ 0 then _ else _)
    split
    case isTrue hret =>
      obtain rfl := hfails hret
      exact ⟨belongsToStart_exit, fun x ↦ x.elim⟩
    case isFalse =>
      refine (healthdMainloop_safe_of_invariant (J := fun _ _ ↦ True) (fun s a nevents _ ↦ ?_) n
        trivial 0).bind fun _ _ _ ↦ trivial
      exact (mainloopIteration_only config board s nevents).safe_of_invariant
        (fun _ _ _ hc ↦ hc.belongsToStart) (fun _ _ _ _ _ _ ↦ trivial) trivial
  exact hmain.bind fun _ _ _ ↦ trivial

/-! #### The waits of a run -/

omit [Interfaces C] in
theorem waitResults_append : waitResults (t ++ u) = waitResults t ++ waitResults u :=
  List.filterMap_append

omit [Interfaces C] in
theorem waitResults_eq_nil (h : ∀ e ∈ t, ∀ room maxevents timeout,
    e.call ≠ .epollWait room maxevents timeout) : waitResults t = [] := by
  refine List.filterMap_eq_nil_iff.2 fun e he ↦ ?_
  obtain ⟨c, x⟩ := e
  cases c
  case epollWait room maxevents timeout => exact absurd rfl (h _ he room maxevents timeout)
  all_goals rfl

omit [Interfaces C] in
theorem IsHandlerCall.ne_epollWait {c : Sys C} (h : IsHandlerCall c) (room maxevents : ℕ)
    (timeout : Int) : c ≠ .epollWait room maxevents timeout := by
  rintro rfl
  exact h

/-- A handler does not wait. -/
theorem handler_waitResults {d : HandlerRun C} (hd : d.IsRun (handleSection config board) s') :
    waitResults d.trace = [] := by
  obtain ⟨before, ⟨handler, ⟨⟩⟩, trace⟩ := d
  obtain ⟨s₁, hrun, -⟩ := runs_bind_ret_iff.1 hd
  exact waitResults_eq_nil fun e he ↦
    (((handle_only config board before handler).steps hrun).1 e he).ne_epollWait

theorem handlers_waitResults {l : List (HandlerRun C)}
    (h : Execution (handleSection config board) s l s') :
    waitResults (l.flatMap Executed.trace) = [] := by
  induction h with
  | nil => rfl
  | snoc _ hd ih =>
    rw [List.flatMap_append, List.flatMap_singleton, waitResults_append, ih,
      handler_waitResults hd]
    rfl

omit [Interfaces C] in
theorem chores_waitResults (h : Runs (periodicChores config s) t s') : waitResults t = [] :=
  waitResults_eq_nil fun e he ↦
    (((periodicChores_only config s).steps h).1 e he).ne_epollWait

/-- **A round waits once.** -/
theorem Round.IsRun.waitResults {due : Prop} {r : Round C} (hr : r.IsRun config board due) :
    waitResults r.trace = [r.result] := by
  have hchores : Health.waitResults (r.chores.getD []) = [] := by
    rcases hr.chores with ⟨-, t, ht, hrun⟩ | ⟨-, hnone, -⟩
    · rw [ht]
      exact chores_waitResults hrun
    · rw [hnone]
      rfl
  rw [Round.trace, waitResults_append, waitResults_append, hchores,
    handlers_waitResults hr.dispatched]
  rfl

/-- A round whose wait fails ends with it. -/
theorem Round.IsRun.trace_of_failed {due : Prop} {r : Round C} (hr : r.IsRun config board due)
    (hresult : r.result = .failed) :
    ∃ v, r.trace = v ++ [r.wait] ∧ Health.waitResults v = [] := by
  have hhandlers : r.handlers = [] := by
    have honce := hr.once
    rw [hresult] at honce
    exact List.map_eq_nil_iff.1 honce
  have htrace : r.trace = r.chores.getD [] ++
      [⟨.modeOp .heartbeat, ()⟩, ⟨.modeOp .preparetowait, ()⟩] ++ [r.wait] := by
    simp [Round.trace, hhandlers]
  refine ⟨_, htrace, ?_⟩
  have hresults := hr.waitResults
  rw [htrace, waitResults_append] at hresults
  exact List.append_cancel_right (show _ ++ [_] = [] ++ [r.result] from hresults)

/-- **The loop** makes all its rounds, or is left with a wait that fails. -/
theorem LoopRun.ends {n : ℕ} {due : Prop} {rounds : List (Round C)}
    (h : LoopRun config board n due s rounds) :
    ((waitResults (rounds.flatMap Round.trace)).length = n ∧
        .failed ∉ waitResults (rounds.flatMap Round.trace)) ∨
      ∃ v room maxevents timeout,
        rounds.flatMap Round.trace = v ++ [⟨.epollWait room maxevents timeout, .failed⟩] ∧
          .failed ∉ waitResults v ∧ (waitResults v).length < n := by
  induction h with
  | stop => exact Or.inl ⟨rfl, List.not_mem_nil⟩
  | @last n due r hr hresult =>
    obtain ⟨v, htrace, hv⟩ := hr.trace_of_failed hresult
    rw [Round.wait, hresult] at htrace
    rw [List.flatMap_singleton]
    exact Or.inr ⟨v, _, _, _, htrace, hv ▸ List.not_mem_nil, hv ▸ Nat.succ_pos n⟩
  | @next n due r rounds hr hresult h ih =>
    have hround := hr.waitResults
    rcases ih with ⟨hlength, hfailed⟩ | ⟨v, room, maxevents, timeout, htrace, hfailed, hlength⟩
    · refine Or.inl ?_
      rw [List.flatMap_cons, waitResults_append, hround]
      exact ⟨congrArg Nat.succ hlength,
        List.not_mem_cons_of_ne_of_not_mem (Ne.symm hresult) hfailed⟩
    · refine Or.inr ⟨r.trace ++ v, room, maxevents, timeout, ?_⟩
      rw [List.flatMap_cons, htrace, List.append_assoc, waitResults_append, hround]
      exact ⟨rfl, List.not_mem_cons_of_ne_of_not_mem (Ne.symm hresult) hfailed,
        Nat.succ_lt_succ hlength⟩

omit [Interfaces C] in
/-- The start does not wait. -/
theorem healthdInit_waitResults {r : Int × Healthd C} (h : Runs (healthdInit config s) t r) :
    waitResults t = [] := by
  refine waitResults_eq_nil fun e he room maxevents timeout hcall ↦ ?_
  have hbackground := ((healthdInit_background config s).steps h).1 e he
  rw [hcall] at hbackground
  exact hbackground.fetches_nothing trivial

omit [Interfaces C] in
/-- The calls that have no answer. -/
theorem unanswered {c : Sys C} (h : IsEmpty (SysAnswer c)) :
    (∃ code, c = .exit code) ∨ c = .abort ∨ c = .nullDereference := by
  cases c
  case exit code => exact Or.inl ⟨code, rfl⟩
  case abort => exact Or.inr (Or.inl rfl)
  case nullDereference => exact Or.inr (Or.inr rfl)
  case linkToDeath | unlinkToDeath => exact h.elim .error
  case healthInfoChanged => exact h.elim .error
  case epollWait => exact h.elim .failed
  case getProperty | ueventRecv => exact h.elim (0, default)
  case infoCb | dumpState | modeOp | periodicChores | outOfBounds => exact h.elim ()
  case registerAsService => exact h.elim true
  case handleTransportPoll => exact h.elim []
  all_goals exact h.elim (0 : Int)

/-- **How the daemon ends.** It exits only with 2, having failed to create its epoll instance, and
aborts only when it has failed to register its service, which it tries before it first waits.
Otherwise it returns 3: with `n` iterations to do, it makes `n` waits, or it stops right after the
first that fails. -/
theorem main_ends (config : HealthdConfig) (board : Board) (n : ℕ) :
    (∀ (u : List (SysEvent C)) (c : Sys C) (k : SysAnswer c → Proc C Int),
      Steps (main config board C n) u (Program.call c k) → IsEmpty (SysAnswer c) →
        (c = .exit 2 ∧ u = [⟨.epollCreate, (-1 : Int)⟩]) ∨
          (c = .abort ∧ ∃ v, Untouched v ∧ u = v ++ [⟨.registerAsService, false⟩])) ∧
    ∀ (t : List (SysEvent C)) (ret : Int), Runs (main config board C n) t ret →
      ret = 3 ∧
        (((waitResults t).length = n ∧ .failed ∉ waitResults t) ∨
          ∃ v room maxevents timeout,
            t = v ++ [⟨.epollWait room maxevents timeout, .failed⟩] ∧
              .failed ∉ waitResults v ∧ (waitResults v).length < n) := by
  constructor
  · intro u c k h hempty
    obtain ⟨hstart, hnext⟩ := (main_start config board n).throughout h
    have horder := ((main_inOrder board n).throughout h).2
    rcases unanswered hempty with ⟨code, rfl⟩ | rfl | rfl
    · obtain ⟨rfl, hu⟩ := hnext.1.exit code rfl
      exact Or.inl ⟨rfl, hu⟩
    · obtain ⟨v, rfl⟩ := horder.1.checked rfl
      have hregister : BelongsToStart v .registerAsService := hstart v _ [] rfl
      exact Or.inr ⟨rfl, v, hregister.register rfl, rfl⟩
    · exact absurd rfl horder.1.not_null
  · intro t ret h
    obtain ⟨s, h⟩ := healthdMain_of_main h
    obtain ⟨t₀, s₀, rounds, rfl, hinit, hrounds, rfl, -⟩ := healthdMain_rounds h
    have hstart := healthdInit_waitResults hinit
    refine ⟨rfl, ?_⟩
    rcases hrounds.ends with ⟨hlength, hfailed⟩ |
      ⟨v, room, maxevents, timeout, htrace, hfailed, hlength⟩
    · refine Or.inl ?_
      rw [waitResults_append, hstart]
      exact ⟨hlength, hfailed⟩
    · refine Or.inr ⟨t₀ ++ v, room, maxevents, timeout, ?_⟩
      rw [htrace, List.append_assoc, waitResults_append, hstart]
      exact ⟨rfl, hfailed, hlength⟩

/-- A run whose service cannot be registered. -/
def refusedRun : List (SysEvent ℕ) :=
  [⟨.epollCreate, (3 : Int)⟩, ⟨.modeOp .init, ()⟩, ⟨.setupTransportPolling, (-1 : Int)⟩,
    ⟨.registerAsService, false⟩]

theorem steps_refusedRun :
    ∃ k, Steps (main .default .service ℕ 4) refusedRun (Program.call .abort k) := by
  constructor
  iterate 4 apply Steps.call
  exact Steps.refl _

theorem main_ends_fourRounds :
    (∃ v, Untouched v ∧ refusedRun = v ++ [⟨.registerAsService, false⟩]) ∧
      ∃ v room maxevents timeout,
        fourRounds = v ++ [⟨.epollWait room maxevents timeout, .failed⟩] ∧
          .failed ∉ waitResults v ∧ (waitResults v).length < 4 := by
  obtain ⟨hunanswered, hruns⟩ := main_ends (C := ℕ) .default .service 4
  have hfailed : EpollResult.failed ∈ waitResults fourRounds := by decide
  constructor
  · obtain ⟨k, hsteps⟩ := steps_refusedRun
    have habort := hunanswered refusedRun .abort k hsteps ⟨Empty.elim⟩
    exact (habort.resolve_left fun h ↦ absurd h.1 (by decide)).2
  · exact (hruns fourRounds 3 runs_fourRounds).2.resolve_left fun h ↦ h.2 hfailed

end Endings

end Health

end XenvmHal
