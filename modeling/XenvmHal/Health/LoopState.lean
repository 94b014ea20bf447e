import XenvmHal.Health.Calls
import XenvmHal.Health.Handlers

/-!
# The state of the main loop

What the loop takes for granted: `eventct` counts the file descriptors that epoll watches, each
with the handler of the static variable it is kept in, the mode's table and the instance are there.
Set-up makes it so, whichever of its steps fail (`healthdInit_ready`), and nothing after set-up
changes it, since handlers and periodic work leave `Healthd.fixed` alone (`fixed_kept`).

Two readings of it. Whenever the daemon makes a call, also in a run that has not ended, the call is
`InOrder` (`main_inOrder`). And a complete run is set-up followed by `Round`s
(`healthdMain_rounds`), each of which says when periodic work runs, what the wait was passed and
which handlers ran. `main_loopState` puts the two together.
-/

namespace XenvmHal

open Interaction Program

namespace Health

variable {C : Type}

/-! ### What epoll watches -/

/-- What a successful registration adds. -/
def added : SysEvent C → Option (Int × EventHandler)
  | ⟨.epollCtlAdd fd handler _, result⟩ => if result = -1 then none else some (fd, handler)
  | _ => none

/-- The file descriptors that epoll watches, with their handlers. -/
def registered (t : List (SysEvent C)) : List (Int × EventHandler) :=
  t.filterMap added

/-- The maximum of a wait and the events it returned, if it did. -/
def returned : SysEvent C → Option (ℕ × List (Option EventHandler))
  | ⟨.epollWait _ maxevents _, .ready events⟩ => some (maxevents, events)
  | _ => none

/-- **What `epoll_wait` may return**: no more events than it was asked for, each with the pointer
of a registration. -/
def EpollAnswers (u : List (SysEvent C)) (e : SysEvent C) : Prop :=
  ∀ r ∈ returned e, r.2.length ≤ r.1 ∧ ∀ event ∈ r.2, ∃ p ∈ registered u, event = some p.2

instance (u : List (SysEvent C)) (e : SysEvent C) : Decidable (EpollAnswers u e) :=
  inferInstanceAs (Decidable (∀ r ∈ returned e, _))

/-- **A call in order**, after `u`. -/
structure InOrder (u : List (SysEvent C)) (c : Sys C) : Prop where
  /-- The array and the maximum of a wait are as many as there are registrations. -/
  counted : ∀ room maxevents timeout, c = .epollWait room maxevents timeout →
    room = (registered u).length ∧ maxevents = (registered u).length
  /-- `healthd_mode_ops` is not null where it is read. -/
  not_null : c ≠ .nullDereference
  /-- The one check that fails is that of the registration as a service. -/
  checked : c = .abort → ∃ v, u = v ++ [⟨.registerAsService, false⟩]
  /-- A handler fetches from a file descriptor it is registered for. -/
  fetches : Throughout EpollAnswers u → ∀ fd handler, c = handlerCall fd handler →
    (fd, handler) ∈ registered u

/-- The monitor that asks for order. -/
abbrev orderMonitor (C : Type) : Monitor (Sys C) SysAnswer (List (SysEvent C)) :=
  .history InOrder fun _ _ ↦ True

theorem registered_snoc (u : List (SysEvent C)) (e : SysEvent C) :
    registered (u ++ [e]) = registered u ++ (added e).toList := by
  cases h : added e <;> simp [registered, h]

theorem registered_snoc_of_none {u : List (SysEvent C)} {e : SysEvent C}
    (he : added e = none) : registered (u ++ [e]) = registered u := by
  rw [registered_snoc, he]
  exact List.append_nil _

/-- The calls that are in order whenever they are made. -/
def IsPlain : Sys C → Prop
  | .epollWait _ _ _ | .nullDereference | .abort | .handleTransportPoll _ | .readWakealarm _
  | .ueventRecv _ _ => False
  | _ => True

theorem IsPlain.inOrder {u : List (SysEvent C)} {c : Sys C} (h : IsPlain c) : InOrder u c where
  counted room maxevents timeout hc := by
    subst hc
    exact h.elim
  not_null hc := by
    subst hc
    exact h
  checked hc := by
    subst hc
    exact h.elim
  fetches _ fd handler hc := by
    subst hc
    cases handler <;> exact h.elim

/-! ### What set-up fixes -/

/-- What is left alone once set-up is over. -/
structure Fixed where
  eventct : ℕ
  fdOf : EventHandler → Int
  healthdModeOps : Option ModeOps
  instance_ : Bool

/-- The part of the process that is left alone once set-up is over. -/
def Healthd.fixed (s : Healthd C) : Fixed where
  eventct := s.eventct
  fdOf := s.fdOf
  healthdModeOps := s.healthdModeOps
  instance_ := s.instance_

theorem handlerCall_inj {fd fd' : Int} {handler handler' : EventHandler}
    (h : (handlerCall fd handler : Sys C) = handlerCall fd' handler') :
    fd = fd' ∧ handler = handler' := by
  cases handler <;> cases handler' <;> simp_all [handlerCall]

/-- Fetching from a file descriptor that the handler is registered for is in order. -/
theorem inOrder_handlerCall {u : List (SysEvent C)} {fd : Int} {handler : EventHandler}
    (h : Throughout EpollAnswers u → (fd, handler) ∈ registered u) :
    InOrder u (handlerCall fd handler) where
  counted room maxevents timeout hc := by cases handler <;> cases hc
  not_null hc := by cases handler <;> cases hc
  checked hc := by cases handler <;> cases hc
  fetches hanswers fd' handler' hc := by
    obtain ⟨rfl, rfl⟩ := handlerCall_inj hc
    exact h hanswers

theorem IsServingCall.isPlain {c : Sys C} (h : IsServingCall c) : IsPlain c := by
  cases c <;> trivial

theorem IsServingCall.added_eq_none {c : Sys C} (h : IsServingCall c) (x : SysAnswer c) :
    added ⟨c, x⟩ = none := by
  cases c <;> first | rfl | exact h.elim

/-- The registrations are `regs`, and `P` holds as long as epoll answers as it may. -/
def Watching (regs : List (Int × EventHandler)) (P : Prop) (u : List (SysEvent C)) : Prop :=
  registered u = regs ∧ (Throughout EpollAnswers u → P)

section Frame

variable {regs : List (Int × EventHandler)} {P : Prop} {u : List (SysEvent C)}

theorem Watching.snoc (h : Watching regs P u) {e : SysEvent C} (he : added e = none) :
    Watching regs P (u ++ [e]) := by
  exact ⟨(registered_snoc_of_none he).trans h.1,
    fun hanswers ↦ h.2 (throughout_snoc_iff.1 hanswers).1⟩

/-- **Updates leave the fixed part alone**, and only program the timer. -/
theorem update_fixed (config : HealthdConfig) (s : Healthd C) (f : Fixed) (hs : s.fixed = f) :
    Keeps (orderMonitor C) (Watching regs P) (fun s ↦ s.fixed = f) Prod.snd (update config s) := by
  intro u hu
  have hcalls : Safe (orderMonitor C) (fun _ u' ↦ Watching regs P u') u (update config s) := by
    refine (update_only s).safe_of_invariant ?_ ?_ hu
    · rintro u c - ⟨fd, interval, rfl⟩
      exact IsPlain.inOrder trivial
    · rintro u c x hu ⟨fd, interval, rfl⟩ -
      exact hu.snoc rfl
  refine (hcalls.and_of_runs (P := fun r ↦ r.2.fixed = f) fun t r hr ↦ ?_).mono
    fun _ _ h ↦ h.symm
  rw [(update_spec hr).1]
  exact hs

/-- **The fixed part survives** what serving an event does. -/
theorem fixed_kept (config : HealthdConfig) {f : Fixed} (hinstance : f.instance_ = true)
    (hops : f.healthdModeOps ≠ none) :
    Kept config (orderMonitor C) (Watching regs P) fun s ↦ s.fixed = f where
  pre _ _ _ hc := hc.isPlain.inOrder
  next _ _ x hu hc := hu.snoc (hc.added_eq_none x)
  callbacks _ _ hs := hs
  update s hs := update_fixed config s f hs
  checked s u hs _ hnone := by
    have hsome : s.instance_ = true := (congrArg Fixed.instance_ hs).trans hinstance
    rw [hsome] at hnone
    cases hnone
  deref s u hs _ hnone := absurd ((congrArg Fixed.healthdModeOps hs).symm.trans hnone) hops

end Frame

/-! ### Set-up -/

/-- **What set-up has done so far**: each success is counted, and each registration is that of a
handler in `handlers` with the file descriptor in its variable. -/
structure SetUp (s : Healthd C) (u : List (SysEvent C)) (handlers : List EventHandler) : Prop where
  counted : s.eventct = (registered u).length
  watched : ∀ p ∈ registered u, p.2 ∈ handlers ∧ p.1 = s.fdOf p.2 ∧ (p.2 = .binderEvent → 0 ≤ p.1)

section SetUp

variable {config : HealthdConfig} {s s' : Healthd C} {u : List (SysEvent C)}
  {handlers : List EventHandler}

/-- A variable is written before its handler is registered. -/
theorem SetUp.congr (h : SetUp s u handlers) (heventct : s'.eventct = s.eventct)
    (hfd : ∀ handler ∈ handlers, s'.fdOf handler = s.fdOf handler) : SetUp s' u handlers where
  counted := heventct.trans h.counted
  watched p hp := by
    obtain ⟨hmem, heq, hbinder⟩ := h.watched p hp
    exact ⟨hmem, heq.trans (hfd p.2 hmem).symm, hbinder⟩

theorem SetUp.snoc (h : SetUp s u handlers) {e : SysEvent C} (he : added e = none) :
    SetUp s (u ++ [e]) handlers := by
  have hsame : registered (u ++ [e]) = registered u := registered_snoc_of_none he
  exact ⟨hsame ▸ h.counted, hsame ▸ h.watched⟩

theorem SetUp.mono (h : SetUp s u handlers) (handler : EventHandler) :
    SetUp s u (handler :: handlers) :=
  ⟨h.counted, fun p hp ↦ (h.watched p hp).imp_left (List.mem_cons_of_mem _)⟩

/-- A call of set-up. -/
theorem safe_plain {α : Type} {Q : α → List (SysEvent C) → Prop} {c : Sys C}
    {k : SysAnswer c → Proc C α} (hc : IsPlain c)
    (hk : ∀ x, Safe (orderMonitor C) Q (u ++ [⟨c, x⟩]) (k x)) :
    Safe (orderMonitor C) Q u (Program.call c k) :=
  ⟨hc.inOrder, fun x _ ↦ hk x⟩

/-- **A registration** is counted when it succeeds. -/
theorem healthdRegisterEvent_setUp (h : SetUp s u handlers) (handler : EventHandler)
    (hbinder : handler = .binderEvent → 0 ≤ s.fdOf handler) (wakeup : EventWakeup) :
    Safe (orderMonitor C)
      (fun r u' ↦ SetUp r.2 u' (handler :: handlers) ∧ r.2 = { s with eventct := r.2.eventct }) u
      (healthdRegisterEvent s (s.fdOf handler) handler wakeup) := by
  refine safe_plain trivial fun result ↦ ?_
  show Safe _ _ _ (if result = -1 then _ else _)
  split
  case isTrue hfails =>
    have hnone : added ⟨.epollCtlAdd (s.fdOf handler) handler wakeup, result⟩ = none :=
      if_pos hfails
    exact ⟨(h.snoc hnone).mono handler, rfl⟩
  case isFalse hsucceeds =>
    have hadded : registered (u ++ [⟨.epollCtlAdd (s.fdOf handler) handler wakeup, result⟩]) =
        registered u ++ [(s.fdOf handler, handler)] := by
      rw [registered_snoc, added, if_neg hsucceeds]
      rfl
    refine ⟨⟨?_, ?_⟩, rfl⟩
    · show s.eventct + 1 = (registered (u ++ [_])).length
      rw [hadded, List.length_append, List.length_singleton, h.counted]
    · show ∀ p ∈ registered (u ++ [_]), _
      rw [hadded, List.forall_mem_append, List.forall_mem_singleton]
      exact ⟨(h.mono handler).watched, List.mem_cons_self, rfl, hbinder⟩

/-- There is an instance from here on. -/
theorem initInstance_setUp (h : SetUp s u handlers) :
    SetUp (initInstance s) u handlers ∧ (initInstance s).instance_ = true ∧
      (initInstance s).healthdModeOps = s.healthdModeOps := by
  rw [initInstance]
  split
  case isTrue hinstance => exact ⟨h, hinstance, rfl⟩
  case isFalse => exact ⟨h.congr rfl fun handler _ ↦ by cases handler <;> rfl, rfl, rfl⟩

/-- The check of the registration as a service may fail. -/
theorem inOrder_abort (u : List (SysEvent C)) :
    InOrder (u ++ [⟨.registerAsService, false⟩]) .abort where
  counted room maxevents timeout hc := by cases hc
  not_null hc := by cases hc
  checked _ := ⟨u, rfl⟩
  fetches _ fd handler hc := by cases handler <;> cases hc

theorem registerAsService_setUp (h : SetUp s u handlers) :
    Safe (orderMonitor C)
      (fun s' u' ↦ SetUp s' u' handlers ∧ s'.instance_ = true ∧
        s'.healthdModeOps = s.healthdModeOps)
      u (do let registered ← perform .registerAsService
            if registered then pure (initInstance s) else halt .abort sysAnswer_abort) := by
  refine safe_plain trivial fun registered ↦ ?_
  cases registered with
  | true => exact initInstance_setUp (h.snoc rfl)
  | false => exact ⟨inOrder_abort u, fun x ↦ x.elim⟩

/-- **The service starts**: its binder events may be registered, and there is an instance. -/
theorem healthdModeServiceInit_setUp (h : SetUp s u []) :
    Safe (orderMonitor C)
      (fun s' u' ↦ SetUp s' u' [.binderEvent] ∧ s'.instance_ = true ∧
        s'.healthdModeOps = s.healthdModeOps)
      u (healthdModeServiceInit s) := by
  refine safe_plain trivial fun fd ↦ ?_
  have hbinder : SetUp { s with gBinderFd := fd } (u ++ [⟨.setupTransportPolling, fd⟩]) [] :=
    (h.snoc rfl).congr rfl fun handler hmem ↦ absurd hmem List.not_mem_nil
  show Safe _ _ _ (if fd ≥ 0 then _ else _)
  split
  · rename_i hfd
    refine (healthdRegisterEvent_setUp hbinder .binderEvent (fun _ ↦ hfd)
      .noWakeupFd).bind fun r u' hr ↦ ?_
    have hops : r.2.healthdModeOps = s.healthdModeOps := by rw [hr.2]
    exact hops ▸ registerAsService_setUp hr.1
  · exact registerAsService_setUp (hbinder.mono _)

/-- Programming the timer registers nothing. -/
theorem wakealarmSetInterval_setUp (h : SetUp s u handlers) (interval : Int) :
    Safe (orderMonitor C)
      (fun s' u' ↦ SetUp s' u' handlers ∧
        s' = { s with wakealarmWakeInterval := s'.wakealarmWakeInterval })
      u (wakealarmSetInterval s interval) := by
  have hcalls : Safe (orderMonitor C) (fun _ u' ↦ SetUp s u' handlers) u
      (wakealarmSetInterval s interval) := by
    refine (wakealarmSetInterval_only s interval).safe_of_invariant ?_ ?_ h
    · rintro u c - ⟨fd, interval, rfl⟩
      exact IsPlain.inOrder trivial
    · rintro u c x hu ⟨fd, interval, rfl⟩ -
      exact hu.snoc rfl
  refine (hcalls.and_of_runs fun t s' hr ↦ wakealarmSetInterval_spec hr).mono ?_
  rintro s' u' ⟨hs', hframe⟩
  refine ⟨hs'.congr (by rw [hframe]) fun handler _ ↦ ?_, hframe⟩
  rw [hframe]
  cases handler <;> rfl

/-- What the two kernel sources of events leave alone. -/
def SameService (s s' : Healthd C) : Prop :=
  s'.instance_ = s.instance_ ∧ s'.healthdModeOps = s.healthdModeOps

/-- **The wake alarm is set up**, or not. -/
theorem wakealarmInit_setUp (h : SetUp s u [.binderEvent]) :
    Safe (orderMonitor C)
      (fun s' u' ↦ SetUp s' u' [.wakealarmEvent, .binderEvent] ∧ SameService s s') u
      (wakealarmInit config s) := by
  refine safe_plain trivial fun fd ↦ ?_
  have hopened :
      SetUp { s with wakealarmFd := fd } (u ++ [⟨.timerfdCreate, fd⟩]) [.binderEvent] := by
    refine (h.snoc rfl).congr rfl fun handler hmem ↦ ?_
    obtain rfl := List.mem_singleton.1 hmem
    rfl
  show Safe _ _ _ (if fd = -1 then _ else _)
  split
  · exact ⟨hopened.mono _, rfl, rfl⟩
  · refine (healthdRegisterEvent_setUp hopened .wakealarmEvent EventHandler.noConfusion
      .wakeupFd).bind ?_
    rintro ⟨result, s₁⟩ u₁ ⟨h₁, hs₁⟩
    refine (wakealarmSetInterval_setUp h₁ _).mono ?_
    rintro s₂ u₂ ⟨h₂, hs₂⟩
    dsimp only at hs₁
    refine ⟨h₂, ?_⟩
    rw [hs₂, hs₁]
    exact ⟨rfl, rfl⟩

/-- **The uevent socket is set up**, or not. -/
theorem ueventInit_setUp (h : SetUp s u [.wakealarmEvent, .binderEvent]) :
    Safe (orderMonitor C)
      (fun s' u' ↦ SetUp s' u' [.ueventEvent, .wakealarmEvent, .binderEvent] ∧ SameService s s') u
      (ueventInit s) := by
  refine safe_plain trivial fun fd ↦ ?_
  have hopened : SetUp { s with ueventFd := fd } (u ++ [⟨.ueventOpenSocket, fd⟩])
      [.wakealarmEvent, .binderEvent] := by
    refine (h.snoc rfl).congr rfl fun handler hmem ↦ ?_
    simp only [List.mem_cons, List.not_mem_nil, or_false] at hmem
    rcases hmem with rfl | rfl <;> rfl
  show Safe _ _ _ (if fd < 0 then _ else _)
  split
  · exact ⟨hopened.mono _, rfl, rfl⟩
  · refine (healthdRegisterEvent_setUp hopened .ueventEvent EventHandler.noConfusion
      .wakeupFd).bind ?_
    rintro ⟨result, s₁⟩ u₁ ⟨h₁, hs₁⟩
    dsimp only at hs₁
    refine ⟨h₁, ?_⟩
    rw [hs₁]
    exact ⟨rfl, rfl⟩

/-- **Ready for the loop.** -/
structure Ready (s : Healthd C) (u : List (SysEvent C)) : Prop where
  counted : s.eventct = (registered u).length
  watched : ∀ p ∈ registered u, p.1 = s.fdOf p.2 ∧ (p.2 = .binderEvent → 0 ≤ p.1)
  instance_ : s.instance_ = true
  ops : s.healthdModeOps ≠ none

/-- **Set-up**, whichever of its steps fail, leaves the process ready for the loop. -/
theorem healthdInit_ready (hs : s.eventct = 0) (hops : s.healthdModeOps ≠ none) :
    Safe (orderMonitor C) (fun r u ↦ r.1 = 0 → Ready r.2 u) [] (healthdInit config s) := by
  refine safe_plain trivial fun epollfd ↦ ?_
  show Safe _ _ _ (if epollfd = -1 then _ else _)
  split
  · intro hfailed
    cases hfailed
  · have hstart : SetUp { s with epollfd := epollfd } [⟨.epollCreate, epollfd⟩] [] :=
      ⟨hs, List.forall_mem_nil _⟩
    have hmode : Safe (orderMonitor C) (fun _ u' ↦ SetUp { s with epollfd := epollfd } u' [])
        [⟨.epollCreate, epollfd⟩] (callModeOp { s with epollfd := epollfd } .init) := by
      rw [callModeOp]
      split
      · have hserving : IsServingCall (.modeOp .init : Sys C) := trivial
        exact ⟨hserving.isPlain.inOrder, fun _ _ ↦ hstart.snoc rfl⟩
      · exact absurd ‹_› hops
    refine hmode.bind fun _ u₀ h₀ ↦ ?_
    refine Safe.bind (healthdModeServiceInit_setUp h₀) ?_
    rintro s₁ u₁ ⟨h₁, hinstance, hops₁⟩
    refine Safe.bind (wakealarmInit_setUp h₁) ?_
    rintro s₂ u₂ ⟨h₂, hsame₂⟩
    refine Safe.bind (ueventInit_setUp h₂) ?_
    rintro s₃ u₃ ⟨h₃, hsame₃⟩ -
    refine ⟨h₃.counted, fun p hp ↦ (h₃.watched p hp).2, ?_, ?_⟩
    · exact hsame₃.1.trans (hsame₂.1.trans hinstance)
    · rw [hsame₃.2, hsame₂.2, hops₁]
      exact hops

end SetUp

/-! ### The loop -/

section Mainloop

variable {config : HealthdConfig} (board : Board) {s s' : Healthd C} {u : List (SysEvent C)}

/-- The fixed part of a process that is ready, against its registrations. -/
theorem Ready.of_fixed (h : Ready s u) {u' : List (SysEvent C)} (hs : s'.fixed = s.fixed)
    (hu : registered u' = registered u) : Ready s' u' where
  counted := by
    rw [hu, ← h.counted]
    exact congrArg Fixed.eventct hs
  watched p hp := by
    rw [hu] at hp
    refine (h.watched p hp).imp_left fun heq ↦ heq.trans ?_
    exact (congrFun (congrArg Fixed.fdOf hs) p.2).symm
  instance_ := (congrArg Fixed.instance_ hs).trans h.instance_
  ops hnone := h.ops ((congrArg Fixed.healthdModeOps hs).symm.trans hnone)

/-- **The invariant of the loop**: the fixed part stays, and so do the registrations. -/
theorem Ready.kept (h : Ready s u) (config : HealthdConfig) (P : Prop) :
    Kept config (orderMonitor C) (Watching (registered u) P) fun s' ↦ s'.fixed = s.fixed :=
  fixed_kept config h.instance_ h.ops

theorem Watching.wait {regs : List (Int × EventHandler)} (h : registered u = regs)
    {room maxevents : ℕ} {timeout : Int} {events : List (Option EventHandler)} :
    Watching regs (∀ event ∈ events, ∃ p ∈ regs, event = some p.2)
      (u ++ [⟨.epollWait room maxevents timeout, .ready events⟩]) := by
  refine ⟨(registered_snoc_of_none rfl).trans h, fun hanswers ↦ ?_⟩
  rw [← h]
  exact ((throughout_snoc_iff.1 hanswers).2 (maxevents, events) rfl).2

/-- **A handler** of a registration fetches in order. -/
theorem Ready.fetches (h : Ready s u) {P : Prop} {handler : EventHandler}
    (hP : P → ∃ fd, (fd, handler) ∈ registered u) (hs : s'.fixed = s.fixed) {v : List (SysEvent C)}
    (hv : Watching (registered u) P v) : InOrder v (handlerCall (s'.fdOf handler) handler) := by
  refine inOrder_handlerCall fun hanswers ↦ ?_
  obtain ⟨fd, hfd⟩ := hP (hv.2 hanswers)
  have heq : fd = s'.fdOf handler :=
    (h.watched _ hfd).1.trans (congrFun (congrArg Fixed.fdOf hs) handler).symm
  rw [hv.1, ← heq]
  exact hfd

theorem added_handlerCall (fd : Int) (handler : EventHandler)
    (x : SysAnswer (handlerCall fd handler : Sys C)) :
    added ⟨handlerCall fd handler, x⟩ = none := by
  cases handler <;> rfl

variable [Interfaces C]

/-- **The wait**, with an array of as many events as there are registrations. -/
theorem mainloopWait_ready (h : Ready s u) (timeout : Int) :
    Safe (orderMonitor C) (fun r u' ↦ Ready r.2 u') u
      (mainloopWait config board s s.eventct timeout) := by
  have hkept := h.kept config True
  have hu : Watching (registered u) True u := ⟨rfl, fun _ ↦ trivial⟩
  refine (hkept.callModeOp rfl .heartbeat u hu).bind fun _ u₁ ⟨_, h₁⟩ ↦ ?_
  refine (hkept.callModeOp rfl .preparetowait u₁ h₁).bind fun _ u₂ ⟨_, h₂⟩ ↦ ?_
  have hready := h.of_fixed rfl h₂.1
  refine ⟨⟨?_, fun hc ↦ ?_, fun hc ↦ ?_, fun _ fd handler hc ↦ ?_⟩, fun result _ ↦ ?_⟩
  · rintro _ _ _ ⟨⟩
    exact ⟨hready.counted, hready.counted⟩
  · cases hc
  · cases hc
  · cases handler <;> cases hc
  · cases result with
    | interrupted => exact hready.of_fixed rfl (registered_snoc_of_none rfl)
    | failed => exact hready.of_fixed rfl (registered_snoc_of_none rfl)
    | ready events =>
      show Safe _ _ _ (dispatch config board s events >>= _)
      refine Safe.bind
        ((hready.kept config _).dispatch board rfl events ?_ _ (Watching.wait rfl)) ?_
      · intro s' hs' handler hmem
        refine ⟨fun v hv ↦ hready.fetches (fun hevents ↦ ?_) hs' hv, fun v x hv ↦ ?_⟩
        · obtain ⟨p, hp, heq⟩ := hevents _ hmem
          obtain rfl := Option.some.inj heq
          exact ⟨p.1, hp⟩
        · exact hv.snoc (added_handlerCall _ handler x)
      · intro s' u' hs'
        exact hready.of_fixed hs'.1 hs'.2.1

/-- **One iteration** leaves the process ready for the next one. -/
theorem mainloopIteration_ready (h : Ready s u) (nevents : Int) :
    Safe (orderMonitor C) (fun r u' ↦ Ready r.2 u') u
      (mainloopIteration config board s nevents) := by
  simp only [mainloopIteration]
  split
  · refine ((h.kept config True).periodicChores rfl u ⟨rfl, fun _ ↦ trivial⟩).bind ?_
    rintro s' u' ⟨hs', hu'⟩
    have heventct : s.eventct = s'.eventct := (congrArg Fixed.eventct hs').symm
    rw [heventct]
    exact mainloopWait_ready board (h.of_fixed hs' hu'.1) _
  · exact mainloopWait_ready board h _

/-- **Every call of the daemon is in order.** -/
theorem main_inOrder (n : ℕ) :
    Safe (orderMonitor C) (fun _ _ ↦ True) [] (main config board C n) :=
  main_safe_of_invariant (healthdInit_ready rfl (Option.some_ne_none _))
    (fun _ ↦ IsPlain.inOrder trivial) (fun _ _ nevents h ↦ mainloopIteration_ready board h nevents)
    n

end Mainloop

/-! ### The rounds of a run -/

/-- The handlers behind the events of a wait, without the null pointers. -/
def EpollResult.handlers : EpollResult → List EventHandler
  | .ready events => events.filterMap id
  | _ => []

/-- What the loop makes of a wait: the new `nevents`, `none` when it is left. -/
def EpollResult.nevents : EpollResult → Option Int
  | .interrupted => some (-1)
  | .failed => none
  | .ready events => some events.length

/-- **No events** is the timeout, and only that. -/
theorem EpollResult.eq_zero_iff {result : EpollResult} {nevents : Int}
    (h : result.nevents = some nevents) : nevents = 0 ↔ result = .ready [] := by
  cases result with
  | interrupted =>
    obtain rfl := Option.some.inj h
    exact iff_of_false (by decide) fun h ↦ by cases h
  | failed => cases h
  | ready events =>
    obtain rfl := Option.some.inj h
    simp

section Rounds

variable [Interfaces C] (config : HealthdConfig) (board : Board)

/-- A handler as a section of the loop. -/
def handleSection (handler : EventHandler) (s : Healthd C) : Proc C (Unit × Healthd C) := do
  let s ← handle config board s handler
  pure ((), s)

/-- A handler that was run. -/
abbrev HandlerRun (C : Type) :=
  Executed EventHandler (fun _ ↦ Unit) (Sys C) SysAnswer (Healthd C)

/-- One iteration of the main loop. -/
structure Round (C : Type) where
  /-- The process at the top, where the array is created. -/
  before : Healthd C
  /-- What the loop's own call of `periodic_chores` did, if there was one, with its mark. -/
  chores : Option (List (SysEvent C))
  /-- The process at the wait. -/
  waiting : Healthd C
  result : EpollResult
  handlers : List (HandlerRun C)
  after : Healthd C

/-- The wait of a round. -/
def Round.wait (r : Round C) : SysEvent C :=
  ⟨.epollWait r.before.eventct r.waiting.eventct
    (waitTimeout r.before.awakePollInterval healthdModeServicePreparetowait), r.result⟩

/-- What a round called. -/
def Round.trace (r : Round C) : List (SysEvent C) :=
  r.chores.getD [] ++ [⟨.modeOp .heartbeat, ()⟩, ⟨.modeOp .preparetowait, ()⟩, r.wait] ++
    r.handlers.flatMap Executed.trace

/-- **A round of the loop**: periodic work when it is due and not otherwise, then a wait, then the
handler of each event returned, once and in order. -/
structure Round.IsRun (due : Prop) (r : Round C) : Prop where
  chores : (due ∧ ∃ t, r.chores = some t ∧ Runs (periodicChores config r.before) t r.waiting) ∨
    (¬due ∧ r.chores = none ∧ r.waiting = r.before)
  dispatched : Execution (handleSection config board) r.waiting r.handlers r.after
  once : r.handlers.map (·.event.call) = r.result.handlers

/-- **At most `n` rounds of the loop**: it is left after a wait that failed, and the next round
does periodic work when the wait timed out. -/
inductive LoopRun : ℕ → Prop → Healthd C → List (Round C) → Prop
  | stop {due : Prop} {s : Healthd C} : LoopRun 0 due s []
  | last {n : ℕ} {due : Prop} {r : Round C} (hr : r.IsRun config board due)
      (hresult : r.result = .failed) : LoopRun (n + 1) due r.before [r]
  | next {n : ℕ} {due : Prop} {r : Round C} {rounds : List (Round C)}
      (hr : r.IsRun config board due) (hresult : r.result ≠ .failed)
      (h : LoopRun n (r.result = .ready []) r.after rounds) :
      LoopRun (n + 1) due r.before (r :: rounds)

variable {config board} {s s' : Healthd C} {t u : List (SysEvent C)}

omit [Interfaces C] in
theorem callModeOp_spec {op : ModeOp} {x : Unit} (h : Runs (callModeOp s op) t x) :
    t = [⟨.modeOp op, ()⟩] := by
  rw [callModeOp] at h
  split at h
  · obtain ⟨x, u, rfl, hu⟩ := runs_call_iff.1 h
    obtain ⟨rfl, -⟩ := runs_ret_iff.1 hu
    rfl
  · obtain ⟨x, -⟩ := runs_call_iff.1 h
    exact x.elim

/-- **Dispatching** runs the handler of each event, once and in order. -/
theorem dispatch_spec {events : List (Option EventHandler)}
    (h : Runs (dispatch config board s events) t s') :
    ∃ l, Execution (handleSection config board) s l s' ∧
      l.map (·.event.call) = events.filterMap id ∧ t = l.flatMap Executed.trace := by
  induction events generalizing s t with
  | nil =>
    obtain ⟨rfl, rfl⟩ := runs_ret_iff.1 h
    exact ⟨[], .nil, rfl, rfl⟩
  | cons event events ih =>
    cases event with
    | none => exact ih h
    | some handler =>
      obtain ⟨v, w, s₁, rfl, hv, hw⟩ := runs_bind_iff.1 h
      obtain ⟨l, hl, hcalls, rfl⟩ := ih hw
      have hfirst : Executed.IsRun (handleSection config board) ⟨s, ⟨handler, ()⟩, v⟩ s₁ :=
        runs_bind_ret_iff.2 ⟨s₁, hv, rfl⟩
      exact ⟨⟨s, ⟨handler, ()⟩, v⟩ :: l, (Execution.single hfirst).trans hl, by simp [hcalls], rfl⟩

/-- **The second half of an iteration.** -/
theorem mainloopWait_spec {room : ℕ} {timeout : Int} {nevents : Option Int}
    (h : Runs (mainloopWait config board s room timeout) t (nevents, s')) :
    ∃ result l, nevents = EpollResult.nevents result ∧
      Execution (handleSection config board) s l s' ∧
      l.map (·.event.call) = result.handlers ∧
      t = [⟨.modeOp .heartbeat, ()⟩, ⟨.modeOp .preparetowait, ()⟩,
        ⟨.epollWait room s.eventct (waitTimeout timeout healthdModeServicePreparetowait),
          result⟩] ++ l.flatMap Executed.trace := by
  obtain ⟨t₁, v₁, _, rfl, h₁, hv₁⟩ := runs_bind_iff.1 h
  obtain ⟨t₂, v₂, _, rfl, h₂, hv₂⟩ := runs_bind_iff.1 hv₁
  obtain rfl := callModeOp_spec h₁
  obtain rfl := callModeOp_spec h₂
  obtain ⟨result, v, rfl, hv⟩ := runs_call_iff.1 hv₂
  cases result with
  | interrupted | failed =>
    obtain ⟨rfl, hr⟩ := runs_ret_iff.1 hv
    obtain ⟨rfl, rfl⟩ := Prod.mk.inj hr
    exact ⟨_, [], rfl, .nil, rfl, rfl⟩
  | ready events =>
    have hdispatch : Runs (dispatch config board s events >>= fun s ↦
        ret (some (events.length : Int), s)) v (nevents, s') := hv
    obtain ⟨s₁, hw, hr⟩ := runs_bind_ret_iff.1 hdispatch
    obtain ⟨rfl, rfl⟩ := Prod.mk.inj hr
    obtain ⟨l, hl, hcalls, rfl⟩ := dispatch_spec hw
    exact ⟨.ready events, l, rfl, hl, hcalls, by simp⟩

/-- **An iteration is a round.** -/
theorem mainloopIteration_spec {nevents : Int} {nevents' : Option Int}
    (h : Runs (mainloopIteration config board s nevents) t (nevents', s')) :
    ∃ r : Round C, r.IsRun config board (nevents = 0) ∧ r.before = s ∧ r.after = s' ∧
      r.result.nevents = nevents' ∧ t = r.trace := by
  simp only [mainloopIteration] at h
  split at h
  case isTrue hdue =>
    obtain ⟨v, w, s₁, rfl, hv, hw⟩ := runs_bind_iff.1 h
    obtain ⟨result, l, rfl, hl, honce, rfl⟩ := mainloopWait_spec hw
    exact ⟨⟨s, some v, s₁, result, l, s'⟩, ⟨.inl ⟨hdue, v, rfl, hv⟩, hl, honce⟩, rfl, rfl, rfl,
      by simp [Round.trace, Round.wait]⟩
  case isFalse hdue =>
    obtain ⟨result, l, rfl, hl, honce, rfl⟩ := mainloopWait_spec h
    exact ⟨⟨s, none, s, result, l, s'⟩, ⟨.inr ⟨hdue, rfl, rfl⟩, hl, honce⟩, rfl, rfl, rfl, rfl⟩

/-- **The main loop is its rounds**, and ends where the last of them does. -/
theorem healthdMainloop_spec {n : ℕ} {nevents : Int}
    (h : Runs (healthdMainloop config board n s nevents) t s') :
    ∃ rounds, LoopRun config board n (nevents = 0) s rounds ∧ t = rounds.flatMap Round.trace ∧
      s' = rounds.foldl (fun _ r ↦ r.after) s := by
  induction n generalizing s nevents t with
  | zero =>
    obtain ⟨rfl, rfl⟩ := runs_ret_iff.1 h
    exact ⟨[], .stop, rfl, rfl⟩
  | succ n ih =>
    obtain ⟨v, w, ⟨nevents', s₁⟩, rfl, hv, hw⟩ := runs_bind_iff.1 h
    obtain ⟨r, hr, rfl, rfl, hnevents, rfl⟩ := mainloopIteration_spec hv
    cases nevents' with
    | none =>
      obtain ⟨rfl, rfl⟩ := runs_ret_iff.1 hw
      have hfailed : r.result = .failed := by
        cases hresult : r.result <;> simp_all [EpollResult.nevents]
      exact ⟨[r], .last hr hfailed, by simp, rfl⟩
    | some nevents' =>
      obtain ⟨rounds, hrounds, rfl, rfl⟩ := ih hw
      have hresult : r.result ≠ .failed := by
        intro hfailed
        rw [hfailed] at hnevents
        cases hnevents
      rw [EpollResult.eq_zero_iff hnevents] at hrounds
      exact ⟨r :: rounds, .next hr hresult hrounds, by simp, rfl⟩

/-! ### Rounds in order -/

/-- **A round in order**, over the registrations `regs`. -/
structure Round.InOrder (regs : List (Int × EventHandler)) (r : Round C) : Prop where
  /-- The round starts with a call of `periodic_chores` when the loop's own is in it, and only
  then. -/
  called : (∃ v, r.trace = ⟨.periodicChores, ()⟩ :: v) ↔ r.chores.isSome
  /-- `eventct` is the number of registrations all along. -/
  counted : r.before.eventct = regs.length ∧ r.waiting.eventct = regs.length ∧
    (∀ d ∈ r.handlers, d.before.eventct = regs.length) ∧ r.after.eventct = regs.length
  /-- The array has room for the events returned. -/
  inBounds : ∀ events, r.result = .ready events → events.length ≤ r.before.eventct
  /-- Each event returned has its handler run once. -/
  once : ∀ events, r.result = .ready events →
    r.handlers.map (fun d ↦ some d.event.call) = events
  /-- A handler that is run is registered, and fetches from the file descriptor it is
  registered for. -/
  fetches : ∀ d ∈ r.handlers, (∃ fd, (fd, d.event.call) ∈ regs) ∧
    ∀ fd, (fd, d.event.call) ∈ regs → ∃ x v, d.trace = ⟨handlerCall fd d.event.call, x⟩ :: v

theorem map_some_filterMap {α : Type} {l : List (Option α)} (h : ∀ a ∈ l, a ≠ none) :
    (l.filterMap id).map some = l := by
  induction l with
  | nil => rfl
  | cons a l ih =>
    obtain ⟨ha, hl⟩ := List.forall_mem_cons.1 h
    obtain ⟨a, rfl⟩ := Option.ne_none_iff_exists'.1 ha
    exact congrArg (some a :: ·) (ih hl)

/-- A handler first fetches what it serves, the binder handler only from a file descriptor. -/
theorem handle_calls {handler : EventHandler} (hbinder : handler = .binderEvent → 0 ≤ s.gBinderFd)
    (h : Runs (handle config board s handler) t s') :
    ∃ x v, t = ⟨handlerCall (s.fdOf handler) handler, x⟩ :: v := by
  cases handler with
  | binderEvent =>
    rw [handle, binderEvent, if_pos (hbinder rfl)] at h
    obtain ⟨x, v, rfl, -⟩ := runs_call_iff.1 h
    exact ⟨x, v, rfl⟩
  | wakealarmEvent =>
    obtain ⟨x, v, rfl, -⟩ := runs_call_iff.1 h
    exact ⟨x, v, rfl⟩
  | ueventEvent =>
    obtain ⟨x, v, rfl, -⟩ := runs_call_iff.1 h
    exact ⟨x, v, rfl⟩

/-- **A handler that was run** leaves the fixed part and the registrations alone. -/
theorem Ready.handler_isRun (h : Ready s u) {d : HandlerRun C}
    (hd : d.IsRun (handleSection config board) s') (hbefore : d.before.fixed = s.fixed)
    (hregistered : ∃ fd, (fd, d.event.call) ∈ registered u) {v : List (SysEvent C)}
    (hv : registered v = registered u) :
    s'.fixed = s.fixed ∧ registered (v ++ d.trace) = registered u ∧
      ∀ fd, (fd, d.event.call) ∈ registered u →
        ∃ x w, d.trace = ⟨handlerCall fd d.event.call, x⟩ :: w := by
  obtain ⟨before, ⟨handler, ⟨⟩⟩, trace⟩ := d
  obtain ⟨s₁, hrun, hs₁⟩ := runs_bind_ret_iff.1 hd
  obtain rfl := (Prod.mk.inj hs₁).2
  have hkeeps : Keeps (orderMonitor C) (Watching (registered u) True)
      (fun s' ↦ s'.fixed = s.fixed) id (handle config board before handler) := by
    refine (h.kept config True).handle board hbefore handler (fun v hv ↦ ?_) fun v x hv ↦ ?_
    · exact h.fetches (fun _ ↦ hregistered) hbefore hv
    · exact hv.snoc (added_handlerCall _ handler x)
  have hafter := ((hkeeps v ⟨hv, fun _ ↦ trivial⟩).runs hrun
    (Monitor.assumes_of_forall _ fun _ _ _ ↦ trivial)).2
  rw [Monitor.history_after] at hafter
  refine ⟨hafter.1, hafter.2.1, fun fd hfd ↦ ?_⟩
  have hready := h.of_fixed hbefore rfl
  obtain ⟨heq, hbinder⟩ := hready.watched _ hfd
  obtain rfl : fd = before.fdOf handler := heq
  refine handle_calls (fun hhandler ↦ ?_) hrun
  subst hhandler
  exact hbinder rfl

/-- **The handlers of a wait**, each registered. -/
theorem Ready.handlers_execution (h : Ready s u) {l : List (HandlerRun C)}
    (hl : Execution (handleSection config board) s l s')
    (hregistered : ∀ d ∈ l, ∃ fd, (fd, d.event.call) ∈ registered u) :
    (s'.fixed = s.fixed ∧ registered (u ++ l.flatMap Executed.trace) = registered u) ∧
      ∀ d ∈ l, d.before.fixed = s.fixed ∧ ∀ fd, (fd, d.event.call) ∈ registered u →
        ∃ x w, d.trace = ⟨handlerCall fd d.event.call, x⟩ :: w := by
  induction hl with
  | nil => exact ⟨⟨rfl, by simp⟩, List.forall_mem_nil _⟩
  | snoc _ hd ih =>
    rw [List.forall_mem_append, List.forall_mem_singleton] at hregistered
    obtain ⟨⟨hbefore, hv⟩, hfetches⟩ := ih hregistered.1
    obtain ⟨hs', hv', hfirst⟩ := h.handler_isRun hd hbefore hregistered.2 hv
    rw [List.forall_mem_append, List.forall_mem_singleton]
    refine ⟨⟨hs', ?_⟩, hfetches, hbefore, hfirst⟩
    rw [List.flatMap_append, List.flatMap_singleton, ← List.append_assoc]
    exact hv'

/-- Periodic work, where there was any, leaves the fixed part and the registrations alone. -/
theorem Round.IsRun.chores_kept {due : Prop} {r : Round C} (hr : r.IsRun config board due)
    (hs : Ready r.before u) :
    r.waiting.fixed = r.before.fixed ∧ registered (u ++ r.chores.getD []) = registered u := by
  rcases hr.chores with ⟨-, t, ht, hrun⟩ | ⟨-, hnone, hwaiting⟩
  · have hafter := (((hs.kept config True).periodicChores rfl u ⟨rfl, fun _ ↦ trivial⟩).runs hrun
      (Monitor.assumes_of_forall _ fun _ _ _ ↦ trivial)).2
    rw [Monitor.history_after] at hafter
    rw [ht]
    exact ⟨hafter.1, hafter.2.1⟩
  · rw [hnone, hwaiting]
    exact ⟨rfl, congrArg registered (List.append_nil u)⟩

/-- **The loop's own call of `periodic_chores`** is the first event of its round. -/
theorem Round.IsRun.called_iff {due : Prop} {r : Round C} (hr : r.IsRun config board due) :
    (∃ v, r.trace = ⟨.periodicChores, ()⟩ :: v) ↔ r.chores.isSome := by
  rcases hr.chores with ⟨-, t, ht, hrun⟩ | ⟨-, hnone, -⟩
  · obtain ⟨_, v, rfl, -⟩ := runs_call_iff.1 hrun
    rw [Round.trace, ht]
    exact iff_of_true ⟨_, rfl⟩ rfl
  · rw [Round.trace, hnone]
    refine iff_of_false ?_ Bool.false_ne_true
    rintro ⟨v, hv⟩
    cases (List.cons.inj hv).1

/-- **The wait of a round** returns events of registrations, for which the array has room. -/
theorem Round.IsRun.wait_answer {due : Prop} {r : Round C} (hr : r.IsRun config board due)
    (hs : Ready r.before u) (hanswers : Throughout EpollAnswers (u ++ r.trace))
    {events : List (Option EventHandler)} (hresult : r.result = .ready events) :
    events.length ≤ r.before.eventct ∧ ∀ event ∈ events, ∃ p ∈ registered u, event = some p.2 := by
  obtain ⟨hwaiting, hchores⟩ := hr.chores_kept hs
  have hbefore : registered (u ++ r.chores.getD [] ++
      [⟨.modeOp .heartbeat, ()⟩, ⟨.modeOp .preparetowait, ()⟩]) = registered u := by
    rw [← hchores]
    simp [registered, added]
  have hanswer := hanswers _ r.wait (r.handlers.flatMap Executed.trace)
    (show _ = u ++ r.chores.getD [] ++ [⟨.modeOp .heartbeat, ()⟩, ⟨.modeOp .preparetowait, ()⟩] ++ _
      by simp [Round.trace])
  have hreturned : returned r.wait = some (r.waiting.eventct, events) := by
    rw [Round.wait, hresult]
    rfl
  have hevents := hanswer _ hreturned
  rw [hbefore] at hevents
  exact ⟨le_of_le_of_eq hevents.1 (congrArg Fixed.eventct hwaiting), hevents.2⟩

/-- Every handler of a round is registered. -/
theorem Round.IsRun.handlers_registered {due : Prop} {r : Round C}
    (hr : r.IsRun config board due) (hs : Ready r.before u)
    (hanswers : Throughout EpollAnswers (u ++ r.trace)) :
    ∀ d ∈ r.handlers, ∃ fd, (fd, d.event.call) ∈ registered u := by
  intro d hd
  have hmem : d.event.call ∈ r.result.handlers := hr.once ▸ List.mem_map_of_mem hd
  cases hresult : r.result with
  | interrupted | failed =>
    rw [hresult] at hmem
    cases hmem
  | ready events =>
    rw [hresult] at hmem
    obtain ⟨event, hevent, hsome⟩ := List.mem_filterMap.1 hmem
    obtain ⟨⟨fd, handler⟩, hp, rfl⟩ := (hr.wait_answer hs hanswers hresult).2 event hevent
    obtain rfl : handler = d.event.call := Option.some.inj hsome
    exact ⟨fd, hp⟩

/-- **A round is in order**, and leaves the process ready for the next one. -/
theorem Round.IsRun.inOrder {due : Prop} {r : Round C} (hr : r.IsRun config board due)
    (hs : Ready r.before u) (hanswers : Throughout EpollAnswers (u ++ r.trace)) :
    r.InOrder (registered u) ∧ Ready r.after (u ++ r.trace) ∧
      registered (u ++ r.trace) = registered u := by
  obtain ⟨hwaiting, hchores⟩ := hr.chores_kept hs
  have hwaited : registered (u ++ r.chores.getD [] ++
      [⟨.modeOp .heartbeat, ()⟩, ⟨.modeOp .preparetowait, ()⟩, r.wait]) = registered u := by
    rw [← hchores]
    simp [registered, added, Round.wait]
  have hregistered := hr.handlers_registered hs hanswers
  obtain ⟨⟨hkept, htrace⟩, hhandlers⟩ := (hs.of_fixed hwaiting hwaited).handlers_execution
    hr.dispatched fun d hd ↦ hwaited.symm ▸ hregistered d hd
  rw [hwaited] at htrace hhandlers
  have hregs : registered (u ++ r.trace) = registered u := by
    rw [← htrace]
    simp only [Round.trace, List.append_assoc]
  have hcounted : ∀ s' : Healthd C, s'.fixed = r.before.fixed →
      s'.eventct = (registered u).length :=
    fun s' hs' ↦ (congrArg Fixed.eventct hs').trans hs.counted
  have horder : r.InOrder (registered u) := by
    refine ⟨hr.called_iff,
      ⟨hs.counted, hcounted _ hwaiting, fun d hd ↦ ?_, hcounted _ (hkept.trans hwaiting)⟩,
      fun events hresult ↦ (hr.wait_answer hs hanswers hresult).1, fun events hresult ↦ ?_,
      fun d hd ↦ ⟨hregistered d hd, (hhandlers d hd).2⟩⟩
    · exact hcounted _ ((hhandlers d hd).1.trans hwaiting)
    · have honce : r.handlers.map (·.event.call) = events.filterMap id := by
        rw [hr.once, hresult]
        rfl
      calc r.handlers.map (fun d ↦ some d.event.call)
          = (r.handlers.map (·.event.call)).map some := by rw [List.map_map]; rfl
        _ = events := by
            rw [honce]
            refine map_some_filterMap fun event hevent ↦ ?_
            obtain ⟨p, -, rfl⟩ := (hr.wait_answer hs hanswers hresult).2 event hevent
            exact Option.some_ne_none p.2
  exact ⟨horder, hs.of_fixed (hkept.trans hwaiting) hregs, hregs⟩

/-- **All rounds are in order.** -/
theorem LoopRun.inOrder {n : ℕ} {due : Prop} {rounds : List (Round C)}
    (h : LoopRun config board n due s rounds) (hs : Ready s u)
    (hanswers : Throughout EpollAnswers (u ++ rounds.flatMap Round.trace)) :
    registered (u ++ rounds.flatMap Round.trace) = registered u ∧
      ∀ r ∈ rounds, r.InOrder (registered u) := by
  induction h generalizing u with
  | stop => exact ⟨by simp, List.forall_mem_nil _⟩
  | @last n due r hr hresult =>
    rw [List.flatMap_singleton] at hanswers ⊢
    obtain ⟨hround, -, hregs⟩ := hr.inOrder hs hanswers
    exact ⟨hregs, List.forall_mem_singleton.2 hround⟩
  | @next n due r rounds hr hresult h ih =>
    rw [List.flatMap_cons, ← List.append_assoc] at hanswers ⊢
    obtain ⟨hround, hready, hregs⟩ := hr.inOrder hs (throughout_append_iff.1 hanswers).1
    obtain ⟨hrest, hrounds⟩ := ih hready hanswers
    rw [hregs] at hrest hrounds
    exact ⟨hrest, List.forall_mem_cons.2 ⟨hround, hrounds⟩⟩

/-- **A run of the daemon that ends** is set-up, which succeeds, and at most `n` rounds. The process
is then as the last of them has left it. -/
theorem healthdMain_rounds {n : ℕ} {ret : Int}
    (h : Runs (healthdMain config board n (Healthd.installed C)) t (ret, s')) :
    ∃ (t₀ : List (SysEvent C)) (s₀ : Healthd C) (rounds : List (Round C)),
      t = t₀ ++ rounds.flatMap Round.trace ∧
        Runs (healthdInit config (Healthd.installed C)) t₀ (0, s₀) ∧
        LoopRun config board n True s₀ rounds ∧ ret = 3 ∧
        s' = rounds.foldl (fun _ r ↦ r.after) s₀ := by
  obtain ⟨t₀, v, ⟨result, s₀⟩, rfl, hinit, hv⟩ := runs_bind_iff.1 h
  dsimp only at hv
  split at hv
  case isTrue =>
    obtain ⟨x, -⟩ := runs_call_iff.1 hv
    exact x.elim
  case isFalse hresult =>
    obtain rfl := not_not.1 hresult
    obtain ⟨_, hloop, hr⟩ := runs_bind_ret_iff.1 hv
    obtain ⟨rfl, rfl⟩ := Prod.mk.inj hr
    obtain ⟨rounds, hrounds, rfl, hs'⟩ := healthdMainloop_spec hloop
    rw [eq_self_iff_true] at hrounds
    exact ⟨t₀, s₀, rounds, rfl, hinit, hrounds, rfl, hs'⟩

/-- `main` is the daemon without the process. -/
theorem healthdMain_of_main {n : ℕ} {ret : Int} (h : Runs (main config board C n) t ret) :
    ∃ s', Runs (healthdMain config board n (Healthd.installed C)) t (ret, s') := by
  obtain ⟨⟨ret, s'⟩, hmain, rfl⟩ := runs_bind_ret_iff.1 h
  exact ⟨s', hmain⟩

variable (config board)

/-- **The state of the main loop**, in every run of the daemon, whichever steps of its set-up fail.
Every call is in order when it is made. As long as epoll answers as it may, `eventct` counts the
registrations, the rounds after set-up are in order, and the loop calls `periodic_chores` in the
first round and after a timeout, and in no other: the mark of that call starts those rounds. -/
theorem main_loopState (n : ℕ) :
    (∀ (u : List (SysEvent C)) (c : Sys C) (k : SysAnswer c → Proc C Int),
      Steps (main config board C n) u (Program.call c k) → InOrder u c) ∧
    ∀ (t : List (SysEvent C)) (ret : Int), Runs (main config board C n) t ret →
      Throughout EpollAnswers t →
        ∃ (t₀ : List (SysEvent C)) (s₀ : Healthd C) (rounds : List (Round C)),
          t = t₀ ++ rounds.flatMap Round.trace ∧
            Runs (healthdInit config (Healthd.installed C)) t₀ (0, s₀) ∧
            s₀.eventct = (registered t₀).length ∧
            LoopRun config board n True s₀ rounds ∧
            registered t = registered t₀ ∧ ∀ r ∈ rounds, r.InOrder (registered t) := by
  constructor
  · intro u c k h
    have hsafe := ((main_inOrder board n).steps h
      (Monitor.assumes_of_forall _ fun _ _ _ ↦ trivial)).2
    rw [Monitor.history_after] at hsafe
    exact hsafe.1
  · intro t ret h hanswers
    obtain ⟨s, h⟩ := healthdMain_of_main h
    obtain ⟨t₀, s₀, rounds, rfl, hinit, hrounds, -⟩ := healthdMain_rounds h
    have hready : Ready s₀ t₀ := by
      have hruns := ((healthdInit_ready rfl (Option.some_ne_none _)).runs hinit
        (Monitor.assumes_of_forall _ fun _ _ _ ↦ trivial)).2 rfl
      rwa [Monitor.history_after] at hruns
    obtain ⟨hregs, horder⟩ := hrounds.inOrder hready hanswers
    refine ⟨t₀, s₀, rounds, rfl, hinit, hready.counted, hrounds, hregs, ?_⟩
    rw [hregs]
    exact horder

/-- A run with a timeout, an interruption, the wake alarm and a wait that fails, on a board whose
socket for uevents cannot be watched. -/
def fourRounds : List (SysEvent ℕ) :=
  [⟨.epollCreate, (3 : Int)⟩, ⟨.modeOp .init, ()⟩, ⟨.setupTransportPolling, (4 : Int)⟩,
    ⟨.epollCtlAdd 4 .binderEvent .noWakeupFd, (0 : Int)⟩, ⟨.registerAsService, true⟩,
    ⟨.timerfdCreate, (5 : Int)⟩, ⟨.epollCtlAdd 5 .wakealarmEvent .wakeupFd, (0 : Int)⟩,
    ⟨.timerfdSettime 5 60, (0 : Int)⟩, ⟨.ueventOpenSocket, (6 : Int)⟩,
    ⟨.epollCtlAdd 6 .ueventEvent .wakeupFd, (-1 : Int)⟩,
    ⟨.periodicChores, ()⟩, ⟨.modeOp .heartbeat, ()⟩, ⟨.modeOp .preparetowait, ()⟩,
    ⟨.epollWait 2 2 (-1), .ready []⟩,
    ⟨.periodicChores, ()⟩, ⟨.modeOp .heartbeat, ()⟩, ⟨.modeOp .preparetowait, ()⟩,
    ⟨.epollWait 2 2 (-1), .interrupted⟩,
    ⟨.modeOp .heartbeat, ()⟩, ⟨.modeOp .preparetowait, ()⟩,
    ⟨.epollWait 2 2 (-1), .ready [some .wakealarmEvent]⟩, ⟨.readWakealarm 5, (8 : Int)⟩,
    ⟨.periodicChores, ()⟩,
    ⟨.modeOp .heartbeat, ()⟩, ⟨.modeOp .preparetowait, ()⟩, ⟨.epollWait 2 2 (-1), .failed⟩]

theorem runs_fourRounds : Runs (main .default .service ℕ 4) fourRounds 3 := by
  repeat first | exact Steps.refl _ | apply Steps.call

theorem main_loopState_fourRounds :
    ∃ (t₀ : List (SysEvent ℕ)) (rounds : List (Round ℕ)),
      fourRounds = t₀ ++ rounds.flatMap Round.trace ∧ rounds ≠ [] ∧
        ∀ r ∈ rounds, r.InOrder [(4, .binderEvent), (5, .wakealarmEvent)] := by
  have hanswers : Throughout EpollAnswers fourRounds := by decide
  obtain ⟨t₀, s₀, rounds, hsplit, -, -, hrounds, -, horder⟩ :=
    (main_loopState .default .service 4).2 fourRounds 3 runs_fourRounds hanswers
  refine ⟨t₀, rounds, hsplit, ?_, horder⟩
  cases hrounds with
  | last | next => exact List.cons_ne_nil _ _

end Rounds

end Health

end XenvmHal
