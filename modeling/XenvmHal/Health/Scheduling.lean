import XenvmHal.Health.Handlers

/-!
# Who wakes the daemon up

Periodic work is triggered by the wake alarm or by the timeout of `epoll_wait`. `alarm` is what a
trace says about the alarm: which timerfd is open, whether epoll watches it and with which period
it runs. `Scheduled` asks of every wait that one of the two triggers is there.

The code relies on the alarm alone. The charger is always reported online, so the selected
interval is the fast one and awake polling stays off whether or not the alarm was set up
(`healthdBatteryUpdateInternal_of_quiet`): once set-up is over no call ever touches the alarm
again, and every wait is without a timeout. Hence periodic work is scheduled in exactly the runs
in which the three calls that set the alarm up succeed, and in those that never wait
(`main_scheduled_iff`).
-/

namespace XenvmHal

open Interaction Program

namespace Health

variable {C : Type}

/-! ### The alarm -/

/-- What a trace says about the wake alarm. -/
structure Alarm where
  /-- The open timerfd. -/
  fd : Option Int
  /-- Whether epoll watches it for `wakealarm_event`. -/
  registered : Bool
  /-- The period it is programmed with, 0 when disarmed. -/
  period : Int
  /-- Whether every call so far that sets the alarm up has succeeded. -/
  sound : Bool
  /-- Whether the daemon has waited. -/
  waited : Bool
  deriving DecidableEq

namespace Alarm

/-- No alarm. -/
def init : Alarm := ⟨none, false, 0, true, false⟩

/-- Enter one event. -/
def record (s : Alarm) : SysEvent C → Alarm
  | ⟨.timerfdCreate, fd⟩ =>
    if fd = -1 then { s with sound := false } else { s with fd := some fd }
  | ⟨.epollCtlAdd fd .wakealarmEvent _, result⟩ =>
    if result = -1 then { s with sound := false }
    else { s with registered := s.registered || decide (s.fd = some fd) }
  | ⟨.timerfdSettime fd interval, result⟩ =>
    if result = -1 then { s with sound := false }
    else if s.fd = some fd then { s with period := interval } else s
  | ⟨.epollWait _ _ _, _⟩ => { s with waited := true }
  | _ => s

/-- The alarm is open, watched, and runs with the period `interval`. -/
structure Armed (s : Alarm) (interval : Int) : Prop where
  is_open : s.fd ≠ none
  registered : s.registered = true
  period_eq : s.period = interval
  period_ne_zero : s.period ≠ 0

end Alarm

/-- What a trace says about the wake alarm. -/
def alarm (t : List (SysEvent C)) : Alarm :=
  t.foldl Alarm.record Alarm.init

/-- The calls that set the alarm up. -/
def IsAlarmCall : Sys C → Prop
  | .timerfdCreate | .epollCtlAdd _ .wakealarmEvent _ | .timerfdSettime _ _ => True
  | _ => False

/-- A call that sets the alarm up succeeded. -/
def AlarmCallSucceeds : SysEvent C → Prop
  | ⟨.timerfdCreate, fd⟩ => fd ≠ -1
  | ⟨.epollCtlAdd _ .wakealarmEvent _, result⟩ => result ≠ -1
  | ⟨.timerfdSettime _ _, result⟩ => result ≠ -1
  | _ => True

/-- **Periodic work is scheduled**: at every wait the alarm runs with the fast interval, or the
wait has a timeout of at most that interval. -/
def Scheduled (config : HealthdConfig) (t : List (SysEvent C)) : Prop :=
  Throughout
    (fun u e ↦ ∀ room maxevents timeout, e.call = .epollWait room maxevents timeout →
      (alarm u).Armed config.periodicChoresIntervalFast ∨
        (0 ≤ timeout ∧ timeout ≤ config.periodicChoresIntervalFast * 1000)) t

/-- The run gets as far as a wait. -/
def Waits (t : List (SysEvent C)) : Prop :=
  ∃ e ∈ t, ∃ room maxevents timeout, e.call = .epollWait room maxevents timeout

/-! ### What the alarm remembers -/

/-- The calls that have nothing to do with the alarm and do not wait. -/
def IsQuiet : Sys C → Prop
  | .timerfdCreate | .epollCtlAdd _ .wakealarmEvent _ | .timerfdSettime _ _ | .epollWait _ _ _ =>
    False
  | _ => True

theorem Alarm.record_of_isQuiet {c : Sys C} (h : IsQuiet c) (a : Alarm) (x : SysAnswer c) :
    a.record ⟨c, x⟩ = a := by
  cases c
  case epollCtlAdd fd handler wakeup => cases handler <;> first | rfl | exact h.elim
  all_goals first | rfl | exact h.elim

/-- Once the daemon has waited, it has waited. -/
theorem Alarm.waited_record {a : Alarm} (h : a.waited = true) (e : SysEvent C) :
    (a.record e).waited = true := by
  obtain ⟨c, x⟩ := e
  cases c
  case epollCtlAdd fd handler wakeup =>
    cases handler
    case wakealarmEvent => simp only [record]; split_ifs <;> exact h
    all_goals exact h
  case timerfdCreate | timerfdSettime => simp only [record]; split_ifs <;> exact h
  case epollWait => rfl
  all_goals exact h

theorem alarm_snoc (t : List (SysEvent C)) (e : SysEvent C) :
    alarm (t ++ [e]) = (alarm t).record e := by
  simp [alarm]

theorem alarm_waited {t : List (SysEvent C)} (h : Waits t) : (alarm t).waited = true := by
  induction t using List.reverseRecOn with
  | nil =>
    obtain ⟨e, he, -⟩ := h
    cases he
  | append_singleton t e ih =>
    rw [alarm_snoc]
    obtain ⟨d, hd, hwait⟩ := h
    rcases List.mem_append.1 hd with hd | hd
    · exact Alarm.waited_record (ih ⟨d, hd, hwait⟩) e
    · obtain rfl := List.mem_singleton.1 hd
      obtain ⟨room, maxevents, timeout, hcall⟩ := hwait
      obtain ⟨c, x⟩ := d
      subst hcall
      rfl

theorem Alarm.sound_record (a : Alarm) (e : SysEvent C) :
    (a.record e).sound = true ↔ a.sound = true ∧ AlarmCallSucceeds e := by
  obtain ⟨c, x⟩ := e
  cases c
  case epollCtlAdd fd handler wakeup =>
    cases handler
    case wakealarmEvent => simp only [record, AlarmCallSucceeds]; split_ifs <;> simp_all
    all_goals exact (and_iff_left trivial).symm
  case timerfdCreate | timerfdSettime =>
    simp only [record, AlarmCallSucceeds]
    split_ifs <;> simp_all
  all_goals exact (and_iff_left trivial).symm

/-- The alarm is sound as long as every call that sets it up succeeds. -/
theorem alarm_sound_iff {t : List (SysEvent C)} :
    (alarm t).sound = true ↔ ∀ e ∈ t, AlarmCallSucceeds e := by
  induction t using List.reverseRecOn with
  | nil => exact ⟨fun _ e he ↦ absurd he List.not_mem_nil, fun _ ↦ rfl⟩
  | append_singleton t e ih =>
    rw [alarm_snoc, Alarm.sound_record, ih]
    simp [or_imp, forall_and]

theorem AlarmCallSucceeds.of_not_isAlarmCall {e : SysEvent C} (h : ¬IsAlarmCall e.call) :
    AlarmCallSucceeds e := by
  obtain ⟨c, x⟩ := e
  cases c
  case epollCtlAdd fd handler wakeup => cases handler <;> first | trivial | exact absurd trivial h
  all_goals first | trivial | exact absurd trivial h

/-! ### The monitor -/

/-- The wait has no timeout and relies on the alarm, which no call touches afterwards. -/
abbrev scheduleMonitor (C : Type) (config : HealthdConfig) : Monitor (Sys C) SysAnswer Alarm where
  pre a c :=
    (∀ room maxevents timeout, c = .epollWait room maxevents timeout →
      timeout = -1 ∧ (a.Armed config.periodicChoresIntervalFast ↔ a.sound = true)) ∧
    (IsAlarmCall c → a.waited = false)
  assume _ _ := True
  next := Alarm.record

variable {config : HealthdConfig} {a : Alarm}

theorem pre_of_isQuiet {c : Sys C} (h : IsQuiet c) : (scheduleMonitor C config).pre a c := by
  refine ⟨?_, fun hc ↦ ?_⟩
  · rintro room maxevents timeout rfl
    exact h.elim
  · cases c
    case epollCtlAdd fd handler wakeup => cases handler <;> first | exact h.elim | exact hc.elim
    all_goals first | exact h.elim | exact hc.elim

theorem safe_quiet {α : Type} {Q : α → Alarm → Prop} {c : Sys C} {k : SysAnswer c → Proc C α}
    (h : IsQuiet c) (hk : ∀ x, Safe (scheduleMonitor C config) Q a (k x)) :
    Safe (scheduleMonitor C config) Q a (Program.call c k) := by
  refine ⟨pre_of_isQuiet h, fun x _ ↦ ?_⟩
  show Safe _ _ (a.record ⟨c, x⟩) _
  rw [Alarm.record_of_isQuiet h]
  exact hk x

theorem safe_halt {α : Type} {Q : α → Alarm → Prop} {c : Sys C} (h : IsQuiet c)
    (hempty : SysAnswer c = Empty) :
    Safe (scheduleMonitor C config) Q a (halt c hempty : Proc C α) :=
  safe_quiet h fun x ↦ ((hempty ▸ x : Empty)).elim

/-! ### Quiet states -/

/-- **The timing state after set-up**: updates leave the alarm alone and awake polling is off. -/
structure Quiet (config : HealthdConfig) (s : Healthd C) : Prop where
  alarm : s.wakealarmFd = -1 ∨ s.wakealarmWakeInterval = config.periodicChoresIntervalFast
  polling : s.awakePollInterval = -1

/-- **An update in a quiet state changes nothing**, whether or not there is an alarm. -/
theorem healthdBatteryUpdateInternal_of_quiet {s : Healthd C} (h : Quiet config s) :
    healthdBatteryUpdateInternal config s true = ret s := by
  have hsame : { s with awakePollInterval := -1 } = s := by rw [← h.polling]
  simp only [healthdBatteryUpdateInternal, if_true, ite_self]
  split
  case isTrue hne =>
    have hfd : s.wakealarmFd = -1 := h.alarm.resolve_right fun heq ↦ hne heq.symm
    have hset : wakealarmSetInterval s config.periodicChoresIntervalFast = ret s := if_pos hfd
    rw [hset, ret_bind, hsame]
    rfl
  case isFalse => exact congrArg ret hsame

theorem update_of_quiet {s : Healthd C} (h : Quiet config s) :
    update config s = ret (if s.hasBatteryUpdate then .success else .unknown, s) := by
  rw [update]
  cases hops : s.hasBatteryUpdate with
  | false => rfl
  | true =>
    rw [if_neg (by simp), healthdBatteryUpdateInternal_of_quiet h]
    rfl

/-! ### After set-up -/

/-- Every run of `p` from alarm `a` ends in a quiet state and leaves the alarm alone. -/
abbrev StaysQuiet {α : Type} (config : HealthdConfig) (a : Alarm) (state : α → Healthd C)
    (p : Proc C α) : Prop :=
  Safe (scheduleMonitor C config) (fun r a' ↦ Quiet config (state r) ∧ a' = a) a p

section StaysQuiet

variable {s : Healthd C}

/-- A change of the fields that have nothing to do with timing. -/
theorem Quiet.congr {s' : Healthd C} (h : Quiet config s) (hfd : s'.wakealarmFd = s.wakealarmFd)
    (hinterval : s'.wakealarmWakeInterval = s.wakealarmWakeInterval)
    (hpolling : s'.awakePollInterval = s.awakePollInterval) : Quiet config s' where
  alarm := by rw [hfd, hinterval]; exact h.alarm
  polling := hpolling.trans h.polling

theorem IsServingCall.isQuiet {c : Sys C} (h : IsServingCall c) : IsQuiet c := by
  cases c <;> trivial

theorem isQuiet_handlerCall (fd : Int) (handler : EventHandler) :
    IsQuiet (handlerCall fd handler : Sys C) := by
  cases handler <;> trivial

/-- **A quiet state survives** what serving an event does, and so does the alarm. -/
theorem quiet_kept (config : HealthdConfig) (a : Alarm) :
    Kept config (scheduleMonitor C config) (· = a) (Quiet config) where
  pre _ _ _ hc := pre_of_isQuiet hc.isQuiet
  next a' c x ha' hc := (Alarm.record_of_isQuiet hc.isQuiet a' x).trans ha'
  callbacks _ _ hs := hs.congr rfl rfl rfl
  update s hs := by
    rw [update_of_quiet hs]
    exact keeps_ret hs
  checked _ _ _ _ _ := pre_of_isQuiet (c := .abort) trivial
  deref _ _ _ _ _ := pre_of_isQuiet (c := .nullDereference) trivial

theorem callModeOp_staysQuiet (h : Quiet config s) (op : ModeOp) :
    StaysQuiet config a (fun _ ↦ s) (callModeOp s op) :=
  (quiet_kept config a).callModeOp h op a rfl

theorem periodicChores_staysQuiet (h : Quiet config s) :
    StaysQuiet config a id (periodicChores config s) :=
  (quiet_kept config a).periodicChores h a rfl

theorem dispatch_staysQuiet [Interfaces C] (board : Board) (h : Quiet config s)
    (events : List (Option EventHandler)) :
    StaysQuiet config a id (dispatch config board s events) := by
  refine (quiet_kept config a).dispatch board h events (fun s _ handler _ ↦ ⟨?_, ?_⟩) a rfl
  · exact fun _ _ ↦ pre_of_isQuiet (isQuiet_handlerCall _ handler)
  · exact fun a' x ha' ↦ (Alarm.record_of_isQuiet (isQuiet_handlerCall _ handler) a' x).trans ha'

end StaysQuiet

/-! ### Set-up and the main loop -/

/-- What a complete run of `p` from alarm `a` leaves behind for the main loop. -/
abbrev SetsUp {α : Type} (config : HealthdConfig) (a : Alarm) (state : α → Healthd C)
    (p : Proc C α) : Prop :=
  Safe (scheduleMonitor C config)
    (fun r a' ↦ Quiet config (state r) ∧
      (a'.Armed config.periodicChoresIntervalFast ↔ a'.sound = true)) a p

/-- The start of the service does not touch the alarm. -/
theorem healthdModeServiceInit_safe {s : Healthd C} (h : s.awakePollInterval = -1) :
    Safe (scheduleMonitor C config) (fun s' a' ↦ s'.awakePollInterval = -1 ∧ a' = a) a
      (healthdModeServiceInit s) := by
  have hregistered : ∀ s : Healthd C, s.awakePollInterval = -1 →
      Safe (scheduleMonitor C config) (fun s' a' ↦ s'.awakePollInterval = -1 ∧ a' = a) a
        (do let registered ← perform .registerAsService
            if registered then pure (initInstance s) else halt .abort sysAnswer_abort :
          Proc C (Healthd C)) := by
    intro s hs
    refine safe_quiet trivial fun registered ↦ ?_
    show Safe _ _ a (if registered = true then _ else _)
    split
    · refine ⟨?_, rfl⟩
      rw [initInstance]
      split <;> exact hs
    · exact safe_halt (c := .abort) trivial rfl
  refine safe_quiet trivial fun fd ↦ ?_
  show Safe _ _ a (if fd ≥ 0 then _ else _)
  split
  · refine safe_quiet trivial fun result ↦ ?_
    show Safe _ _ a ((if result = -1 then _ else _) >>= _)
    split <;> exact hregistered _ h
  · exact hregistered _ h

/-- A call that sets the alarm up, made before the first wait. -/
theorem safe_alarmCall {α : Type} {Q : α → Alarm → Prop} {c : Sys C} {k : SysAnswer c → Proc C α}
    (hc : IsAlarmCall c) (ha : a.waited = false)
    (hk : ∀ x, Safe (scheduleMonitor C config) Q (a.record ⟨c, x⟩) (k x)) :
    Safe (scheduleMonitor C config) Q a (Program.call c k) := by
  refine ⟨⟨?_, fun _ ↦ ha⟩, fun x _ ↦ hk x⟩
  rintro room maxevents timeout rfl
  exact hc.elim

/-- **Programming the alarm**: the last of the three calls decides. -/
theorem wakealarmSetInterval_setsUp (hfast : 0 < config.periodicChoresIntervalFast)
    {s : Healthd C} (h : s.awakePollInterval = -1) (hfd : s.wakealarmFd ≠ -1) (sound : Bool) :
    SetsUp config ⟨some s.wakealarmFd, sound, 0, sound, false⟩ id
      (wakealarmSetInterval s config.periodicChoresIntervalFast) := by
  have hinterval : (if config.periodicChoresIntervalFast = -1 then 0
      else config.periodicChoresIntervalFast) = config.periodicChoresIntervalFast :=
    if_neg (by omega)
  rw [wakealarmSetInterval, if_neg hfd, hinterval]
  refine safe_alarmCall trivial rfl fun result ↦ ⟨⟨Or.inr rfl, h⟩, ?_⟩
  have hpos : config.periodicChoresIntervalFast ≠ 0 := by omega
  rw [Alarm.record]
  split
  · exact ⟨fun harmed ↦ absurd rfl harmed.period_ne_zero, nofun⟩
  · rw [if_pos rfl]
    exact ⟨fun harmed ↦ harmed.registered, fun hsound ↦ ⟨nofun, hsound, rfl, hpos⟩⟩

/-- **Setting the alarm up**: the alarm runs with the fast interval exactly when no call failed. -/
theorem wakealarmInit_setsUp (hfast : 0 < config.periodicChoresIntervalFast) {s : Healthd C}
    (h : s.awakePollInterval = -1) :
    SetsUp config Alarm.init id (wakealarmInit config s) := by
  refine safe_alarmCall trivial rfl fun fd ↦ ?_
  show SetsUp config _ id (if fd = -1 then _ else _)
  split
  case isTrue hfd =>
    refine ⟨⟨Or.inl hfd, h⟩, ?_⟩
    rw [Alarm.record, if_pos hfd]
    exact ⟨fun harmed ↦ absurd rfl harmed.is_open, nofun⟩
  case isFalse hfd =>
    have hset : ∀ (s' : Healthd C) (sound : Bool), s'.wakealarmFd = fd → s'.awakePollInterval = -1 →
        SetsUp config ⟨some fd, sound, 0, sound, false⟩ id
          (wakealarmSetInterval s' config.periodicChoresIntervalFast) := by
      rintro s' sound rfl hs'
      exact wakealarmSetInterval_setsUp hfast hs' hfd sound
    rw [Alarm.record, if_neg hfd]
    refine safe_alarmCall trivial rfl fun result ↦ ?_
    show SetsUp config _ id ((if result = -1 then _ else _) >>= _)
    rw [Alarm.record]
    split
    · exact hset { s with wakealarmFd := fd } false rfl h
    · have hregistered : (Alarm.init.registered || decide (some fd = some fd)) = true := by simp
      show SetsUp config ⟨some fd, _, 0, true, false⟩ id _
      rw [hregistered]
      exact hset { s with wakealarmFd := fd, eventct := s.eventct + 1 } true rfl h

theorem ueventInit_setsUp {s : Healthd C} (h : Quiet config s)
    (ha : a.Armed config.periodicChoresIntervalFast ↔ a.sound = true) :
    SetsUp config a id (ueventInit s) := by
  refine safe_quiet trivial fun fd ↦ ?_
  have hquiet : Quiet config { s with ueventFd := fd } := h.congr rfl rfl rfl
  show SetsUp config a id (if fd < 0 then _ else _)
  split
  · exact ⟨hquiet, ha⟩
  · refine safe_quiet trivial fun result ↦ ?_
    show SetsUp config a id ((if result = -1 then _ else _) >>= _)
    split
    · exact ⟨hquiet, ha⟩
    · exact ⟨hquiet.congr rfl rfl rfl, ha⟩

theorem healthdInit_setsUp (hfast : 0 < config.periodicChoresIntervalFast) {s : Healthd C}
    (h : s.awakePollInterval = -1) :
    Safe (scheduleMonitor C config)
      (fun r a' ↦ r.1 = 0 → Quiet config r.2 ∧
        (a'.Armed config.periodicChoresIntervalFast ↔ a'.sound = true))
      Alarm.init (healthdInit config s) := by
  refine safe_quiet trivial fun epollfd ↦ ?_
  show Safe _ _ _ (if epollfd = -1 then _ else _)
  split
  · exact nofun
  · have hmode : Safe (scheduleMonitor C config) (fun _ a' ↦ a' = Alarm.init) Alarm.init
        (callModeOp { s with epollfd := epollfd } .init) := by
      rw [callModeOp]
      split
      · exact safe_quiet trivial fun _ ↦ rfl
      · exact safe_halt (c := .nullDereference) trivial rfl
    refine hmode.bind ?_
    rintro _ _ rfl
    refine Safe.bind (healthdModeServiceInit_safe h) ?_
    rintro s _ ⟨hs, rfl⟩
    refine Safe.bind (wakealarmInit_setsUp hfast hs) ?_
    rintro s a ⟨hs, ha⟩
    exact Safe.bind (ueventInit_setsUp hs ha) fun _ _ h _ ↦ h

section Mainloop

variable [Interfaces C] (board : Board)

/-- **The wait** has no timeout; what the handlers then do is quiet. -/
theorem mainloopWait_setsUp {s : Healthd C} (h : Quiet config s)
    (ha : a.Armed config.periodicChoresIntervalFast ↔ a.sound = true) (room : ℕ) :
    SetsUp config a Prod.snd (mainloopWait config board s room (-1)) := by
  have hwaited : Alarm.Armed { a with waited := true } config.periodicChoresIntervalFast ↔
      a.sound = true :=
    ⟨fun harmed ↦ ha.1 ⟨harmed.1, harmed.2, harmed.3, harmed.4⟩,
      fun hsound ↦ ⟨(ha.2 hsound).1, (ha.2 hsound).2, (ha.2 hsound).3, (ha.2 hsound).4⟩⟩
  refine Safe.bind (callModeOp_staysQuiet h _) ?_
  rintro _ a' ⟨-, ha'⟩
  refine Safe.bind (callModeOp_staysQuiet h _) ?_
  rintro _ a'' ⟨-, ha''⟩
  rw [ha'', ha']
  refine ⟨⟨?_, nofun⟩, fun result _ ↦ ?_⟩
  · rintro _ _ _ ⟨⟩
    exact ⟨rfl, ha⟩
  · cases result with
    | interrupted => exact ⟨h, hwaited⟩
    | failed => exact ⟨h, hwaited⟩
    | ready events =>
      show SetsUp config { a with waited := true } Prod.snd (dispatch config board s events >>= _)
      refine Safe.bind (dispatch_staysQuiet board h events) ?_
      rintro s _ ⟨hs, rfl⟩
      exact ⟨hs, hwaited⟩

/-- **One iteration** leaves the alarm as it is. -/
theorem mainloopIteration_setsUp {s : Healthd C} (h : Quiet config s)
    (ha : a.Armed config.periodicChoresIntervalFast ↔ a.sound = true) (nevents : Int) :
    SetsUp config a Prod.snd (mainloopIteration config board s nevents) := by
  have hwait : ∀ s' : Healthd C, Quiet config s' → SetsUp config a Prod.snd
      (mainloopWait config board s' s.eventct s.awakePollInterval) := by
    intro s' hs'
    rw [h.polling]
    exact mainloopWait_setsUp board hs' ha _
  simp only [mainloopIteration]
  split
  · refine Safe.bind (periodicChores_staysQuiet h) ?_
    rintro s' a' ⟨hs', ha'⟩
    rw [ha']
    exact hwait s' hs'
  · exact hwait s h

/-- **The daemon waits without a timeout**, and once it has waited the alarm is as it is. -/
theorem main_safe (hfast : 0 < config.periodicChoresIntervalFast) (n : ℕ) :
    Safe (scheduleMonitor C config) (fun _ _ ↦ True) Alarm.init (main config board C n) := by
  refine main_safe_of_invariant
    (J := fun s a ↦ Quiet config s ∧
      (a.Armed config.periodicChoresIntervalFast ↔ a.sound = true))
    (healthdInit_setsUp hfast rfl) (fun _ ↦ pre_of_isQuiet (c := .exit 2) trivial) ?_ n
  rintro s a nevents ⟨hs, ha⟩
  exact mainloopIteration_setsUp board hs ha nevents

/-- **Periodic work is scheduled in exactly the runs in which every call that sets the alarm up
succeeds**, and in those that never wait. -/
theorem main_scheduled_iff (hfast : 0 < config.periodicChoresIntervalFast) {n : ℕ}
    {t : List (SysEvent C)} {q : Proc C Int} (h : Steps (main config board C n) t q) :
    Scheduled config t ↔ (∀ e ∈ t, AlarmCallSucceeds e) ∨ ¬Waits t := by
  have haccepts : Throughout (fun u e ↦ (scheduleMonitor C config).pre (alarm u) e.call) t := by
    have hsteps := (main_safe board hfast n).steps h
      (Monitor.assumes_of_forall _ fun _ _ _ ↦ trivial)
    exact (Monitor.accepts_iff_throughout _).1 hsteps.1
  constructor
  · intro hscheduled
    by_contra hcontra
    obtain ⟨hfails, hwaits⟩ := not_or.1 hcontra
    apply hfails
    obtain ⟨e, he, room, maxevents, timeout, hcall⟩ := not_not.1 hwaits
    obtain ⟨u, v, rfl⟩ := List.append_of_mem he
    obtain ⟨htimeout, harmed⟩ := (haccepts u e v rfl).1 room maxevents timeout hcall
    have hsound : (alarm u).sound = true := by
      rcases hscheduled u e v rfl room maxevents timeout hcall with h | ⟨h, -⟩
      · exact harmed.1 h
      · omega
    have he : ¬IsAlarmCall e.call := by
      rw [hcall]
      exact not_false
    have hv : ∀ d ∈ v, AlarmCallSucceeds d := by
      intro d hd
      obtain ⟨v₁, v₂, rfl⟩ := List.append_of_mem hd
      refine .of_not_isAlarmCall fun hd ↦ ?_
      have hbefore := (haccepts (u ++ e :: v₁) d v₂ (by simp)).2 hd
      have hwaited : (alarm (u ++ e :: v₁)).waited = true :=
        alarm_waited ⟨e, by simp, room, maxevents, timeout, hcall⟩
      rw [hwaited] at hbefore
      cases hbefore
    simp only [List.mem_append, List.mem_cons]
    rintro d (hd | rfl | hd)
    · exact alarm_sound_iff.1 hsound d hd
    · exact .of_not_isAlarmCall he
    · exact hv d hd
  · intro hcond u e v huv room maxevents timeout hcall
    obtain ⟨-, harmed⟩ := (haccepts u e v huv).1 room maxevents timeout hcall
    have hmem : e ∈ t := by simp [huv]
    have hsucceeds : ∀ d ∈ t, AlarmCallSucceeds d :=
      hcond.resolve_right fun h ↦ h ⟨e, hmem, room, maxevents, timeout, hcall⟩
    have hsound : (alarm u).sound = true :=
      alarm_sound_iff.2 fun d hd ↦ hsucceeds d (by simp [huv, hd])
    exact Or.inl (harmed.2 hsound)

/-- A run in which every call succeeds until the first wait fails. -/
def alarmedRun : List (SysEvent ℕ) :=
  [⟨.epollCreate, (3 : Int)⟩, ⟨.modeOp .init, ()⟩, ⟨.setupTransportPolling, (4 : Int)⟩,
    ⟨.epollCtlAdd 4 .binderEvent .noWakeupFd, (0 : Int)⟩, ⟨.registerAsService, true⟩,
    ⟨.timerfdCreate, (5 : Int)⟩, ⟨.epollCtlAdd 5 .wakealarmEvent .wakeupFd, (0 : Int)⟩,
    ⟨.timerfdSettime 5 60, (0 : Int)⟩, ⟨.ueventOpenSocket, (6 : Int)⟩,
    ⟨.epollCtlAdd 6 .ueventEvent .wakeupFd, (0 : Int)⟩, ⟨.periodicChores, ()⟩,
    ⟨.modeOp .heartbeat, ()⟩, ⟨.modeOp .preparetowait, ()⟩, ⟨.epollWait 3 3 (-1), .failed⟩]

theorem runs_alarmedRun : Runs (main .default .service ℕ 1) alarmedRun 3 := by
  repeat first | exact Steps.refl _ | apply Steps.call

theorem main_scheduled_iff_alarmed :
    Waits alarmedRun ∧
      (Scheduled .default alarmedRun ↔
        (∀ e ∈ alarmedRun, AlarmCallSucceeds e) ∨ ¬Waits alarmedRun) :=
  ⟨⟨⟨.epollWait 3 3 (-1), .failed⟩, by simp [alarmedRun], 3, 3, -1, rfl⟩,
    main_scheduled_iff .service (by decide) runs_alarmedRun⟩

/-- A run in which there is no timerfd until the first wait fails. -/
def alarmlessRun : List (SysEvent ℕ) :=
  [⟨.epollCreate, (3 : Int)⟩, ⟨.modeOp .init, ()⟩, ⟨.setupTransportPolling, (4 : Int)⟩,
    ⟨.epollCtlAdd 4 .binderEvent .noWakeupFd, (0 : Int)⟩, ⟨.registerAsService, true⟩,
    ⟨.timerfdCreate, (-1 : Int)⟩, ⟨.ueventOpenSocket, (6 : Int)⟩,
    ⟨.epollCtlAdd 6 .ueventEvent .wakeupFd, (0 : Int)⟩, ⟨.periodicChores, ()⟩,
    ⟨.modeOp .heartbeat, ()⟩, ⟨.modeOp .preparetowait, ()⟩, ⟨.epollWait 2 2 (-1), .failed⟩]

/-- **Without a timerfd the daemon waits for ever**: no alarm and no timeout. -/
theorem main_not_scheduled :
    0 < HealthdConfig.default.periodicChoresIntervalFast ∧
      Runs (main .default .service ℕ 1) alarmlessRun 3 ∧ ¬Scheduled .default alarmlessRun := by
  refine ⟨by decide, ?_, fun hscheduled ↦ ?_⟩
  · repeat first | exact Steps.refl _ | apply Steps.call
  · have hwait :=
      hscheduled (alarmlessRun.take 11) ⟨.epollWait 2 2 (-1), .failed⟩ [] rfl 2 2 (-1) rfl
    rcases hwait with harmed | ⟨htimeout, -⟩
    · exact harmed.is_open rfl
    · omega

end Mainloop

end Health

end XenvmHal
