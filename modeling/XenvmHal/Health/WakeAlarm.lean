import XenvmHal.Health.Scheduling

/-!
# The wake alarm follows the charger

Three things depend on the charger: the cached `wakealarm_wake_interval`, the period of the
kernel's timer and `awake_poll_interval`. The first two are written by `wakealarm_set_interval`,
which is called only when the selected interval differs from the cached one, and the third one by
every update. `Following` says that the first two agree with a charger state. An update moves it to
the new charger state (`Following.step`), so it is kept by any number of updates
(`batteryUpdates_following`).

Setting the alarm up is the same as an update on the charger as far as `Following` goes. That is
why the state before the first update is the one for `true`.
-/

namespace XenvmHal

open Interaction Program

namespace Health

variable {C : Type} {config : HealthdConfig} {s s' : Healthd C} {chargerOnline : Bool}
  {t u : List (SysEvent C)}

/-! ### What the charger state selects -/

/-- Fast on the charger, slow otherwise. -/
def HealthdConfig.wakeInterval (config : HealthdConfig) (chargerOnline : Bool) : Int :=
  if chargerOnline then config.periodicChoresIntervalFast else config.periodicChoresIntervalSlow

/-- No polling when the alarm is fast enough, or when there is no fast interval. -/
def HealthdConfig.pollInterval (config : HealthdConfig) (chargerOnline : Bool) : Int :=
  if config.periodicChoresIntervalFast = -1 ∨
      config.wakeInterval chargerOnline = config.periodicChoresIntervalFast then -1
  else config.periodicChoresIntervalFast * 1000

/-- The period an interval is programmed as: -1 disarms the timer. -/
def timerPeriod (interval : Int) : Int :=
  if interval = -1 then 0 else interval

/-- The updates for a sequence of charger flags. -/
def batteryUpdates (config : HealthdConfig) (s : Healthd C) : List Bool → Proc C (Healthd C)
  | [] => pure s
  | chargerOnline :: flags => do
    let s ← healthdBatteryUpdateInternal config s chargerOnline
    batteryUpdates config s flags

/-- Opening and programming the timer succeeded. -/
def TimerCallSucceeds : SysEvent C → Prop
  | ⟨.timerfdCreate, fd⟩ => fd ≠ -1
  | ⟨.timerfdSettime _ _, result⟩ => result ≠ -1
  | _ => True

/-! ### One call -/

/-- Programming an open timer. -/
theorem wakealarmSetInterval_eq (hfd : s.wakealarmFd ≠ -1) (interval : Int) :
    wakealarmSetInterval s interval =
      Program.call (.timerfdSettime s.wakealarmFd (timerPeriod interval)) fun _ ↦
        ret { s with wakealarmWakeInterval := interval } :=
  if_neg hfd

/-- The state after an update. -/
def Healthd.updated (config : HealthdConfig) (s : Healthd C) (chargerOnline : Bool) : Healthd C :=
  { s with
    wakealarmWakeInterval := config.wakeInterval chargerOnline
    awakePollInterval := config.pollInterval chargerOnline }

/-- **An update** programs the timer exactly when the selected interval is not the cached one. -/
theorem healthdBatteryUpdateInternal_eq (hfd : s.wakealarmFd ≠ -1) (chargerOnline : Bool) :
    healthdBatteryUpdateInternal config s chargerOnline =
      if config.wakeInterval chargerOnline = s.wakealarmWakeInterval then
        ret (s.updated config chargerOnline)
      else
        Program.call
          (.timerfdSettime s.wakealarmFd (timerPeriod (config.wakeInterval chargerOnline)))
          fun _ ↦ ret (s.updated config chargerOnline) := by
  have hpoll : (if config.periodicChoresIntervalFast = -1 then -1
      else if config.wakeInterval chargerOnline = config.periodicChoresIntervalFast then -1
      else config.periodicChoresIntervalFast * 1000) = config.pollInterval chargerOnline := by
    rw [HealthdConfig.pollInterval]
    split_ifs <;> simp_all
  simp only [healthdBatteryUpdateInternal]
  rw [← HealthdConfig.wakeInterval, hpoll]
  by_cases hsame : config.wakeInterval chargerOnline = s.wakealarmWakeInterval
  · rw [if_neg (not_not.2 hsame), if_pos hsame, Healthd.updated, hsame]
    rfl
  · rw [if_pos hsame, if_neg hsame, wakealarmSetInterval_eq hfd]
    rfl

/-! ### Any number of calls -/

/-- The cached interval and the timer are those for a charger state. -/
structure Following (config : HealthdConfig) (chargerOnline : Bool) (s : Healthd C) (a : Alarm) :
    Prop where
  cached : s.wakealarmWakeInterval = config.wakeInterval chargerOnline
  fd_ne : s.wakealarmFd ≠ -1
  fd : a.fd = some s.wakealarmFd
  period : a.period = timerPeriod (config.wakeInterval chargerOnline)

/-- The timer has been programmed. -/
theorem alarm_settime {fd : Int} (hfd : (alarm t).fd = some fd) (interval : Int) {result : Int}
    (hresult : result ≠ -1) :
    (alarm (t ++ [⟨.timerfdSettime fd interval, result⟩])).fd = some fd ∧
      (alarm (t ++ [⟨.timerfdSettime fd interval, result⟩])).period = interval := by
  rw [alarm_snoc, Alarm.record, if_neg hresult, if_pos hfd]
  exact ⟨hfd, rfl⟩

/-- **The step**: an update follows the new charger state, and programs the timer exactly when the
selected interval changes. -/
theorem Following.step {charger : Bool} (h : Following config charger s (alarm t))
    (hrun : Runs (healthdBatteryUpdateInternal config s chargerOnline) u s')
    (hsucceeds : ∀ e ∈ u, TimerCallSucceeds e) :
    Following config chargerOnline s' (alarm (t ++ u)) ∧
      s'.awakePollInterval = config.pollInterval chargerOnline ∧
      u.map Event.call =
        if config.wakeInterval chargerOnline = config.wakeInterval charger then []
        else [.timerfdSettime s'.wakealarmFd
          (timerPeriod (config.wakeInterval chargerOnline))] := by
  rw [healthdBatteryUpdateInternal_eq h.fd_ne, h.cached] at hrun
  split at hrun
  case isTrue hsame =>
    obtain ⟨rfl, rfl⟩ := runs_ret_iff.1 hrun
    rw [List.append_nil]
    refine ⟨⟨rfl, h.fd_ne, h.fd, ?_⟩, rfl, (if_pos hsame).symm⟩
    rw [h.period, hsame]
  case isFalse hdiffers =>
    obtain ⟨result, v, rfl, hv⟩ := runs_call_iff.1 hrun
    obtain ⟨rfl, rfl⟩ := runs_ret_iff.1 hv
    have hresult : result ≠ -1 := hsucceeds _ List.mem_cons_self
    obtain ⟨hfd, hperiod⟩ :=
      alarm_settime h.fd (timerPeriod (config.wakeInterval chargerOnline)) hresult
    exact ⟨⟨rfl, h.fd_ne, hfd, hperiod⟩, rfl, (if_neg hdiffers).symm⟩

/-- **The run**: after any number of updates the alarm follows the last charger state. -/
theorem batteryUpdates_following {charger : Bool} {flags : List Bool}
    (h : Following config charger s (alarm t)) (hrun : Runs (batteryUpdates config s flags) u s')
    (hsucceeds : ∀ e ∈ u, TimerCallSucceeds e) :
    Following config (flags.getLast?.getD charger) s' (alarm (t ++ u)) := by
  induction flags generalizing charger s t u with
  | nil =>
    obtain ⟨rfl, rfl⟩ := runs_ret_iff.1 hrun
    rwa [List.append_nil]
  | cons chargerOnline flags ih =>
    obtain ⟨v, w, s₁, rfl, hv, hw⟩ := runs_bind_iff.1 hrun
    have hstep := (h.step hv fun e he ↦ hsucceeds e (List.mem_append_left _ he)).1
    have hrest := ih hstep hw fun e he ↦ hsucceeds e (List.mem_append_right _ he)
    have hlast :
        (chargerOnline :: flags).getLast?.getD charger = flags.getLast?.getD chargerOnline := by
      rw [List.getLast?_cons]
      rfl
    rwa [hlast, ← List.append_assoc]

/-- **Setting the alarm up** leaves the fast interval, whatever the state before. -/
theorem wakealarmInit_following (hrun : Runs (wakealarmInit config s) t s')
    (hsucceeds : ∀ e ∈ t, TimerCallSucceeds e) : Following config true s' (alarm t) := by
  obtain ⟨fd, u, rfl, hu⟩ := runs_call_iff.1 hrun
  have hfd : fd ≠ -1 := hsucceeds _ List.mem_cons_self
  change Runs (if fd = -1 then _ else _) u s' at hu
  rw [if_neg hfd] at hu
  obtain ⟨v, w, ⟨result, s₁⟩, rfl, hregister, hset⟩ := runs_bind_iff.1 hu
  obtain ⟨added, v, rfl, hv⟩ := runs_call_iff.1 hregister
  have hs₁ : v = [] ∧ s₁.wakealarmFd = fd := by
    change Runs (if added = -1 then _ else _) v _ at hv
    split at hv
    all_goals
      obtain ⟨rfl, hr⟩ := runs_ret_iff.1 hv
      rw [← (Prod.mk.inj hr).2]
      exact ⟨rfl, rfl⟩
  obtain ⟨rfl, rfl⟩ := hs₁
  have hset : Runs (wakealarmSetInterval s₁ config.periodicChoresIntervalFast) w s' := hset
  rw [wakealarmSetInterval_eq hfd] at hset
  obtain ⟨programmed, w, rfl, hw⟩ := runs_call_iff.1 hset
  obtain ⟨rfl, rfl⟩ := runs_ret_iff.1 hw
  have hopen : (alarm [⟨.timerfdCreate, s₁.wakealarmFd⟩,
      (⟨.epollCtlAdd s₁.wakealarmFd .wakealarmEvent .wakeupFd, added⟩ : SysEvent C)]).fd =
        some s₁.wakealarmFd := by
    simp only [alarm, List.foldl_cons, List.foldl_nil, Alarm.record, if_neg hfd]
    split <;> rfl
  have hprogrammed : programmed ≠ -1 := hsucceeds ⟨.timerfdSettime _ _, programmed⟩ (by simp)
  obtain ⟨hfd', hperiod⟩ :=
    alarm_settime hopen (timerPeriod config.periodicChoresIntervalFast) hprogrammed
  exact ⟨rfl, hfd, hfd', hperiod⟩

/-- **The wake alarm follows the charger.** After a set-up and any updates, one more update leaves
the cached interval, the timer and the poll interval of its own charger state, and programs the
timer exactly when the selected interval is not the one selected before. -/
theorem wakeAlarm_follows_charger {s₀ : Healthd C} {flags : List Bool}
    (hrun : Runs (wakealarmInit config s₀ >>= fun s ↦ batteryUpdates config s flags) t s)
    (hcall : Runs (healthdBatteryUpdateInternal config s chargerOnline) u s')
    (hsucceeds : ∀ e ∈ t ++ u, TimerCallSucceeds e) :
    s'.wakealarmWakeInterval = config.wakeInterval chargerOnline ∧
      (alarm (t ++ u)).fd = some s'.wakealarmFd ∧
      (alarm (t ++ u)).period = timerPeriod (config.wakeInterval chargerOnline) ∧
      s'.awakePollInterval = config.pollInterval chargerOnline ∧
      u.map Event.call =
        if config.wakeInterval chargerOnline = config.wakeInterval (flags.getLast?.getD true)
        then []
        else [.timerfdSettime s'.wakealarmFd
          (timerPeriod (config.wakeInterval chargerOnline))] := by
  obtain ⟨v, w, s₁, rfl, hv, hw⟩ := runs_bind_iff.1 hrun
  have hinit : Following config true s₁ (alarm v) :=
    wakealarmInit_following hv fun e he ↦ hsucceeds e (by simp [he])
  have hfollows := batteryUpdates_following hinit hw fun e he ↦ hsucceeds e (by simp [he])
  obtain ⟨h, hpoll, hcalls⟩ := hfollows.step hcall fun e he ↦ hsucceeds e (by simp [he])
  exact ⟨h.cached, h.fd, h.period, hpoll, hcalls⟩

/-- The daemon on the charger, with its alarm. -/
def pluggedIn : Healthd ℕ :=
  Healthd.updated .default { (Healthd.initial : Healthd ℕ) with eventct := 1, wakealarmFd := 5 }
    true

/-- The alarm is set up. -/
def alarmSetUp : List (SysEvent ℕ) :=
  [⟨.timerfdCreate, (5 : Int)⟩, ⟨.epollCtlAdd 5 .wakealarmEvent .wakeupFd, (0 : Int)⟩,
    ⟨.timerfdSettime 5 60, (0 : Int)⟩]

theorem runs_alarmSetUp :
    Runs (wakealarmInit .default Healthd.initial >>= fun s ↦ batteryUpdates .default s [true])
      alarmSetUp pluggedIn := by
  repeat first | exact Steps.refl _ | apply Steps.call

/-- The charger is unplugged. -/
theorem runs_unplugged :
    Runs (healthdBatteryUpdateInternal .default pluggedIn false)
      [⟨.timerfdSettime 5 600, (0 : Int)⟩] (pluggedIn.updated .default false) := by
  repeat first | exact Steps.refl _ | apply Steps.call

theorem wakeAlarm_follows_unplugged :
    let s := pluggedIn.updated .default false
    let t := alarmSetUp ++ [⟨.timerfdSettime 5 600, (0 : Int)⟩]
    s.wakealarmWakeInterval = 600 ∧ (alarm t).fd = some s.wakealarmFd ∧ (alarm t).period = 600 ∧
      s.awakePollInterval = 60000 ∧
      [(⟨.timerfdSettime 5 600, (0 : Int)⟩ : SysEvent ℕ)].map Event.call =
        [.timerfdSettime 5 600] :=
  wakeAlarm_follows_charger runs_alarmSetUp runs_unplugged (by simp [alarmSetUp, TimerCallSucceeds])

end Health

end XenvmHal
