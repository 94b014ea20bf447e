import XenvmHal.Health.Health

/-!
# The daemon

The event handlers, the set-up and the main loop of `healthd_common.cpp`, with the service's own
`healthd_mode_ops` of `HealthServiceCommon.cpp`. A loop without an end is modelled by its first
`n` iterations, for every `n`: a partial run of the daemon is a partial run of one of these. They
return the process, the static variables of the source, as they leave it.

A uevent message is scanned as the C code does it, on the rest of the buffer from `cp` on, which
is `none` when the scan leaves the buffer.
-/

namespace XenvmHal

open Interaction

namespace Health

variable {C : Type} [Interfaces C] (config : HealthdConfig) (board : Board)

/-! ### Periodic work -/

/-- `healthd_battery_update`. -/
def healthdBatteryUpdate (s : Healthd C) : Proc C (Healthd C) := do
  getImplementation s
  let (_, s) ← update config s
  pure s

/-- `periodic_chores`. -/
def periodicChores (s : Healthd C) : Proc C (Healthd C) := do
  perform .periodicChores
  healthdBatteryUpdate config s

/-- `wakealarm_event`. -/
def wakealarmEvent (s : Healthd C) : Proc C (Healthd C) := do
  let result ← perform (.readWakealarm s.wakealarmFd)
  if result = -1 then pure s else periodicChores config s

/-! ### uevents -/

/-- `UEVENT_MSG_LEN`. -/
abbrev ueventMsgLen : ℕ := 2048

/-- `"SUBSYSTEM=power_supply"`, without its terminator. -/
def subsystemPowerSupply : List UInt8 :=
  [83, 85, 66, 83, 89, 83, 84, 69, 77, 61,
    112, 111, 119, 101, 114, 95, 115, 117, 112, 112, 108, 121]

/-- `!strcmp(cp, literal)`, for a literal without a zero byte. -/
def strcmpEqual : (cp literal : List UInt8) → Option Bool
  | [], _ => none
  | c :: _, [] => some (c = 0)
  | c :: cp, l :: literal => if c = l then strcmpEqual cp literal else some false

/-- `while (*cp++);` -/
def skipString : List UInt8 → Option (List UInt8)
  | [] => none
  | c :: cp => if c = 0 then some cp else skipString cp

theorem length_of_skipString {cp cp' : List UInt8} (h : skipString cp = some cp') :
    cp'.length < cp.length := by
  induction cp with
  | nil => cases h
  | cons c cp ih =>
    rw [skipString] at h
    split at h
    · obtain rfl := Option.some.inj h
      exact Nat.lt_succ_self _
    · exact Nat.lt_succ_of_lt (ih h)

/-- The scan of `uevent_event`: whether the subsystem's string was found. -/
def ueventScan (cp : List UInt8) : Option Bool :=
  match cp with
  | [] => none
  | c :: cp =>
    if c = 0 then some false
    else match strcmpEqual (c :: cp) subsystemPowerSupply with
      | none => none
      | some true => some true
      | some false =>
        match _h : skipString (c :: cp) with
        | none => none
        | some cp' => ueventScan cp'
termination_by cp.length
decreasing_by exact length_of_skipString ‹_›

/-- `uevent_event`. -/
def ueventEvent (s : Healthd C) : Proc C (Healthd C) := do
  let (n, received) ← perform (.ueventRecv s.ueventFd ueventMsgLen)
  if n ≤ 0 then pure s
  else if n ≥ ueventMsgLen then pure s  -- overflow -- discard
  else
    let msg := received.take n.toNat ++ [0, 0]
    match ueventScan msg with
    | none => do
      let _ ← perform .outOfBounds
      pure s
    | some true => healthdBatteryUpdate config s
    | some false => pure s

/-- `uevent_init`. -/
def ueventInit (s : Healthd C) : Proc C (Healthd C) := do
  let ueventFd ← perform .ueventOpenSocket
  let s := { s with ueventFd := ueventFd }
  if s.ueventFd < 0 then pure s
  else do
    let (_, s) ← healthdRegisterEvent s s.ueventFd .ueventEvent .wakeupFd
    pure s

/-! ### The service's mode -/

/-- Serve one transaction. -/
def serve (s : Healthd C) : Transaction C → Proc C (Healthd C)
  | .registerCallback callback => do
    let (_, s) ← registerCallback config s callback
    pure s
  | .unregisterCallback callback => do
    let (_, s) ← unregisterCallback s callback
    pure s
  | .update => do
    let (_, s) ← update config s
    pure s
  | .getHealthInfo => getHealthInfo config board s
  | .debug numFds => debug config board s numFds
  | .serviceDied who => serviceDied s who

/-- Serve transactions in order. -/
def serveAll (s : Healthd C) : List (Transaction C) → Proc C (Healthd C)
  | [] => pure s
  | transaction :: transactions => do
    let s ← serve config board s transaction
    serveAll s transactions

/-- `binder_event`. -/
def binderEvent (s : Healthd C) : Proc C (Healthd C) :=
  if s.gBinderFd ≥ 0 then do
    let transactions ← perform (.handleTransportPoll s.gBinderFd)
    serveAll config board s transactions
  else pure s

/-- `healthd_mode_service_2_0_init`. -/
def healthdModeServiceInit (s : Healthd C) : Proc C (Healthd C) := do
  let gBinderFd ← perform .setupTransportPolling
  let s := { s with gBinderFd := gBinderFd }
  let s ← if s.gBinderFd ≥ 0 then do
      let (_, s) ← healthdRegisterEvent s s.gBinderFd .binderEvent .noWakeupFd
      pure s
    else pure s
  let s := initInstance s
  let registered ← perform .registerAsService
  if registered then pure s else halt .abort sysAnswer_abort

/-- `healthd_mode_service_2_0_preparetowait`. -/
def healthdModeServicePreparetowait : Int := -1

/-- `healthd_mode_service_2_0_battery_update`. -/
def healthdModeServiceBatteryUpdate (s : Healthd C) : Proc C (Healthd C) := do
  getImplementation s
  let (_, s) ← notifyListeners board s
  pure s

/-- `healthd_mode_service_2_0_ops`. -/
def healthdModeServiceOps : ModeOps where
  batteryUpdate := true

/-- The process once the service is there, with the given callbacks registered. -/
def Healthd.started (callbacks : List C) : Healthd C :=
  { (Healthd.initial : Healthd C) with
    healthdModeOps := some healthdModeServiceOps
    instance_ := true
    callbacks_ := callbacks }

/-! ### The main loop -/

/-- The handler behind a `data.ptr`. -/
def handle (s : Healthd C) : EventHandler → Proc C (Healthd C)
  | .binderEvent => binderEvent config board s
  | .wakealarmEvent => wakealarmEvent config s
  | .ueventEvent => ueventEvent config s

/-- The loop over the events that `epoll_wait` returned. -/
def dispatch (s : Healthd C) : List (Option EventHandler) → Proc C (Healthd C)
  | [] => pure s
  | none :: events => dispatch s events
  | some handler :: events => do
    let s ← handle config board s handler
    dispatch s events

/-- The timeout of the wait, from `awake_poll_interval` and the mode's wish. -/
def waitTimeout (timeout modeTimeout : Int) : Int :=
  if timeout < 0 ∨ (modeTimeout > 0 ∧ modeTimeout < timeout) then modeTimeout else timeout

/-- The second half of an iteration: the wait, with an array of `room` events, and the events. -/
def mainloopWait (s : Healthd C) (room : ℕ) (timeout : Int) :
    Proc C (Option Int × Healthd C) := do
  callModeOp s .heartbeat
  callModeOp s .preparetowait
  let timeout := waitTimeout timeout healthdModeServicePreparetowait
  let result ← perform (.epollWait room s.eventct timeout)
  match result with
  | .interrupted => pure (some (-1), s)
  | .failed => pure (none, s)
  | .ready events => do
    let s ← dispatch config board s events
    pure (some events.length, s)

/-- One iteration of `healthd_mainloop`: the new `nevents`, `none` when the loop is left. -/
def mainloopIteration (s : Healthd C) (nevents : Int) : Proc C (Option Int × Healthd C) := do
  let room := s.eventct
  let timeout := s.awakePollInterval
  -- Don't wait for first timer timeout to run periodic chores
  let s ← if nevents = 0 then periodicChores config s else pure s
  mainloopWait config board s room timeout

/-- The first `n` iterations of `healthd_mainloop`. -/
def healthdMainloop : ℕ → Healthd C → Int → Proc C (Healthd C)
  | 0, s, _ => pure s
  | n + 1, s, nevents => do
    let (nevents, s) ← mainloopIteration config board s nevents
    match nevents with
    | some nevents => healthdMainloop n s nevents
    | none => pure s

/-- `healthd_init`: the result, 0 or -1. -/
def healthdInit (s : Healthd C) : Proc C (Int × Healthd C) := do
  let epollfd ← perform .epollCreate
  let s := { s with epollfd := epollfd }
  if s.epollfd = -1 then pure (-1, s)
  else do
    callModeOp s .init
    let s ← healthdModeServiceInit s
    let s ← wakealarmInit config s
    let s ← ueventInit s
    pure (0, s)

/-- `healthd_main`, with at most `n` iterations of the main loop. -/
def healthdMain (n : ℕ) (s : Healthd C) : Proc C (Int × Healthd C) :=
  if s.healthdModeOps.isNone then halt (.exit 1) rfl
  else do
    let (ret, s) ← healthdInit config s
    if ret ≠ 0 then halt (.exit 2) rfl
    else do
      let s ← healthdMainloop config board n s 0
      pure (3, s)

/-- The process in which `main` has installed the operations of the service. -/
def Healthd.installed (C : Type) : Healthd C :=
  { (Healthd.initial : Healthd C) with healthdModeOps := some healthdModeServiceOps }

/-- `main` of the service, with at most `n` iterations of the main loop. -/
def main (C : Type) [Interfaces C] (n : ℕ) : Proc C Int := do
  let (ret, _) ← healthdMain config board n (Healthd.installed C)
  pure ret

/-- `get_storage_info` and `get_disk_stats` of the service, which append nothing. -/
def Board.service : Board where
  storageInfo := []
  diskStats := []

end Health

end XenvmHal
