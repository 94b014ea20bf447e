import XenvmHal.Health.Environment

/-!
# The state of the daemon and its timing

`Healthd` is the state of the process: the static variables of `healthd_common.cpp` and
`HealthServiceCommon.cpp` and the fields of the one `Health` object. The functions here are the
ones that decide when periodic work happens: they program the wake alarm and choose between it
and the timeout of `epoll_wait`.
-/

namespace XenvmHal

open Interaction

namespace Health

/-- The fields of `struct healthd_config` that the daemon reads. -/
structure HealthdConfig where
  periodicChoresIntervalFast : Int
  periodicChoresIntervalSlow : Int
  deriving DecidableEq, Repr

/-- `healthd_config`. -/
def HealthdConfig.default : HealthdConfig where
  periodicChoresIntervalFast := 60 * 1
  periodicChoresIntervalSlow := 60 * 10

/-- A `struct healthd_mode_ops`, of which one entry is ever tested for null. -/
structure ModeOps where
  batteryUpdate : Bool
  deriving DecidableEq, Repr

/-- The process. -/
structure Healthd (C : Type) where
  eventct : ℕ
  epollfd : Int
  ueventFd : Int
  wakealarmFd : Int
  /-- -1 for no epoll timeout -/
  awakePollInterval : Int
  wakealarmWakeInterval : Int
  healthdModeOps : Option ModeOps
  gBinderFd : Int
  /-- Whether `Health::instance_` is not null. -/
  instance_ : Bool
  callbacks_ : List C
  deriving DecidableEq, Repr

namespace Healthd

variable {C : Type}

/-- The process before `main`. -/
def initial : Healthd C where
  eventct := 0
  epollfd := 0
  ueventFd := 0
  wakealarmFd := 0
  awakePollInterval := -1
  wakealarmWakeInterval := 60 * 1
  healthdModeOps := none
  gBinderFd := -1
  instance_ := false
  callbacks_ := []

/-- `healthd_mode_ops && healthd_mode_ops->battery_update`. -/
def hasBatteryUpdate (s : Healthd C) : Bool :=
  s.healthdModeOps.any ModeOps.batteryUpdate

end Healthd

variable {C : Type} (config : HealthdConfig)

/-- An indirect call through `healthd_mode_ops`, up to the entry of the callee. -/
def callModeOp (s : Healthd C) (op : ModeOp) : Proc C Unit :=
  match s.healthdModeOps with
  | some _ => perform (.modeOp op)
  | none => halt .nullDereference rfl

/-- `healthd_register_event`: the result, 0 or -1. -/
def healthdRegisterEvent (s : Healthd C) (fd : Int) (handler : EventHandler)
    (wakeup : EventWakeup) : Proc C (Int × Healthd C) := do
  let result ← perform (.epollCtlAdd fd handler wakeup)
  if result = -1 then pure (-1, s)
  else pure (0, { s with eventct := s.eventct + 1 })

/-- `wakealarm_set_interval`: a failure to program the timer is only logged. -/
def wakealarmSetInterval (s : Healthd C) (interval : Int) : Proc C (Healthd C) :=
  if s.wakealarmFd = -1 then pure s
  else do
    let s := { s with wakealarmWakeInterval := interval }
    let interval := if interval = -1 then 0 else interval
    let _ ← perform (.timerfdSettime s.wakealarmFd interval)
    pure s

/-- `healthd_battery_update_internal`. -/
def healthdBatteryUpdateInternal (s : Healthd C) (chargerOnline : Bool) : Proc C (Healthd C) := do
  let newWakeInterval :=
    if chargerOnline then config.periodicChoresIntervalFast else config.periodicChoresIntervalSlow
  let s ← if newWakeInterval ≠ s.wakealarmWakeInterval then wakealarmSetInterval s newWakeInterval
    else pure s
  pure { s with
    awakePollInterval :=
      if config.periodicChoresIntervalFast = -1 then -1
      else if newWakeInterval = config.periodicChoresIntervalFast then -1
      else config.periodicChoresIntervalFast * 1000 }

/-- `wakealarm_init`. -/
def wakealarmInit (s : Healthd C) : Proc C (Healthd C) := do
  let wakealarmFd ← perform .timerfdCreate
  let s := { s with wakealarmFd := wakealarmFd }
  if s.wakealarmFd = -1 then pure s
  else do
    let (_, s) ← healthdRegisterEvent s s.wakealarmFd .wakealarmEvent .wakeupFd
    wakealarmSetInterval s config.periodicChoresIntervalFast

end Health

end XenvmHal
