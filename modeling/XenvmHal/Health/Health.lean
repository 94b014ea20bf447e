import XenvmHal.Health.Healthd

/-!
# The health object

`Health`, method by method. A method that changes the object takes and returns the state of the
process. The two loops that erase from `callbacks_` while they iterate over it are index loops,
as in the source: `it` stays where it is after an erasure and moves on otherwise.

`registerCallback` is written as its three stages, so that other calls can come between them:
`registerPush` under the lock, `registerLink` and `update` outside it.
-/

namespace XenvmHal

open Interaction

namespace Health

variable {C : Type} [Interfaces C] (config : HealthdConfig)

/-- What `get_storage_info` and `get_disk_stats` append to an empty vector. -/
structure Board where
  storageInfo : List StorageInfo
  diskStats : List DiskStats

/-! ### The update -/

/-- `Health::update`. -/
def update (s : Healthd C) : Proc C (Result × Healthd C) :=
  if s.hasBatteryUpdate = false then pure (.unknown, s)
  else do
    -- adjust uevent / wakealarm periods
    let s ← healthdBatteryUpdateInternal config s true
    pure (.success, s)

/-! ### The registry -/

/-- The locked section of `registerCallback`. -/
def registerPush (s : Healthd C) (callback : C) : Healthd C :=
  { s with callbacks_ := s.callbacks_ ++ [callback] }

/-- The death link of `registerCallback`, whose failure is only logged. -/
def registerLink (callback : C) : Proc C Unit := do
  let _ ← perform (.linkToDeath callback)

/-- `Health::registerCallback`. -/
def registerCallback (s : Healthd C) : Option C → Proc C (Result × Healthd C)
  | none => pure (.success, s)
  | some callback => do
    let s := registerPush s callback
    registerLink callback
    update config s

/-- The loop of `unregisterCallbackInternal`, from position `it` on. -/
def eraseLoop (callback : C) (callbacks : List C) (it : ℕ) (removed : Bool) : List C × Bool :=
  if h : it < callbacks.length then
    if interfacesEqual callbacks[it] callback then
      eraseLoop callback (callbacks.eraseIdx it) it true
    else
      eraseLoop callback callbacks (it + 1) removed
  else (callbacks, removed)
termination_by callbacks.length - it
decreasing_by
  · rw [List.length_eraseIdx_of_lt h]
    omega
  · omega

/-- `Health::unregisterCallbackInternal`. -/
def unregisterCallbackInternal (s : Healthd C) : Option C → Proc C (Bool × Healthd C)
  | none => pure (false, s)
  | some callback => do
    let (callbacks, removed) := eraseLoop callback s.callbacks_ 0 false
    let s := { s with callbacks_ := callbacks }
    let _ ← perform (.unlinkToDeath callback)  -- ignore errors
    pure (removed, s)

/-- `Health::unregisterCallback`. -/
def unregisterCallback (s : Healthd C) (callback : Option C) : Proc C (Result × Healthd C) := do
  let (removed, s) ← unregisterCallbackInternal s callback
  pure (if removed then .success else .notFound, s)

/-- `Health::serviceDied`. -/
def serviceDied (s : Healthd C) (who : Option C) : Proc C (Healthd C) := do
  let (_, s) ← unregisterCallbackInternal s who
  pure s

/-! ### Health information -/

/-- The health information, as `notifyListeners` and `getHealthInfo` both write it out. -/
def healthInfo (board : Board) (currentAvg : Int32) : HealthInfo where
  legacy :=
    { chargerAcOnline := true
      chargerUsbOnline := false
      chargerWirelessOnline := false
      maxChargingCurrent := 0
      maxChargingVoltage := 0
      batteryPresent := false
      batteryLevel := 100
      batteryVoltage := 0
      batteryTemperature := 0
      batteryCurrent := 0
      batteryCycleCount := 0
      batteryFullCharge := 1
      batteryChargeCounter := 1
      batteryStatus := .full
      batteryHealth := .good
      batteryTechnology := "AC" }
  batteryCurrentAverage := currentAvg
  diskStats := board.diskStats
  storageInfos := board.storageInfo

/-- The current average, 0 unless the battery monitor has it. -/
def currentAverage : Proc C Int32 := do
  let (ret, valueInt64) ← perform (.getProperty .currentAvg)
  pure (if ret = 0 then valueInt64.toInt32 else 0)

/-- The loop of `notifyListeners`, from position `it` on: what is left of `callbacks_`. -/
def notifyLoop (info : HealthInfo) (callbacks : List C) (it : ℕ) : Proc C (List C) :=
  if h : it < callbacks.length then do
    let ret ← perform (.healthInfoChanged callbacks[it] info)
    if ret.isOk = false ∧ ret.isDeadObject = true then notifyLoop info (callbacks.eraseIdx it) it
    else notifyLoop info callbacks (it + 1)
  else pure callbacks
termination_by callbacks.length - it
decreasing_by
  · rw [List.length_eraseIdx_of_lt h]
    omega
  · omega

/-- `Health::notifyListeners`: the information sent, and the new state. -/
def notifyListeners (board : Board) (s : Healthd C) : Proc C (HealthInfo × Healthd C) := do
  let currentAvg ← currentAverage
  let info := healthInfo board currentAvg
  let callbacks ← notifyLoop info s.callbacks_ 0
  pure (info, { s with callbacks_ := callbacks })

/-- `Health::getHealthInfo`. -/
def getHealthInfo (board : Board) (s : Healthd C) : Proc C (Healthd C) := do
  let (_, s) ← update config s
  let currentAvg ← currentAverage
  let _ ← perform (.infoCb .success (healthInfo board currentAvg))
  pure s

/-- `Health::debug`, whose callback writes the information to the file descriptor. -/
def debug (board : Board) (s : Healthd C) (numFds : Option ℕ) : Proc C (Healthd C) :=
  if numFds.getD 0 ≥ 1 then do
    let _ ← perform .dumpState
    getHealthInfo config board s
  else pure s

/-! ### Single properties

The constants of `Health.h`, and the methods that report them. -/

abbrev kBatteryPropChargeCounter : Int32 := 1
abbrev kBatteryPropCurrentNow : Int32 := 1
abbrev kBatteryPropCurrentAvg : Int32 := 1
abbrev kBatteryPropCapacity : Int32 := 1
abbrev kBatteryPropEnergyCounter : Int64 := 1

/-- `getProperty`: what the callback is given. The monitor is passed along and not asked. -/
def getProperty {α : Type} (_id : BatteryProperty) (defaultValue : α) : Proc C (Result × α) :=
  pure (.success, defaultValue)

/-- `Health::getChargeCounter`. -/
def getChargeCounter : Proc C (Result × Int32) :=
  getProperty .chargeCounter kBatteryPropChargeCounter

/-- `Health::getCurrentNow`. -/
def getCurrentNow : Proc C (Result × Int32) :=
  getProperty .currentNow kBatteryPropCurrentNow

/-- `Health::getCurrentAverage`. -/
def getCurrentAverage : Proc C (Result × Int32) :=
  getProperty .currentAvg kBatteryPropCurrentAvg

/-- `Health::getCapacity`. -/
def getCapacity : Proc C (Result × Int32) :=
  getProperty .capacity kBatteryPropCapacity

/-- `Health::getEnergyCounter`. -/
def getEnergyCounter : Proc C (Result × Int64) :=
  getProperty .energyCounter kBatteryPropEnergyCounter

/-- `Health::getChargeStatus`. -/
def getChargeStatus : Proc C (Result × BatteryStatus) :=
  getProperty .batteryStatus .full

/-! ### Lists of the board -/

/-- How `getStorageInfo` and `getDiskStats` report a list: one that is empty is not supported. -/
def reportList {α : Type} (info : List α) : Proc C (Result × List α) :=
  pure (if info.isEmpty then .notSupported else .success, info)

/-- `Health::getStorageInfo`. -/
def getStorageInfo (board : Board) : Proc C (Result × List StorageInfo) :=
  reportList board.storageInfo

/-- `Health::getDiskStats`. -/
def getDiskStats (board : Board) : Proc C (Result × List DiskStats) :=
  reportList board.diskStats

/-! ### The instance -/

/-- `Health::initInstance`. A new object has no callbacks. -/
def initInstance (s : Healthd C) : Healthd C :=
  if s.instance_ then s else { s with instance_ := true, callbacks_ := [] }

/-- `Health::getImplementation`, which checks that there is an instance. -/
def getImplementation (s : Healthd C) : Proc C Unit :=
  if s.instance_ then pure () else halt .abort sysAnswer_abort

end Health

end XenvmHal
