import XenvmHal.Interaction.Program

/-!
# What the health service talks to

The environment of the health service: the kernel (epoll, the wake alarm timerfd, the uevent
socket), the battery monitor, and the clients, who register callbacks and receive notifications.
`Sys` has one constructor a function, with the arguments the source passes, and `SysAnswer` is
what comes back. The clients' side of a transaction is part of the environment too: polling the
binder transport is answered with the transactions to serve.

Two kinds of call are marks in the trace rather than requests. `modeOp` records an indirect call
through `healthd_mode_ops` and `periodicChores` a call of that function, before the callee's own
calls. `abort`, `exit` and `nullDereference` have no answer at all, so no run goes on after one of
them.

Callbacks are of an arbitrary type `C` with the platform's `interfacesEqual`. An `int` is an `Int`:
the source computes `interval * 1000` in an `int`, which is undefined when it overflows.
-/

namespace XenvmHal

open Interaction

namespace Health

/-! ### Values -/

/-- `health::V2_0::Result`, the values used here. -/
inductive Result
  | success
  | notSupported
  | unknown
  | notFound
  deriving DecidableEq, Repr

/-- What a HIDL call on a remote object returns: `Return<T>`. -/
inductive Return (α : Type)
  | ok (value : α)
  | deadObject
  | error
  deriving DecidableEq, Repr

namespace Return

variable {α : Type}

/-- `isOk()`. -/
def isOk : Return α → Bool
  | ok _ => true
  | _ => false

/-- `isDeadObject()`. -/
def isDeadObject : Return α → Bool
  | deadObject => true
  | _ => false

/-- `withDefault`. -/
def withDefault (default : α) : Return α → α
  | ok value => value
  | _ => default

end Return

/-- `V1_0::BatteryStatus`, the value used here. -/
inductive BatteryStatus
  | full
  deriving DecidableEq, Repr

/-- `V1_0::BatteryHealth`, the value used here. -/
inductive BatteryHealth
  | good
  deriving DecidableEq, Repr

/-- A `StorageInfo`, which the service only passes on. -/
abbrev StorageInfo := ℕ

/-- A `DiskStats`, which the service only passes on. -/
abbrev DiskStats := ℕ

/-- `V1_0::HealthInfo`. -/
structure LegacyHealthInfo where
  chargerAcOnline : Bool
  chargerUsbOnline : Bool
  chargerWirelessOnline : Bool
  maxChargingCurrent : Int32
  maxChargingVoltage : Int32
  batteryPresent : Bool
  batteryLevel : Int32
  batteryVoltage : Int32
  batteryTemperature : Int32
  batteryCurrent : Int32
  batteryCycleCount : Int32
  batteryFullCharge : Int32
  batteryChargeCounter : Int32
  batteryStatus : BatteryStatus
  batteryHealth : BatteryHealth
  batteryTechnology : String
  deriving DecidableEq, Repr

/-- `V2_0::HealthInfo`. -/
structure HealthInfo where
  legacy : LegacyHealthInfo
  batteryCurrentAverage : Int32
  diskStats : List DiskStats
  storageInfos : List StorageInfo
  deriving DecidableEq, Repr

/-- The properties of the battery monitor, `BATTERY_PROP_*`. -/
inductive BatteryProperty
  | chargeCounter
  | currentNow
  | currentAvg
  | capacity
  | energyCounter
  | batteryStatus
  deriving DecidableEq, Repr

/-- The handlers registered for epoll events. -/
inductive EventHandler
  | binderEvent
  | wakealarmEvent
  | ueventEvent
  deriving DecidableEq, Repr

/-- `EventWakeup`. -/
inductive EventWakeup
  | noWakeupFd
  | wakeupFd
  deriving DecidableEq, Repr

/-- The entries of `struct healthd_mode_ops`. -/
inductive ModeOp
  | init
  | preparetowait
  | heartbeat
  | batteryUpdate
  deriving DecidableEq, Repr

/-- What a client asks for in one transaction; `none` is a null pointer. The methods that only read
and report, `getChargeCounter` to `getDiskStats`, are left out. -/
inductive Transaction (C : Type)
  | registerCallback (callback : Option C)
  | unregisterCallback (callback : Option C)
  | update
  | getHealthInfo
  /-- `debug`, with the number of file descriptors of a non-null handle. -/
  | debug (numFds : Option ℕ)
  /-- A death notification; `none` when `who` cannot be promoted any more. -/
  | serviceDied (who : Option C)
  deriving DecidableEq, Repr

/-- What `epoll_wait` does. -/
inductive EpollResult
  /-- `-1` with `errno == EINTR`. -/
  | interrupted
  /-- `-1` with another `errno`. -/
  | failed
  /-- The `data.ptr` of each event returned; `none` is a null pointer. -/
  | ready (events : List (Option EventHandler))
  deriving DecidableEq, Repr

/-! ### Calls and answers -/

/-- A call out of the health service. -/
inductive Sys (C : Type)
  -- the clients
  | linkToDeath (callback : C)
  | unlinkToDeath (callback : C)
  | healthInfoChanged (callback : C) (info : HealthInfo)
  | infoCb (result : Result) (info : HealthInfo)
  -- the battery monitor
  | getProperty (id : BatteryProperty)
  | dumpState
  -- the kernel
  | epollCreate
  | epollCtlAdd (fd : Int) (handler : EventHandler) (wakeup : EventWakeup)
  /-- `epoll_wait`: the size of the events array, the maximum passed along, and the timeout. -/
  | epollWait (room maxevents : ℕ) (timeout : Int)
  | timerfdCreate
  | timerfdSettime (fd : Int) (interval : Int)
  | readWakealarm (fd : Int)
  | ueventOpenSocket
  | ueventRecv (fd : Int) (room : ℕ)
  -- the platform
  | setupTransportPolling
  | handleTransportPoll (fd : Int)
  | registerAsService
  -- marks
  | modeOp (op : ModeOp)
  | periodicChores
  | outOfBounds
  | abort
  | exit (code : Int)
  | nullDereference
  deriving DecidableEq, Repr

/-- What a call returns, out parameters included. -/
@[reducible] def SysAnswer {C : Type} : Sys C → Type
  | .linkToDeath _ => Return Bool
  | .unlinkToDeath _ => Return Bool
  | .healthInfoChanged _ _ => Return Unit
  | .infoCb _ _ => Unit
  -- the status, and `prop.valueInt64`, which is read only when the status is `OK`
  | .getProperty _ => Int32 × Int64
  | .dumpState => Unit
  | .epollCreate => Int
  | .epollCtlAdd _ _ _ => Int
  | .epollWait _ _ _ => EpollResult
  | .timerfdCreate => Int
  | .timerfdSettime _ _ => Int
  | .readWakealarm _ => Int
  | .ueventOpenSocket => Int
  -- the result, and the bytes received
  | .ueventRecv _ _ => Int × List UInt8
  | .setupTransportPolling => Int
  | .handleTransportPoll _ => List (Transaction C)
  -- whether the status is `OK`
  | .registerAsService => Bool
  | .modeOp _ => Unit
  | .periodicChores => Unit
  | .outOfBounds => Unit
  | .abort => Empty
  | .exit _ => Empty
  | .nullDereference => Empty

/-- A program of the health service. -/
abbrev Proc (C α : Type) := Program (Sys C) SysAnswer α

/-- A call of the health service with its answer. -/
abbrev SysEvent (C : Type) := Event (Sys C) SysAnswer

/-- Make a call. -/
abbrev perform {C : Type} (c : Sys C) : Proc C (SysAnswer c) :=
  Program.perform c

/-- A call that never returns. -/
def halt {C α : Type} (c : Sys C) (h : SysAnswer c = Empty) : Proc C α :=
  Program.call c fun x ↦ (h ▸ x : Empty).elim

/-- Nothing comes after a failed check. -/
theorem sysAnswer_abort {C : Type} : SysAnswer (.abort : Sys C) = Empty := rfl

/-- `interfacesEqual`, an equivalence. -/
class Interfaces (C : Type) where
  interfacesEqual : C → C → Bool
  refl (c : C) : interfacesEqual c c = true
  symm {c d : C} : interfacesEqual c d = true → interfacesEqual d c = true
  trans {c d e : C} :
    interfacesEqual c d = true → interfacesEqual d e = true → interfacesEqual c e = true

export Interfaces (interfacesEqual)

section Interfaces

variable {C : Type} [Interfaces C] {c d e : C}

@[simp] theorem interfacesEqual_self (c : C) : interfacesEqual c c = true :=
  Interfaces.refl c

theorem interfacesEqual_comm : interfacesEqual c d = interfacesEqual d c :=
  Bool.eq_iff_iff.2 ⟨Interfaces.symm, Interfaces.symm⟩

/-- Equal interfaces are equal to the same interfaces. -/
theorem interfacesEqual_congr (h : interfacesEqual c d = true) :
    interfacesEqual e c = interfacesEqual e d :=
  Bool.eq_iff_iff.2
    ⟨fun hc ↦ Interfaces.trans hc h, fun hd ↦ Interfaces.trans hd (Interfaces.symm h)⟩

theorem interfacesEqual_congr_left (h : interfacesEqual c d = true) :
    interfacesEqual c e = interfacesEqual d e := by
  rw [interfacesEqual_comm, interfacesEqual_congr h, interfacesEqual_comm]

end Interfaces

/-- Interfaces told apart by number, for runs on fixed inputs. -/
instance : Interfaces ℕ where
  interfacesEqual c d := c == d
  refl := by simp
  symm := by simp +contextual
  trans := by simp +contextual

end Health

end XenvmHal
