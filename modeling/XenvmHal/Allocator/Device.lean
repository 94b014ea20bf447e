import XenvmHal.Interaction.Interleaving

/-!
# What the allocator service talks to

The environment of the allocator service: the vendor's gralloc0 or gralloc1 device, the module
loader, and the client that receives the reply. Each of their functions is a constructor of
`Call`, with the arguments the source passes, and `Answer` is what comes back: the return code
together with the final contents of the out parameters. Codes are the `int32_t` the device
returns, **any** of them; which codes a device may return is a hypothesis of the theorems that
need it.

One more thing is chosen by the environment: the contents of a local variable that nothing has
written. C++ leaves it indeterminate, so a read of such a variable is a call of its own
(`unwrittenHandle`, `unwrittenStride`, `unwrittenDescriptor`) whose answer is arbitrary. Runs that
never read an unwritten variable have no such event.

All device calls go to the one device the HAL holds in `mDevice`, so the calls do not repeat it;
only opening and closing name it.
-/

namespace XenvmHal

open Interaction

/-! ### Values -/

/-- `mapper::V3_0::Error`. -/
inductive Error
  | none
  | badDescriptor
  | badBuffer
  | badValue
  | noResources
  | unsupported
  deriving DecidableEq, Repr

/-- A `const native_handle_t*`, by its value. -/
abbrev Handle := ℕ

/-- A `gralloc1_buffer_descriptor_t`, the device's name for a descriptor. -/
abbrev DescriptorId := UInt64

/-- A `gralloc1_device_t*` or `alloc_device_t*`, by its value. -/
abbrev Device := ℕ

/-- `mapper::V2_0::BufferDescriptor`, the encoded descriptor a client sends. -/
abbrev BufferDescriptor := List UInt32

/-- `mapper::V2_0::IMapper::BufferDescriptorInfo`, the decoded descriptor. -/
structure BufferDescriptorInfo where
  width : UInt32
  height : UInt32
  layerCount : UInt32
  format : Int32
  usage : UInt64
  deriving DecidableEq, Repr

/-- `grallocDecodeBufferDescriptor`, which lives in the platform: `none` when it returns false. -/
abbrev Decoder := BufferDescriptor → Option BufferDescriptorInfo

namespace Gralloc1Error

/-! The return codes of `gralloc1.h`. -/

@[simp] abbrev none : Int32 := 0
@[simp] abbrev badDescriptor : Int32 := 1
@[simp] abbrev badHandle : Int32 := 2
@[simp] abbrev badValue : Int32 := 3
@[simp] abbrev notShared : Int32 := 4
@[simp] abbrev noResources : Int32 := 5
@[simp] abbrev undefined : Int32 := 6
@[simp] abbrev unsupported : Int32 := 7

theorem none_ne_notShared : Gralloc1Error.none ≠ Gralloc1Error.notShared := by decide

end Gralloc1Error

/-- `-EINVAL`, the one nonzero result of a gralloc0 device the code tells apart. -/
@[simp] abbrev negEINVAL : Int32 := -22

/-- The functions of a gralloc1 device that the HAL looks up, `gralloc1_function_descriptor_t`. -/
inductive Gralloc1Function
  | dump
  | createDescriptor
  | destroyDescriptor
  | setDimensions
  | setFormat
  | setLayerCount
  | setConsumerUsage
  | setProducerUsage
  | getStride
  | allocate
  | release
  deriving DecidableEq, Repr

/-! ### Calls and answers -/

/-- A call out of the allocator service. -/
inductive Call
  -- gralloc1, through `mDispatch`
  | createDescriptor
  | destroyDescriptor (descriptor : DescriptorId)
  | setDimensions (descriptor : DescriptorId) (width height : UInt32)
  | setFormat (descriptor : DescriptorId) (format : Int32)
  | setLayerCount (descriptor : DescriptorId) (layerCount : UInt32)
  | setProducerUsage (descriptor : DescriptorId) (usage : UInt64)
  | setConsumerUsage (descriptor : DescriptorId) (usage : UInt64)
  | allocate (descriptor : DescriptorId)
  | getStride (buffer : Handle)
  | release (buffer : Handle)
  /-- `dump`: the announced length, and the size of the buffer passed along, if any. -/
  | dump (len : UInt32) (room : Option ℕ)
  -- gralloc0, through `mDevice`
  | alloc (w h format usage : Int32)
  | free (buffer : Handle)
  | dump0 (room : ℕ)
  -- the loader
  | hwGetModule
  | gralloc1Open
  | gralloc1Close (device : Device)
  | grallocOpen
  | grallocClose (device : Device)
  | getCapabilities (room : Option UInt32)
  | getFunction (desc : Gralloc1Function)
  -- the client
  | hidlCb (error : Error) (stride : UInt32) (buffers : List Handle)
  | dumpCb (debugInfo : List UInt8)
  -- a local variable that was never written, or a write past the end of a buffer
  | unwrittenHandle
  | unwrittenStride
  | unwrittenDescriptor
  | outOfBounds
  deriving DecidableEq, Repr

/-- What a call returns, out parameters included. -/
@[reducible] def Answer : Call → Type
  -- the identifier is written only when the code is `none`
  | .createDescriptor => Int32 × DescriptorId
  | .destroyDescriptor _ => Int32
  | .setDimensions _ _ _ => Int32
  | .setFormat _ _ => Int32
  | .setLayerCount _ _ => Int32
  | .setProducerUsage _ _ => Int32
  | .setConsumerUsage _ _ => Int32
  -- the final contents of `buffer` and of `stride`, which the caller initialised to null and 0
  | .allocate _ => Int32 × Handle
  | .getStride _ => Int32 × UInt32
  | .release _ => Int32
  -- the length reported, and the bytes written at the front of the buffer
  | .dump _ _ => UInt32 × List UInt8
  | .alloc _ _ _ _ => Int32 × Handle × Int32
  | .free _ => Int32
  | .dump0 _ => List UInt8
  -- the result code and the `module_api_version` of the module found
  | .hwGetModule => Int32 × UInt16
  | .gralloc1Open => Int32 × Device
  | .gralloc1Close _ => Int32
  | .grallocOpen => Int32 × Device × Bool
  | .grallocClose _ => Int32
  | .getCapabilities _ => UInt32 × List Int32
  -- whether the device has the function
  | .getFunction _ => Bool
  | .hidlCb _ _ _ => Unit
  | .dumpCb _ => Unit
  | .unwrittenHandle => Handle
  | .unwrittenStride => UInt32
  | .unwrittenDescriptor => DescriptorId
  | .outOfBounds => Unit

/-- An uneventful answer: every code is 0 and every out parameter is left at 0. -/
instance : (c : Call) → Inhabited (Answer c)
  | .createDescriptor => ⟨(0, 0)⟩
  | .destroyDescriptor _ => ⟨(0 : Int32)⟩
  | .setDimensions _ _ _ => ⟨(0 : Int32)⟩
  | .setFormat _ _ => ⟨(0 : Int32)⟩
  | .setLayerCount _ _ => ⟨(0 : Int32)⟩
  | .setProducerUsage _ _ => ⟨(0 : Int32)⟩
  | .setConsumerUsage _ _ => ⟨(0 : Int32)⟩
  | .allocate _ => ⟨(0, 0)⟩
  | .getStride _ => ⟨(0, 0)⟩
  | .release _ => ⟨(0 : Int32)⟩
  | .dump _ _ => ⟨(0, [])⟩
  | .alloc _ _ _ _ => ⟨(0, 0, 0)⟩
  | .free _ => ⟨(0 : Int32)⟩
  | .dump0 _ => ⟨([] : List UInt8)⟩
  | .hwGetModule => ⟨(0, 0)⟩
  | .gralloc1Open => ⟨(0, 0)⟩
  | .gralloc1Close _ => ⟨(0 : Int32)⟩
  | .grallocOpen => ⟨(0, 0, false)⟩
  | .grallocClose _ => ⟨(0 : Int32)⟩
  | .getCapabilities _ => ⟨(0, [])⟩
  | .getFunction _ => ⟨false⟩
  | .hidlCb _ _ _ => ⟨()⟩
  | .dumpCb _ => ⟨()⟩
  | .unwrittenHandle => ⟨(0 : Handle)⟩
  | .unwrittenStride => ⟨(0 : UInt32)⟩
  | .unwrittenDescriptor => ⟨(0 : DescriptorId)⟩
  | .outOfBounds => ⟨()⟩

/-- A program of the allocator service. -/
abbrev Prog (α : Type) := Program Call Answer α

/-- A call of the allocator service with its answer. -/
abbrev DeviceEvent := Event Call Answer

/-- Make a call. -/
abbrev perform (c : Call) : Prog (Answer c) :=
  Program.perform c

/-! ### What the device header allows

`gralloc1.h` lists `GRALLOC1_ERROR_NOT_SHARED` among the answers of `allocate` only. -/

/-- The code of a set-up call; other calls have `GRALLOC1_ERROR_NONE`. -/
def setUpCode : DeviceEvent → Int32
  | ⟨.createDescriptor, (code, _)⟩ => code
  | ⟨.setDimensions _ _ _, code⟩ | ⟨.setFormat _ _, code⟩ | ⟨.setLayerCount _ _, code⟩
  | ⟨.setProducerUsage _ _, code⟩ | ⟨.setConsumerUsage _ _, code⟩ => code
  | _ => Gralloc1Error.none

/-- The code of a stride query; other calls have `GRALLOC1_ERROR_NONE`. -/
def strideCode : DeviceEvent → Int32
  | ⟨.getStride _, (error, _)⟩ => error
  | _ => Gralloc1Error.none

/-- A set-up call was not answered `GRALLOC1_ERROR_NOT_SHARED`. -/
def SetUpAnswered : DeviceEvent → Prop
  | ⟨.createDescriptor, (code, _)⟩ => code ≠ Gralloc1Error.notShared
  | ⟨.setDimensions _ _ _, code⟩ | ⟨.setFormat _ _, code⟩ | ⟨.setLayerCount _ _, code⟩
  | ⟨.setProducerUsage _ _, code⟩ | ⟨.setConsumerUsage _ _, code⟩ =>
    code ≠ Gralloc1Error.notShared
  | _ => True

theorem setUpAnswered_iff (e : DeviceEvent) :
    setUpCode e ≠ Gralloc1Error.notShared ↔ SetUpAnswered e := by
  obtain ⟨c, x⟩ := e
  cases c
  case createDescriptor | setDimensions | setFormat | setLayerCount | setProducerUsage
      | setConsumerUsage => exact Iff.rfl
  all_goals exact iff_of_true Gralloc1Error.none_ne_notShared trivial

instance : DecidablePred SetUpAnswered :=
  fun e ↦ decidable_of_iff _ (setUpAnswered_iff e)

/-- A stride query was not answered `GRALLOC1_ERROR_NOT_SHARED`. -/
def StrideAnswered : DeviceEvent → Prop
  | ⟨.getStride _, (error, _)⟩ => error ≠ Gralloc1Error.notShared
  | _ => True

theorem strideAnswered_iff (e : DeviceEvent) :
    strideCode e ≠ Gralloc1Error.notShared ↔ StrideAnswered e := by
  obtain ⟨c, x⟩ := e
  cases c
  case getStride => exact Iff.rfl
  all_goals exact iff_of_true Gralloc1Error.none_ne_notShared trivial

instance : DecidablePred StrideAnswered :=
  fun e ↦ decidable_of_iff _ (strideAnswered_iff e)

/-! ### Local variables

An out parameter is `none` until somebody writes it. -/

/-- Read a `const native_handle_t*` variable. -/
def readHandle : Option Handle → Prog Handle
  | some buffer => pure buffer
  | none => perform .unwrittenHandle

/-- Read a `uint32_t` stride variable. -/
def readStride : Option UInt32 → Prog UInt32
  | some stride => pure stride
  | none => perform .unwrittenStride

/-- Read a `gralloc1_buffer_descriptor_t` variable. -/
def readDescriptor : Option DescriptorId → Prog DescriptorId
  | some descriptor => pure descriptor
  | none => perform .unwrittenDescriptor

@[simp] theorem readHandle_some (b : Handle) : readHandle (some b) = Program.ret b := rfl

@[simp] theorem readStride_some (s : UInt32) : readStride (some s) = Program.ret s := rfl

@[simp] theorem readDescriptor_none :
    readDescriptor none = perform .unwrittenDescriptor := rfl

end XenvmHal
