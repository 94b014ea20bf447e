import XenvmHal.Allocator.AllocatorHal

/-!
# The gralloc0 back end

`Gralloc0HalImpl`, method by method. There is no descriptor to set up and no stride query: one
device call allocates a buffer and reports its stride.
-/

namespace XenvmHal

open Interaction Program

/-- A `Gralloc0HalImpl` object. -/
structure Gralloc0Hal where
  /-- The open device, `none` for a null pointer. -/
  mDevice : Option Device
  /-- Whether `mDevice->dump`, the device's one optional entry, is not null. -/
  hasDump : Bool

namespace Gralloc0Hal

/-! ### Opening and closing -/

/-- `initWithModule`, on a freshly constructed object. -/
def initWithModule : Prog (Bool × Gralloc0Hal) := do
  let (result, device, hasDump) ← perform .grallocOpen
  if result ≠ 0 then
    pure (false, ⟨none, false⟩)
  else
    pure (true, ⟨some device, hasDump⟩)

/-- `~Gralloc0HalImpl`. -/
def destroy (hal : Gralloc0Hal) : Prog Unit :=
  match hal.mDevice with
  | some device => do
    let _ ← perform (.grallocClose device)
    pure ()
  | none => pure ()

theorem destroy_of_none {hal : Gralloc0Hal} (h : hal.mDevice = none) : hal.destroy = ret () := by
  simp [destroy, h]

/-! ### Allocation -/

variable (decode : Decoder) (hal : Gralloc0Hal)

/-- The requests gralloc0 cannot express. -/
def Unsupported (info : BufferDescriptorInfo) : Prop :=
  info.layerCount > 1 ∨ info.usage >>> 32 ≠ 0

instance (info : BufferDescriptorInfo) : Decidable (Unsupported info) :=
  inferInstanceAs (Decidable (_ ∨ _))

/-- `allocateOneBuffer`: the error, `*outBuffer` and `*outStride`. The device takes and reports
`int`s. -/
def allocateOneBuffer (info : BufferDescriptorInfo) :
    Prog (Error × Option Handle × Option UInt32) :=
  if Unsupported info then pure (.badValue, none, none)
  else do
    let (result, buffer, stride) ←
      perform (.alloc info.width.toInt32 info.height.toInt32 info.format
        info.usage.toUInt32.toInt32)
    if result = 0 then pure (.none, some buffer, some stride.toUInt32)
    else if result = negEINVAL then pure (.badValue, none, none)
    else pure (.noResources, none, none)

/-- The device call of `allocateOneBuffer`. -/
theorem allocateOneBuffer_eq {info : BufferDescriptorInfo} (h : ¬Unsupported info) :
    allocateOneBuffer info =
      Program.call (.alloc info.width.toInt32 info.height.toInt32 info.format
        info.usage.toUInt32.toInt32) fun x ↦
        if x.1 = 0 then ret (.none, some x.2.1, some x.2.2.toUInt32)
        else if x.1 = negEINVAL then ret (.badValue, none, none)
        else ret (.noResources, none, none) :=
  if_neg h

/-- The allocation loop of `allocateBuffers`. -/
def allocateLoop (info : BufferDescriptorInfo) :
    ℕ → UInt32 → List Handle → Prog (Error × UInt32 × List Handle) :=
  AllocatorHal.allocateLoop (allocateOneBuffer info)

/-- `freeBuffers`. -/
def freeBuffers : List Handle → Prog Unit :=
  AllocatorHal.freeLoop fun buffer ↦ do
    let _ ← perform (.free buffer)

/-- `allocateBuffers`. -/
def allocateBuffers (descriptor : BufferDescriptor) (count : UInt32) (out : Out) :
    Prog (Error × Out) :=
  match decode descriptor with
  | none => pure (.badDescriptor, out)
  | some descriptorInfo => do
    let (error, stride, buffers) ← allocateLoop descriptorInfo count.toNat 0 []
    if error ≠ .none then do
      freeBuffers buffers
      pure (error, out)
    else
      pure (.none, ⟨some stride, buffers⟩)

/-! ### Which calls a request makes -/

/-- The calls of `allocateBuffers`. -/
def IsBufferCall : Call → Prop
  | .alloc _ _ _ _ | .free _ | .unwrittenHandle | .unwrittenStride => True
  | _ => False

theorem allocateOneBuffer_only (info : BufferDescriptorInfo) :
    Only IsBufferCall (allocateOneBuffer info) := by
  by_cases h : Unsupported info
  · rw [allocateOneBuffer, if_pos h]
    trivial
  · rw [allocateOneBuffer_eq h]
    refine ⟨trivial, fun x ↦ ?_⟩
    dsimp only
    split_ifs <;> trivial

theorem freeBuffers_only (buffers : List Handle) : Only IsBufferCall (freeBuffers buffers) := by
  refine AllocatorHal.freeLoop_only (fun b ↦ ?_) buffers
  exact ⟨trivial, fun _ ↦ trivial⟩

/-- A gralloc0 request makes buffer calls only. -/
theorem allocateBuffers_only (descriptor : BufferDescriptor) (count : UInt32) (out : Out) :
    Only IsBufferCall (allocateBuffers decode descriptor count out) := by
  unfold allocateBuffers
  rcases decode descriptor with - | info
  · trivial
  · refine (AllocatorHal.allocateLoop_only (P := IsBufferCall) (allocateOneBuffer_only info) trivial
      trivial _ _ _).bind
      fun ⟨error, stride, buffers⟩ ↦ ?_
    dsimp only
    split
    · exact (freeBuffers_only buffers).bind fun _ ↦ trivial
    · trivial

/-! ### Debug dump -/

/-- `dumpDebugInfo`: a fixed buffer, its last byte overwritten with the terminator. -/
def dumpDebugInfo : Prog (List UInt8) :=
  let buf := List.replicate 4096 (0 : UInt8)
  if hal.hasDump then do
    let text ← perform (.dump0 buf.length)
    pure (cString ((fillFront buf text).set (buf.length - 1) 0))
  else
    pure (cString buf)

/-- `Gralloc0HalImpl` as an `AllocatorHal`. -/
def toAllocatorHal : AllocatorHal where
  dumpDebugInfo := hal.dumpDebugInfo
  allocateBuffers := allocateBuffers decode
  freeBuffers := freeBuffers

end Gralloc0Hal

end XenvmHal
