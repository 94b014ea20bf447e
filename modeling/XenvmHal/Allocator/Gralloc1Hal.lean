import XenvmHal.Allocator.AllocatorHal

/-!
# The gralloc1 back end

`Gralloc1HalImpl`, method by method. The object is the record `Gralloc1Hal`: the device, the one
capability the HAL remembers and the dispatch table, of which only "is this entry null" matters.

The methods call through the table without a test of the entry, as the source does. That none of
the entries they use is null is not in this module: the loader refuses a device that lacks one, and
`Hal.HasEntry` follows the table from there to each call.

`createDescriptor` and `allocateOneBuffer` report through out parameters, which are `none` when a
path leaves them unwritten; the callers then read whatever the variable held. Success is decided
twice and not in the same way: `createDescriptor` and `allocateOneBuffer` compare the raw code,
their callers compare what `toError` made of it, and `toError` maps a second code,
`GRALLOC1_ERROR_NOT_SHARED`, to `Error::NONE`.
-/

namespace XenvmHal

open Interaction Program

/-- A `Gralloc1HalImpl` object. -/
structure Gralloc1Hal where
  /-- The open device, `none` for a null pointer. -/
  mDevice : Option Device
  /-- `mCapabilities.layeredBuffers`. -/
  layeredBuffers : Bool
  /-- `mDispatch`: which entries are not null. -/
  mDispatch : Gralloc1Function → Bool

namespace BufferUsage

/-! `common::V1_2::BufferUsage`, the values used here. -/

abbrev cpuReadMask : UInt64 := 0xf
abbrev cpuReadRarely : UInt64 := 2
abbrev cpuReadOften : UInt64 := 3
abbrev cpuWriteMask : UInt64 := 0xf0
abbrev cpuWriteRarely : UInt64 := 0x20
abbrev cpuWriteOften : UInt64 := 0x30
abbrev sensorDirectData : UInt64 := 0x800000
abbrev gpuDataBuffer : UInt64 := 0x1000000

end BufferUsage

namespace Gralloc1Usage

/-! `gralloc1_producer_usage_t` and `gralloc1_consumer_usage_t`, the values used here. -/

abbrev producerCpuRead : UInt64 := 0x2
abbrev producerCpuReadOften : UInt64 := 0x6
abbrev producerCpuWrite : UInt64 := 0x20
abbrev producerCpuWriteOften : UInt64 := 0x60
abbrev consumerCpuRead : UInt64 := 0x2
abbrev consumerCpuReadOften : UInt64 := 0x6
abbrev consumerGpuDataBuffer : UInt64 := 0x1000000

end Gralloc1Usage

namespace Gralloc1Hal

/-- `toError`. -/
def toError (error : Int32) : Error :=
  if error = Gralloc1Error.none then .none
  else if error = Gralloc1Error.badDescriptor then .badDescriptor
  else if error = Gralloc1Error.badHandle then .badBuffer
  else if error = Gralloc1Error.badValue then .badValue
  else if error = Gralloc1Error.notShared then .none  -- this is fine
  else if error = Gralloc1Error.noResources then .noResources
  else .unsupported

/-- **`toError` reports success for exactly two codes.** -/
theorem toError_eq_none_iff {error : Int32} :
    toError error = .none ↔ error = Gralloc1Error.none ∨ error = Gralloc1Error.notShared := by
  unfold toError
  split_ifs <;> simp_all

/-- `toProducerUsage`. -/
def toProducerUsage (usage : UInt64) : UInt64 :=
  let producerUsage :=
    usage &&& ~~~(BufferUsage.cpuReadMask ||| BufferUsage.cpuWriteMask |||
      BufferUsage.gpuDataBuffer)
  let producerUsage :=
    if usage &&& BufferUsage.cpuWriteMask = BufferUsage.cpuWriteRarely then
      producerUsage ||| Gralloc1Usage.producerCpuWrite
    else if usage &&& BufferUsage.cpuWriteMask = BufferUsage.cpuWriteOften then
      producerUsage ||| Gralloc1Usage.producerCpuWriteOften
    else producerUsage
  if usage &&& BufferUsage.cpuReadMask = BufferUsage.cpuReadRarely then
    producerUsage ||| Gralloc1Usage.producerCpuRead
  else if usage &&& BufferUsage.cpuReadMask = BufferUsage.cpuReadOften then
    producerUsage ||| Gralloc1Usage.producerCpuReadOften
  else producerUsage

/-- `toConsumerUsage`. -/
def toConsumerUsage (usage : UInt64) : UInt64 :=
  let consumerUsage :=
    usage &&& ~~~(BufferUsage.cpuReadMask ||| BufferUsage.cpuWriteMask |||
      BufferUsage.sensorDirectData ||| BufferUsage.gpuDataBuffer)
  let consumerUsage :=
    if usage &&& BufferUsage.cpuReadMask = BufferUsage.cpuReadRarely then
      consumerUsage ||| Gralloc1Usage.consumerCpuRead
    else if usage &&& BufferUsage.cpuReadMask = BufferUsage.cpuReadOften then
      consumerUsage ||| Gralloc1Usage.consumerCpuReadOften
    else consumerUsage
  if usage &&& BufferUsage.gpuDataBuffer ≠ 0 then
    consumerUsage ||| Gralloc1Usage.consumerGpuDataBuffer
  else consumerUsage

/-! ### Opening and closing -/

/-- `gralloc1_capability_t`: `GRALLOC1_CAPABILITY_LAYERED_BUFFERS`. -/
abbrev capabilityLayeredBuffers : Int32 := 2

/-- `initCapabilities`: the new `mCapabilities.layeredBuffers`. -/
def initCapabilities : Prog Bool := do
  let (count, _) ← perform (.getCapabilities none)
  let capabilities := List.replicate count.toNat (0 : Int32)
  let (count, written) ← perform (.getCapabilities (some count))
  let capabilities := resize 0 (fillFront capabilities written) count.toNat
  pure (capabilities.any (· == capabilityLayeredBuffers))

/-- `initDispatch(desc, outPfn)`: look one function up; a missing one leaves its entry null. -/
def initDispatch₁ (mDispatch : Gralloc1Function → Bool) (desc : Gralloc1Function) :
    Prog (Bool × (Gralloc1Function → Bool)) := do
  let pfn ← perform (.getFunction desc)
  if pfn then pure (true, Function.update mDispatch desc true)
  else pure (false, mDispatch)

/-- The functions every device must have, in the order they are looked up. -/
def requiredFunctions : List Gralloc1Function :=
  [.dump, .createDescriptor, .destroyDescriptor, .setDimensions, .setFormat, .setConsumerUsage,
    .setProducerUsage, .getStride, .allocate, .release]

/-- Look functions up in order, stopping at the first that is missing. -/
def initDispatchAll (mDispatch : Gralloc1Function → Bool) :
    List Gralloc1Function → Prog (Bool × (Gralloc1Function → Bool))
  | [] => pure (true, mDispatch)
  | desc :: descs => do
    let (found, mDispatch) ← initDispatch₁ mDispatch desc
    if found then initDispatchAll mDispatch descs else pure (false, mDispatch)

/-- `initDispatch()`. -/
def initDispatch (layeredBuffers : Bool) : Prog (Bool × (Gralloc1Function → Bool)) := do
  let (found, mDispatch) ← initDispatchAll (fun _ ↦ false) requiredFunctions
  if found then
    if layeredBuffers then initDispatch₁ mDispatch .setLayerCount else pure (true, mDispatch)
  else pure (false, mDispatch)

/-- `initWithModule`, on a freshly constructed object. -/
def initWithModule : Prog (Bool × Gralloc1Hal) := do
  let (result, device) ← perform .gralloc1Open
  if result ≠ 0 then
    pure (false, ⟨none, false, fun _ ↦ false⟩)
  else do
    let layeredBuffers ← initCapabilities
    let (found, mDispatch) ← initDispatch layeredBuffers
    if found then
      pure (true, ⟨some device, layeredBuffers, mDispatch⟩)
    else do
      let _ ← perform (.gralloc1Close device)
      pure (false, ⟨none, layeredBuffers, mDispatch⟩)

/-- `~Gralloc1HalImpl`. -/
def destroy (hal : Gralloc1Hal) : Prog Unit :=
  match hal.mDevice with
  | some device => do
    let _ ← perform (.gralloc1Close device)
    pure ()
  | none => pure ()

theorem destroy_of_none {hal : Gralloc1Hal} (h : hal.mDevice = none) : hal.destroy = ret () := by
  simp [destroy, h]

/-! ### Allocation -/

variable (decode : Decoder) (hal : Gralloc1Hal)

/-- Make a setter call on the descriptor in a local variable. -/
def setOn (descriptor : Option DescriptorId) (setter : DescriptorId → Prog Int32) : Prog Int32 := do
  let d ← readDescriptor descriptor
  setter d

/-- The layer count step of `createDescriptor`: on a device without layered buffers the failure
code is made up locally. -/
def setLayerCount (descriptor : Option DescriptorId) (layerCount : UInt32) : Prog Int32 :=
  if hal.layeredBuffers then
    setOn descriptor fun d ↦ perform (.setLayerCount d layerCount)
  else if layerCount > 1 then pure Gralloc1Error.unsupported
  else pure Gralloc1Error.none

/-- `if (error == GRALLOC1_ERROR_NONE) { error = step; }` -/
def onSuccess (error : Int32) (step : Prog Int32) : Prog Int32 :=
  if error = Gralloc1Error.none then step else pure error

/-- The end of `createDescriptor`: hand the descriptor out, or destroy it. -/
def finishDescriptor (error : Int32) (descriptor : Option DescriptorId) :
    Prog (Error × Option DescriptorId) :=
  if error = Gralloc1Error.none then
    pure (toError error, descriptor)
  else do
    let d ← readDescriptor descriptor
    let _ ← perform (.destroyDescriptor d)
    pure (toError error, none)

/-- `createDescriptor` after its first call: the setter chain and the shared end. -/
def configureDescriptor (info : BufferDescriptorInfo) (error : Int32)
    (descriptor : Option DescriptorId) : Prog (Error × Option DescriptorId) := do
  let error ← onSuccess error
    (setOn descriptor fun d ↦ perform (.setDimensions d info.width info.height))
  let error ← onSuccess error
    (setOn descriptor fun d ↦ perform (.setFormat d info.format))
  let error ← onSuccess error
    (hal.setLayerCount descriptor info.layerCount)
  let error ← onSuccess error
    (setOn descriptor fun d ↦ perform (.setProducerUsage d (toProducerUsage info.usage)))
  let error ← onSuccess error
    (setOn descriptor fun d ↦ perform (.setConsumerUsage d (toConsumerUsage info.usage)))
  finishDescriptor error descriptor

/-- `createDescriptor`: the error and `*outDescriptor`. -/
def createDescriptor (info : BufferDescriptorInfo) : Prog (Error × Option DescriptorId) := do
  let (error, id) ← perform .createDescriptor
  -- a failing call leaves the local variable unwritten
  let descriptor : Option DescriptorId := if error = Gralloc1Error.none then some id else none
  hal.configureDescriptor info error descriptor

/-- The first call of `createDescriptor`, and what is left after it. -/
theorem createDescriptor_eq (info : BufferDescriptorInfo) :
    hal.createDescriptor info =
      Program.call .createDescriptor fun (x : Int32 × DescriptorId) ↦
        hal.configureDescriptor info x.1 (if x.1 = Gralloc1Error.none then some x.2 else none) :=
  rfl

/-- `allocateOneBuffer`: the error, `*outBuffer` and `*outStride`. -/
def allocateOneBuffer (descriptor : DescriptorId) :
    Prog (Error × Option Handle × Option UInt32) := do
  let (error, buffer) ← perform (.allocate descriptor)
  if error ≠ Gralloc1Error.none ∧ error ≠ Gralloc1Error.notShared then
    pure (toError error, none, none)
  else do
    let (error, stride) ← perform (.getStride buffer)
    if error ≠ Gralloc1Error.none ∧ error ≠ Gralloc1Error.undefined then do
      let _ ← perform (.release buffer)
      pure (toError error, none, none)
    else
      pure (.none, some buffer, some stride)

/-- The device calls of `allocateOneBuffer`, in order. -/
theorem allocateOneBuffer_eq (d : DescriptorId) :
    allocateOneBuffer d =
      Program.call (.allocate d) fun x ↦
        if x.1 ≠ Gralloc1Error.none ∧ x.1 ≠ Gralloc1Error.notShared then
          ret (toError x.1, none, none)
        else Program.call (.getStride x.2) fun y ↦
          if y.1 ≠ Gralloc1Error.none ∧ y.1 ≠ Gralloc1Error.undefined then
            Program.call (.release x.2) fun _ ↦ ret (toError y.1, none, none)
          else ret (.none, some x.2, some y.2) :=
  rfl

/-- The allocation loop of `allocateBuffers`. -/
def allocateLoop (desc : Option DescriptorId) :
    ℕ → UInt32 → List Handle → Prog (Error × UInt32 × List Handle) :=
  AllocatorHal.allocateLoop do
    let d ← readDescriptor desc
    allocateOneBuffer d

/-- `freeBuffers`. -/
def freeBuffers : List Handle → Prog Unit :=
  AllocatorHal.freeLoop fun buffer ↦ do
    let _ ← perform (.release buffer)

/-- `allocateBuffers` once `createDescriptor` has reported success. -/
def allocateWith (desc : Option DescriptorId) (count : UInt32) (out : Out) :
    Prog (Error × Out) := do
  let (error, stride, buffers) ← allocateLoop desc count.toNat 0 []
  let d ← readDescriptor desc
  let _ ← perform (.destroyDescriptor d)
  if error ≠ .none then do
    freeBuffers buffers
    pure (error, out)
  else
    pure (.none, ⟨some stride, buffers⟩)

/-- `allocateBuffers`. -/
def allocateBuffers (descriptor : BufferDescriptor) (count : UInt32) (out : Out) :
    Prog (Error × Out) :=
  match decode descriptor with
  | none => pure (.badDescriptor, out)
  | some descriptorInfo => do
    let (error, desc) ← hal.createDescriptor descriptorInfo
    if error ≠ .none then pure (error, out) else allocateWith desc count out

/-! ### Which calls a method makes -/

/-- The calls of `createDescriptor` after its first, with or without layered buffers. -/
def IsConfigure (layered : Bool) : Call → Prop
  | .setLayerCount _ _ => layered = true
  | .destroyDescriptor _ | .setDimensions _ _ _ | .setFormat _ _ | .setProducerUsage _ _
  | .setConsumerUsage _ _ | .unwrittenDescriptor => True
  | _ => False

/-- The calls of `createDescriptor`. -/
def IsSetup (layered : Bool) (c : Call) : Prop :=
  c = .createDescriptor ∨ IsConfigure layered c

/-- The calls of the allocation loop and of `freeBuffers`. -/
def IsBufferCall : Call → Prop
  | .allocate _ | .getStride _ | .release _ | .unwrittenDescriptor | .unwrittenHandle
  | .unwrittenStride => True
  | _ => False

variable {layered : Bool}

theorem readDescriptor_only (descriptor : Option DescriptorId) :
    Only (IsConfigure layered) (readDescriptor descriptor) := by
  cases descriptor with
  | none => exact ⟨trivial, fun _ ↦ trivial⟩
  | some d => trivial

theorem setOn_only (descriptor : Option DescriptorId) {setter : DescriptorId → Prog Int32}
    (h : ∀ d, Only (IsConfigure layered) (setter d)) :
    Only (IsConfigure layered) (setOn descriptor setter) :=
  (readDescriptor_only descriptor).bind h

theorem onSuccess_only (error : Int32) {step : Prog Int32} (h : Only (IsConfigure layered) step) :
    Only (IsConfigure layered) (onSuccess error step) := by
  unfold onSuccess
  split
  · exact h
  · trivial

theorem setLayerCount_only (descriptor : Option DescriptorId) (layerCount : UInt32) :
    Only (IsConfigure hal.layeredBuffers) (hal.setLayerCount descriptor layerCount) := by
  unfold setLayerCount
  split_ifs
  · rename_i hlayered
    exact setOn_only descriptor fun _ ↦ ⟨hlayered, fun _ ↦ trivial⟩
  · trivial
  · trivial

theorem finishDescriptor_only (error : Int32) (descriptor : Option DescriptorId) :
    Only (IsConfigure layered) (finishDescriptor error descriptor) := by
  unfold finishDescriptor
  split
  · trivial
  · exact (readDescriptor_only descriptor).bind fun d ↦ ⟨trivial, fun _ ↦ trivial⟩

theorem configureDescriptor_only (info : BufferDescriptorInfo) (error : Int32)
    (descriptor : Option DescriptorId) :
    Only (IsConfigure hal.layeredBuffers) (hal.configureDescriptor info error descriptor) := by
  refine Only.bind (onSuccess_only _ (setOn_only _ fun d ↦ ?_)) fun error ↦ ?_
  · exact ⟨trivial, fun _ ↦ trivial⟩
  refine Only.bind (onSuccess_only _ (setOn_only _ fun d ↦ ?_)) fun error ↦ ?_
  · exact ⟨trivial, fun _ ↦ trivial⟩
  refine Only.bind (onSuccess_only _ (hal.setLayerCount_only _ _)) fun error ↦ ?_
  refine Only.bind (onSuccess_only _ (setOn_only _ fun d ↦ ?_)) fun error ↦ ?_
  · exact ⟨trivial, fun _ ↦ trivial⟩
  refine Only.bind (onSuccess_only _ (setOn_only _ fun d ↦ ?_)) fun error ↦ ?_
  · exact ⟨trivial, fun _ ↦ trivial⟩
  exact finishDescriptor_only _ _

/-- Setting a descriptor up makes descriptor calls only. -/
theorem createDescriptor_only (info : BufferDescriptorInfo) :
    Only (IsSetup hal.layeredBuffers) (hal.createDescriptor info) :=
  ⟨.inl rfl, fun _ ↦ (hal.configureDescriptor_only info _ _).mono fun _ ↦ .inr⟩

theorem readUnwritten_only (desc : Option DescriptorId) :
    Only IsBufferCall (readDescriptor desc) := by
  cases desc with
  | none => exact ⟨trivial, fun _ ↦ trivial⟩
  | some d => trivial

/-- The calls of `allocateOneBuffer`. -/
theorem allocateOneBuffer_calls {P : Call → Prop} {d : DescriptorId} (hallocate : P (.allocate d))
    (hstride : ∀ b, P (.getStride b)) (hrelease : ∀ b, P (.release b)) :
    Only P (allocateOneBuffer d) := by
  rw [allocateOneBuffer_eq]
  refine ⟨hallocate, fun x ↦ ?_⟩
  dsimp only
  split
  · trivial
  · refine ⟨hstride x.2, fun y ↦ ?_⟩
    dsimp only
    split
    · exact ⟨hrelease x.2, fun _ ↦ trivial⟩
    · trivial

theorem allocateOneBuffer_only (d : DescriptorId) : Only IsBufferCall (allocateOneBuffer d) :=
  allocateOneBuffer_calls trivial (fun _ ↦ trivial) fun _ ↦ trivial

/-- The loop makes buffer calls only. -/
theorem allocateLoop_only (desc : Option DescriptorId) (n : ℕ) (stride : UInt32)
    (buffers : List Handle) : Only IsBufferCall (allocateLoop desc n stride buffers) := by
  exact AllocatorHal.allocateLoop_only (P := IsBufferCall)
    ((readUnwritten_only desc).bind allocateOneBuffer_only)
    trivial trivial n stride buffers

theorem freeBuffers_releases {P : Call → Prop} (buffers : List Handle) (h : ∀ b, P (.release b)) :
    Only P (freeBuffers buffers) := by
  refine AllocatorHal.freeLoop_only (fun b ↦ ?_) buffers
  exact ⟨h b, fun _ ↦ trivial⟩

theorem freeBuffers_only (buffers : List Handle) : Only IsBufferCall (freeBuffers buffers) :=
  freeBuffers_releases buffers fun _ ↦ trivial

/-- Once its descriptor is set up, a request makes buffer calls and destroys the descriptor. -/
theorem allocateWith_calls (desc : Option DescriptorId) (count : UInt32) (out : Out) :
    Only (fun c ↦ IsBufferCall c ∨ ∃ d, c = .destroyDescriptor d)
      (allocateWith desc count out) := by
  refine ((allocateLoop_only desc _ 0 []).mono fun _ ↦ .inl).bind fun ⟨error, stride, buffers⟩ ↦ ?_
  refine ((readUnwritten_only desc).mono fun _ ↦ .inl).bind fun d ↦ ⟨.inr ⟨d, rfl⟩, fun _ ↦ ?_⟩
  dsimp only
  split
  · exact ((freeBuffers_only buffers).mono fun _ ↦ .inl).bind fun _ ↦ trivial
  · trivial

/-- Only the first call of a request creates a descriptor. -/
theorem allocateWith_only (desc : Option DescriptorId) (count : UInt32) (out : Out) :
    Only (fun c ↦ IsConfigure layered c ∨ IsBufferCall c) (allocateWith desc count out) := by
  refine (allocateWith_calls desc count out).mono fun c hc ↦ ?_
  rcases hc with hc | ⟨d, rfl⟩
  · exact .inr hc
  · exact .inl trivial

/-- A request sets a descriptor up and makes buffer calls. -/
theorem allocateBuffers_only (descriptor : BufferDescriptor) (count : UInt32) (out : Out) :
    Only (fun c ↦ IsSetup hal.layeredBuffers c ∨ IsBufferCall c)
      (hal.allocateBuffers decode descriptor count out) := by
  unfold allocateBuffers
  rcases decode descriptor with - | info
  · trivial
  · refine ((hal.createDescriptor_only info).mono fun _ ↦ .inl).bind fun ⟨error, desc⟩ ↦ ?_
    dsimp only
    split
    · trivial
    · exact (allocateWith_only desc count out).mono fun _ h ↦ h.imp_left .inr

/-! ### Debug dump -/

/-- `dumpDebugInfo`: sizes are computed as `len + 1` in 32 bits, before and after the second
call. -/
def dumpDebugInfo : Prog (List UInt8) := do
  let (len, _) ← perform (.dump 0 none)
  let buf := List.replicate (len + 1).toNat (0 : UInt8)
  let (len, text) ← perform (.dump len (some buf.length))
  let buf := resize 0 (fillFront buf text) (len + 1).toNat
  if len.toNat < buf.length then
    pure (cString (buf.set len.toNat 0))
  else do
    let _ ← perform .outOfBounds
    pure (cString buf)

/-- `Gralloc1HalImpl` as an `AllocatorHal`. -/
def toAllocatorHal : AllocatorHal where
  dumpDebugInfo := dumpDebugInfo
  allocateBuffers := hal.allocateBuffers decode
  freeBuffers := freeBuffers

end Gralloc1Hal

end XenvmHal
