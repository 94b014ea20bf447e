import XenvmHal.Allocator.Device

/-!
# The allocator service over an abstract HAL

`AllocatorHal` is the interface both gralloc back ends implement, and `Allocator.allocate` the
service method on top of it. The HAL writes its results through two out parameters, `Out`; they
are threaded explicitly, so that "left as they were" can be said.
-/

namespace XenvmHal

open Interaction Program

/-! ### Vectors -/

/-- `std::vector::resize`, with `fill` for the new elements. -/
def resize {α : Type} (fill : α) (buf : List α) (n : ℕ) : List α :=
  buf.take n ++ List.replicate (n - buf.length) fill

/-- A buffer after the device has written `written` at its front. -/
def fillFront {α : Type} (buf written : List α) : List α :=
  written ++ buf.drop written.length

/-- The part of a `char` buffer that a C string reader sees. -/
def cString (buf : List UInt8) : List UInt8 :=
  buf.takeWhile (· ≠ 0)

/-! ### The interface -/

/-- The out parameters of `allocateBuffers`: `*outStride` (`none` until it is written) and
`*outBuffers`. -/
structure Out where
  stride : Option UInt32
  buffers : List Handle
  deriving DecidableEq, Repr

/-- `xenvm::hal::AllocatorHal`. -/
structure AllocatorHal where
  /-- dump the debug information -/
  dumpDebugInfo : Prog (List UInt8)
  /-- allocate buffers -/
  allocateBuffers : BufferDescriptor → UInt32 → Out → Prog (Error × Out)
  /-- free buffers -/
  freeBuffers : List Handle → Prog Unit

/-! ### The loops both back ends have

The two back ends carry their own copies of these loops, which differ in what allocates and what
frees one buffer. -/

namespace AllocatorHal

/-- The allocation loop of `allocateBuffers`, with the iterations left, `stride` and `buffers`. -/
def allocateLoop (allocateOneBuffer : Prog (Error × Option Handle × Option UInt32)) :
    ℕ → UInt32 → List Handle → Prog (Error × UInt32 × List Handle)
  | 0, stride, buffers => pure (.none, stride, buffers)
  | n + 1, stride, buffers => do
    let (error, tmpBuffer, tmpStride) ← allocateOneBuffer
    if error ≠ .none then
      pure (error, stride, buffers)
    else do
      let tmpBuffer ← readHandle tmpBuffer
      let tmpStride ← readStride tmpStride
      if stride = 0 then
        allocateLoop allocateOneBuffer n tmpStride (buffers ++ [tmpBuffer])
      else if stride ≠ tmpStride then
        -- non-uniform strides
        pure (.unsupported, stride, buffers ++ [tmpBuffer])
      else
        allocateLoop allocateOneBuffer n stride (buffers ++ [tmpBuffer])

/-- The loop of `freeBuffers`: a failing call is only logged. -/
def freeLoop (free : Handle → Prog Unit) : List Handle → Prog Unit
  | [] => pure ()
  | buffer :: buffers => do
    free buffer
    freeLoop free buffers

section Rules

variable {σ : Type} {M : Monitor Call Answer σ} {Q : Error × UInt32 × List Handle → σ → Prop}
  {P : Call → Prop} {one : Prog (Error × Option Handle × Option UInt32)}

/-- **The loop rule**: an invariant `I` over the iterations left, `stride` and `buffers`. -/
theorem allocateLoop_safe {I : ℕ → UInt32 → List Handle → σ → Prop}
    (hone : ∀ n stride buffers s, I (n + 1) stride buffers s →
      Safe M
        (fun r s' ↦
          (r.1 ≠ .none → Q (r.1, stride, buffers) s') ∧
            (r.1 = .none → ∃ b t, r.2 = (some b, some t) ∧
              (stride = 0 → I n t (buffers ++ [b]) s') ∧
              (stride ≠ 0 → stride ≠ t → Q (.unsupported, stride, buffers ++ [b]) s') ∧
              (stride ≠ 0 → stride = t → I n stride (buffers ++ [b]) s')))
        s one)
    (hdone : ∀ stride buffers s, I 0 stride buffers s → Q (.none, stride, buffers) s)
    {n : ℕ} {stride : UInt32} {buffers : List Handle} {s : σ} (h : I n stride buffers s) :
    Safe M Q s (allocateLoop one n stride buffers) := by
  induction n generalizing stride buffers s with
  | zero => exact hdone stride buffers s h
  | succ n ih =>
    refine (hone n stride buffers s h).bind fun ⟨error, tmpBuffer, tmpStride⟩ s' hr ↦ ?_
    dsimp only at hr ⊢
    by_cases herror : error = .none
    · obtain ⟨b, t, hbt, hfirst, hdiffers, hsame⟩ := hr.2 herror
      obtain ⟨rfl, rfl⟩ := Prod.mk.inj hbt
      rw [if_neg (not_not.2 herror), readHandle_some, ret_bind, readStride_some, ret_bind]
      split_ifs with hzero hne
      · exact ih (hfirst hzero)
      · exact hdiffers hzero hne
      · exact ih (hsame hzero (not_not.1 hne))
    · rw [if_pos herror]
      exact hr.1 herror

theorem allocateLoop_only (hone : Only P one) (hhandle : P .unwrittenHandle)
    (hstride : P .unwrittenStride) (n : ℕ) (stride : UInt32) (buffers : List Handle) :
    Only P (allocateLoop one n stride buffers) := by
  induction n generalizing stride buffers with
  | zero => trivial
  | succ n ih =>
    refine hone.bind fun ⟨error, buffer, tmpStride⟩ ↦ ?_
    dsimp only
    split
    · trivial
    · have hbuffer : Only P (readHandle buffer) := by
        cases buffer with
        | none => exact ⟨hhandle, fun _ ↦ trivial⟩
        | some b => trivial
      have htmpStride : Only P (readStride tmpStride) := by
        cases tmpStride with
        | none => exact ⟨hstride, fun _ ↦ trivial⟩
        | some s => trivial
      refine hbuffer.bind fun b ↦ htmpStride.bind fun s ↦ ?_
      split_ifs
      · exact ih s _
      · trivial
      · exact ih stride _

theorem freeLoop_only {free : Handle → Prog Unit} (h : ∀ b, Only P (free b))
    (buffers : List Handle) : Only P (freeLoop free buffers) := by
  induction buffers with
  | nil => trivial
  | cons buffer buffers ih => exact (h buffer).bind fun _ ↦ ih

end Rules

end AllocatorHal

/-! ### The service -/

namespace Allocator

/-- `Allocator::allocate`. -/
def allocate (mHal : AllocatorHal) (descriptor : BufferDescriptor) (count : UInt32) :
    Prog Unit := do
  let (error, out) ← mHal.allocateBuffers descriptor count ⟨none, []⟩
  if error ≠ .none then
    perform (.hidlCb error 0 [])
  else do
    let stride ← readStride out.stride
    let _ ← perform (.hidlCb .none stride out.buffers)
    -- free the local handles
    mHal.freeBuffers out.buffers

/-- `Allocator::dumpDebugInfo`. -/
def dumpDebugInfo (mHal : AllocatorHal) : Prog Unit := do
  let debugInfo ← mHal.dumpDebugInfo
  perform (.dumpCb debugInfo)

end Allocator

end XenvmHal
