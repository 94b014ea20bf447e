import XenvmHal.Allocator.GrallocLoader
import XenvmHal.Interaction.Ownership

/-!
# Who owns a buffer

Concurrent `Allocator::allocate` requests share one HAL object and one device, without a lock.
Here the device's buffers are the resources of an ownership discipline: a successful `allocate`
or `alloc` hands one out, `release` and `free` give it back, and the reply passes buffers on.

The duty to release is split over three places: `allocateOneBuffer` (when the stride query
fails), the error path of `allocateBuffers`, and `Allocator::allocate` after the reply.
`AllocatorHal.allocateLoop_holds` carries the invariant that joins them: *the buffers a request
holds are exactly those in its vector*. One answer breaks it. A stride query answered
`GRALLOC1_ERROR_NOT_SHARED` makes `allocateOneBuffer` release the buffer and still report success,
and the caller then stores an unwritten handle (`allocate_releases_twice`). Without that answer
every interleaving is in order.
-/

namespace XenvmHal

open Interaction Program

/-- Buffers as owned resources. -/
def bufferDiscipline : Discipline Call Answer Handle where
  acquires
    | ⟨.allocate _, (error, buffer)⟩ =>
      if error = Gralloc1Error.none ∨ error = Gralloc1Error.notShared then some buffer else none
    | ⟨.alloc _ _ _ _, (result, buffer, _)⟩ => if result = 0 then some buffer else none
    | _ => none
  releases
    | .release buffer => some buffer
    | .free buffer => some buffer
    | _ => none
  uses
    | .hidlCb _ _ buffers => buffers
    | _ => []

/-- The monitor of one request: its ghost state is the list of buffers it holds. -/
abbrev bufferMonitor : Monitor Call Answer (List Handle) :=
  bufferDiscipline.monitor (bufferDiscipline.TrustedFresh StrideAnswered)

theorem acquires_allocate (d : DescriptorId) (x : Int32 × Handle) :
    bufferDiscipline.acquires ⟨.allocate d, x⟩ =
      if x.1 = Gralloc1Error.none ∨ x.1 = Gralloc1Error.notShared then some x.2 else none :=
  rfl

theorem acquires_alloc (w h format usage : Int32) (x : Int32 × Handle × Int32) :
    bufferDiscipline.acquires ⟨.alloc w h format usage, x⟩ =
      if x.1 = 0 then some x.2.1 else none :=
  rfl

/-- Giving back the buffer handed out last restores what was held before. -/
theorem erase_last {held : List Handle} {b : Handle} (hb : b ∉ held) :
    (held ++ [b]).erase b = held := by
  rw [List.erase_append_right _ hb]
  simp

/-! ### The shared loops -/

/-- What allocating one buffer does to the buffers a request holds: a success has added the
reported buffer at the end, a failure has added nothing. -/
def OneBuffer (held : List Handle) (r : Error × Option Handle × Option UInt32)
    (held' : List Handle) : Prop :=
  (r.1 = .none → ∃ b s, r.2 = (some b, some s) ∧ held' = held ++ [b]) ∧
    (r.1 ≠ .none → held' = held)

namespace AllocatorHal

/-- **The loop invariant**: a request holds exactly the buffers in its vector, in order. -/
theorem allocateLoop_holds {one : Prog (Error × Option Handle × Option UInt32)}
    (hone : ∀ held, Safe bufferMonitor (OneBuffer held) held one) (n : ℕ) (stride : UInt32)
    (buffers : List Handle) :
    Safe bufferMonitor (fun r held ↦ held = r.2.2) buffers (allocateLoop one n stride buffers) := by
  refine allocateLoop_safe (I := fun _ _ buffers held ↦ held = buffers) ?_ ?_ rfl
  · rintro n stride buffers held rfl
    refine (hone held).mono fun r held' h ↦ ⟨h.2, fun hr ↦ ?_⟩
    obtain ⟨b, t, hbt, rfl⟩ := h.1 hr
    exact ⟨b, t, hbt, fun _ ↦ rfl, fun _ _ ↦ rfl, fun _ _ ↦ rfl⟩
  · rintro stride buffers held rfl
    rfl

theorem freeLoop_safe {free : Handle → Prog Unit}
    (hfree : ∀ b held, Safe bufferMonitor (fun _ held' ↦ held' = held) (b :: held) (free b))
    (buffers : List Handle) :
    Safe bufferMonitor (fun _ held ↦ held = []) buffers (freeLoop free buffers) := by
  induction buffers with
  | nil => rfl
  | cons buffer buffers ih =>
    refine (hfree buffer buffers).bind fun _ held hheld ↦ ?_
    subst hheld
    exact ih

end AllocatorHal

/-! ### The gralloc1 back end -/

namespace Gralloc1Hal

variable (hal : Gralloc1Hal) {held : List Handle}

theorem IsConfigure.neutral {layered : Bool} {c : Call} (h : IsConfigure layered c) :
    bufferDiscipline.Neutral c := by
  cases c <;> first | exact h.elim | exact ⟨fun _ ↦ rfl, rfl, rfl⟩

theorem IsSetup.neutral {layered : Bool} {c : Call} (h : IsSetup layered c) :
    bufferDiscipline.Neutral c := by
  rcases h with rfl | h
  · exact ⟨fun _ ↦ rfl, rfl, rfl⟩
  · exact h.neutral

theorem createDescriptor_safe (info : BufferDescriptorInfo) (held : List Handle) :
    Safe bufferMonitor (fun _ held' ↦ held' = held) held (hal.createDescriptor info) :=
  Discipline.safe_of_neutral ((hal.createDescriptor_only info).mono fun _ ↦ IsSetup.neutral) held

theorem readDescriptor_safe (desc : Option DescriptorId) (held : List Handle) :
    Safe bufferMonitor (fun _ held' ↦ held' = held) held (readDescriptor desc) :=
  Discipline.safe_of_neutral
    ((readDescriptor_only desc).mono fun _ (h : IsConfigure true _) ↦ h.neutral) held

theorem allocateOneBuffer_safe (d : DescriptorId) (held : List Handle) :
    Safe bufferMonitor (OneBuffer held) held (allocateOneBuffer d) := by
  rw [allocateOneBuffer_eq]
  refine Discipline.safe_acquire rfl rfl (fun x _ hacq ↦ ?_) fun x b htrust hacq ↦ ?_
  · -- nothing was handed out: the allocation failed, with a code that `toError` does not hide
    have herror : ¬(x.1 = Gralloc1Error.none ∨ x.1 = Gralloc1Error.notShared) := by
      simpa [acquires_allocate] using hacq
    rw [if_pos (not_or.1 herror)]
    exact ⟨fun h ↦ absurd (toError_eq_none_iff.1 h) herror, fun _ ↦ rfl⟩
  · obtain ⟨herror, rfl⟩ :
        (x.1 = Gralloc1Error.none ∨ x.1 = Gralloc1Error.notShared) ∧ x.2 = b := by
      simpa [acquires_allocate] using hacq
    have hnew : x.2 ∉ held := htrust.2 _ hacq
    rw [if_neg fun h ↦ not_or.2 h herror]
    refine Discipline.safe_use rfl (fun _ ↦ rfl) (by simp [bufferDiscipline]) fun y hy ↦ ?_
    split_ifs with hquery
    · -- the stride query failed: the buffer goes back, and the code is not one `toError` hides
      refine Discipline.safe_release rfl (fun _ ↦ rfl) rfl (by simp) fun _ _ ↦ ?_
      have hne : toError y.1 ≠ .none := fun h ↦ by
        rcases toError_eq_none_iff.1 h with h | h
        · exact hquery.1 h
        · exact hy.1 h
      exact ⟨fun h ↦ absurd h hne, fun _ ↦ erase_last hnew⟩
    · exact ⟨fun _ ↦ ⟨x.2, y.2, rfl, rfl⟩, fun h ↦ absurd rfl h⟩

theorem allocateLoop_safe (desc : Option DescriptorId) (n : ℕ) (stride : UInt32)
    (buffers : List Handle) :
    Safe bufferMonitor (fun r held ↦ held = r.2.2) buffers
      (allocateLoop desc n stride buffers) := by
  refine AllocatorHal.allocateLoop_holds (fun held ↦ ?_) n stride buffers
  refine (readDescriptor_safe desc held).bind fun d held' hheld ↦ ?_
  subst hheld
  exact allocateOneBuffer_safe d held'

theorem freeBuffers_safe (buffers : List Handle) :
    Safe bufferMonitor (fun _ held ↦ held = []) buffers (freeBuffers buffers) := by
  refine AllocatorHal.freeLoop_safe (fun b held ↦ ?_) buffers
  exact Discipline.safe_release rfl (fun _ ↦ rfl) rfl List.mem_cons_self fun _ _ ↦
    List.erase_cons_head ..

theorem allocateWith_safe (desc : Option DescriptorId) (count : UInt32) :
    Safe bufferMonitor (fun r held ↦ held = r.2.buffers ∧ (r.1 ≠ .none → held = [])) []
      (allocateWith desc count ⟨none, []⟩) := by
  refine (allocateLoop_safe desc _ 0 []).bind fun ⟨error, stride, buffers⟩ held hloop ↦ ?_
  subst hloop
  refine (readDescriptor_safe desc _).bind fun d held hkeep ↦ ?_
  subst hkeep
  refine Discipline.safe_use rfl (fun _ ↦ rfl) (by simp [bufferDiscipline]) fun _ _ ↦ ?_
  split
  · refine (freeBuffers_safe held).bind fun _ held' hfree ↦ ?_
    subst hfree
    exact ⟨rfl, fun _ ↦ rfl⟩
  · exact ⟨rfl, fun h ↦ absurd rfl h⟩

theorem allocateBuffers_safe (decode : Decoder) (descriptor : BufferDescriptor) (count : UInt32) :
    Safe bufferMonitor (fun r held ↦ held = r.2.buffers ∧ (r.1 ≠ .none → held = [])) []
      (hal.allocateBuffers decode descriptor count ⟨none, []⟩) := by
  unfold allocateBuffers
  rcases decode descriptor with - | info
  · exact ⟨rfl, fun _ ↦ rfl⟩
  · refine (hal.createDescriptor_safe info []).bind fun ⟨error, desc⟩ held hnil ↦ ?_
    subst hnil
    dsimp only
    split
    · exact ⟨rfl, fun _ ↦ rfl⟩
    · exact allocateWith_safe desc count

end Gralloc1Hal

/-! ### The gralloc0 back end -/

namespace Gralloc0Hal

theorem allocateOneBuffer_safe (info : BufferDescriptorInfo) (held : List Handle) :
    Safe bufferMonitor (OneBuffer held) held (allocateOneBuffer info) := by
  by_cases hinfo : Unsupported info
  · rw [allocateOneBuffer, if_pos hinfo]
    exact ⟨Error.noConfusion, fun _ ↦ rfl⟩
  · rw [allocateOneBuffer_eq hinfo]
    refine Discipline.safe_acquire rfl rfl (fun x _ hacq ↦ ?_) fun x b _ hacq ↦ ?_
    · have hresult : x.1 ≠ 0 := by simpa [acquires_alloc] using hacq
      rw [if_neg hresult]
      split
      · exact ⟨Error.noConfusion, fun _ ↦ rfl⟩
      · exact ⟨Error.noConfusion, fun _ ↦ rfl⟩
    · obtain ⟨hresult, rfl⟩ : x.1 = 0 ∧ x.2.1 = b := by simpa [acquires_alloc] using hacq
      rw [if_pos hresult]
      exact ⟨fun _ ↦ ⟨x.2.1, _, rfl, rfl⟩, fun h ↦ absurd rfl h⟩

theorem freeBuffers_safe (buffers : List Handle) :
    Safe bufferMonitor (fun _ held ↦ held = []) buffers (freeBuffers buffers) := by
  refine AllocatorHal.freeLoop_safe (fun b held ↦ ?_) buffers
  exact Discipline.safe_release rfl (fun _ ↦ rfl) rfl List.mem_cons_self fun _ _ ↦
    List.erase_cons_head ..

theorem allocateBuffers_safe (decode : Decoder) (descriptor : BufferDescriptor) (count : UInt32) :
    Safe bufferMonitor (fun r held ↦ held = r.2.buffers ∧ (r.1 ≠ .none → held = [])) []
      (allocateBuffers decode descriptor count ⟨none, []⟩) := by
  unfold allocateBuffers
  rcases decode descriptor with - | info
  · exact ⟨rfl, fun _ ↦ rfl⟩
  · refine (AllocatorHal.allocateLoop_holds (allocateOneBuffer_safe info) _ 0 []).bind
      fun ⟨error, stride, buffers⟩ held hloop ↦ ?_
    subst hloop
    dsimp only
    split
    · refine (freeBuffers_safe held).bind fun _ held' hfree ↦ ?_
      subst hfree
      exact ⟨rfl, fun _ ↦ rfl⟩
    · exact ⟨rfl, fun h ↦ absurd rfl h⟩

end Gralloc0Hal

/-! ### The service -/

/-- What the service relies on: `allocateBuffers` leaves the request holding exactly the buffers
it reports, none of them on an error, and `freeBuffers` gives back what it is passed. -/
structure AllocatorHal.Disciplined (mHal : AllocatorHal) : Prop where
  allocateBuffers : ∀ descriptor count,
    Safe bufferMonitor (fun r held ↦ held = r.2.buffers ∧ (r.1 ≠ .none → held = [])) []
      (mHal.allocateBuffers descriptor count ⟨none, []⟩)
  freeBuffers : ∀ buffers,
    Safe bufferMonitor (fun _ held ↦ held = []) buffers (mHal.freeBuffers buffers)

theorem Hal.disciplined (decode : Decoder) (mHal : Hal) :
    (mHal.toAllocatorHal decode).Disciplined := by
  cases mHal with
  | gralloc0 hal => exact ⟨Gralloc0Hal.allocateBuffers_safe decode, Gralloc0Hal.freeBuffers_safe⟩
  | gralloc1 hal => exact ⟨hal.allocateBuffers_safe decode, Gralloc1Hal.freeBuffers_safe⟩

namespace Allocator

theorem readStride_neutral (stride : Option UInt32) :
    Only bufferDiscipline.Neutral (readStride stride) := by
  cases stride with
  | none => exact ⟨⟨fun _ ↦ rfl, rfl, rfl⟩, fun _ ↦ trivial⟩
  | some stride => trivial

/-- **One request**, alone, gives back what it is handed and replies with what it holds. -/
theorem allocate_safe {mHal : AllocatorHal} (h : mHal.Disciplined) (descriptor : BufferDescriptor)
    (count : UInt32) :
    Safe bufferMonitor (fun _ held ↦ held = []) [] (allocate mHal descriptor count) := by
  refine (h.allocateBuffers descriptor count).bind fun ⟨error, out⟩ held ⟨hheld, hnil⟩ ↦ ?_
  dsimp only at hheld hnil ⊢
  split
  · rename_i herror
    rw [hnil herror]
    exact Discipline.safe_use rfl (fun _ ↦ rfl) (by simp [bufferDiscipline]) fun _ _ ↦ rfl
  · subst hheld
    refine (Discipline.safe_of_neutral (readStride_neutral out.stride) out.buffers).bind
      fun stride held hkeep ↦ ?_
    subst hkeep
    exact Discipline.safe_use rfl (fun _ ↦ rfl) (fun r hr ↦ hr) fun _ _ ↦ h.freeBuffers _

/-- **Buffer ownership over any interleaving.** Any number of requests, in any order of their
device calls, on one HAL: as long as no stride query is answered `GRALLOC1_ERROR_NOT_SHARED`,
every buffer is released exactly once, by the request it was handed to, and not before the reply
that carries it. -/
theorem allocate_owned {ι : Type} [DecidableEq ι] (decode : Decoder) (mHal : Hal)
    (descriptor : ι → BufferDescriptor) (count : ι → UInt32) {t : List (ι × DeviceEvent)}
    {q : ι → Prog Unit}
    (h : Interleaved
      (fun i ↦ allocate (mHal.toAllocatorHal decode) (descriptor i) (count i)) t q)
    (hfresh : Throughout bufferDiscipline.Fresh t) (hstride : ∀ e ∈ t, StrideAnswered e.2) :
    bufferDiscipline.Owned t q :=
  h.owned (fun i ↦ allocate_safe (mHal.disciplined decode) (descriptor i) (count i)) hfresh hstride

/-- A gralloc1 device that hands out 1, 2, 3, … and answers the stride query of `b` with
`strideCode b`; an unwritten handle variable still holds the first buffer. -/
def numberingDevice (strideCode : Handle → Int32) : Handler Call Answer ℕ where
  answer n
    | .createDescriptor => (Gralloc1Error.none, 7)
    | .allocate _ => (Gralloc1Error.none, n + 1)
    | .getStride b => (strideCode b, 64)
    | .unwrittenHandle => (1 : ℕ)
    | .unwrittenStride => (64 : UInt32)
    | _ => default
  next n
    | .allocate _ => n + 1
    | _ => n

/-- A request for two buffers, served by a gralloc1 HAL. -/
def twoBuffers : Prog Unit :=
  allocate ((Hal.gralloc1 ⟨some 1, true, fun _ ↦ true⟩).toAllocatorHal
    fun _ ↦ some ⟨64, 64, 1, 1, 0⟩) [] 2

/-- Two clients that want two buffers each, taking turns at the device until both have their
reply; only the first one releases. -/
def twoServing : List (Bool × DeviceEvent) × (Bool → Prog Unit) :=
  runSchedule (numberingDevice fun _ ↦ Gralloc1Error.none) 0 (fun _ ↦ twoBuffers)
    [true, false, true, false, true, false, true, false, true, false, true, false, true, false,
      false, true, true, false, false, true, true, false, true, false, true, true]

theorem allocate_owned_two : bufferDiscipline.Owned twoServing.1 twoServing.2 :=
  allocate_owned (fun _ ↦ some ⟨64, 64, 1, 1, 0⟩) (Hal.gralloc1 ⟨some 1, true, fun _ ↦ true⟩)
    (fun _ ↦ []) (fun _ ↦ 2) (interleaved_runSchedule _ _ _ _) (by decide) (by decide)

/-- **The defect.** The second stride query is answered `GRALLOC1_ERROR_NOT_SHARED`: its buffer is
released, success is reported, and the caller's variable still holds the first buffer, which is
then released twice. -/
theorem allocate_releases_twice :
    ∃ (t : List (Unit × DeviceEvent)) (q : Unit → Prog Unit),
      Interleaved (fun _ ↦ twoBuffers) t q ∧ Throughout bufferDiscipline.Fresh t ∧
        q () = ret () ∧ (bufferDiscipline.ledger t).stray = [((), 1)] ∧
          ¬bufferDiscipline.Owned t q := by
  let device := numberingDevice fun b ↦ if b = 2 then Gralloc1Error.notShared else 0
  refine ⟨(run device 0 twoBuffers).trace.map ((), ·), _,
    Interleaved.solo (runs_run _ 0 twoBuffers), by decide, rfl, by decide, fun h ↦ ?_⟩
  have hstray := h.no_stray
  revert hstray
  decide

end Allocator

end XenvmHal
