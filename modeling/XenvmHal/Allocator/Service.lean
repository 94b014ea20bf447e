import XenvmHal.Allocator.Lifecycle

/-!
# The service

`service.cpp` has the allocator loaded once, through `HIDL_FETCH_IAllocator`, and serves it from a
pool of threads. `ServiceRun` is such a process: the loader runs to its end, and then any number
of requests, each on a thread of its own, make their device calls in any order. The one HAL object
they share is not locked. It does not have to be: no request changes it, nor what the loader has
found out about the device (`pool_serving`), so every call that was permitted right after loading is
permitted at any later moment, and goes through a pointer that the HAL has (`service_permitted`).
-/

namespace XenvmHal

open Interaction Program

namespace Allocator

/-! ### The parts of a request -/

/-- `allocate` after `allocateBuffers`: the reply, and then the local handles. -/
def reply (mHal : AllocatorHal) (r : Error × Out) : Prog Unit :=
  if r.1 ≠ .none then perform (.hidlCb r.1 0 [])
  else do
    let stride ← readStride r.2.stride
    let _ ← perform (.hidlCb .none stride r.2.buffers)
    mHal.freeBuffers r.2.buffers

theorem allocate_eq (mHal : AllocatorHal) (descriptor : BufferDescriptor) (count : UInt32) :
    allocate mHal descriptor count =
      mHal.allocateBuffers descriptor count ⟨none, []⟩ >>= reply mHal :=
  rfl

/-- The calls of a reply. -/
def IsReplyCall : Call → Prop
  | .hidlCb _ _ _ | .unwrittenStride | .release _ | .free _ => True
  | _ => False

/-- The calls with which a dump is read. -/
def IsDumpRead : Call → Prop
  | .dump _ _ | .dump0 _ | .outOfBounds => True
  | _ => False

/-- The calls of a dump. -/
def IsDumpCall : Call → Prop
  | .dump _ _ | .dump0 _ | .dumpCb _ | .outOfBounds => True
  | _ => False

theorem IsDumpRead.isDumpCall {c : Call} (h : IsDumpRead c) : IsDumpCall c := by
  cases c <;> trivial

theorem readStride_calls {P : Call → Prop} (h : P .unwrittenStride) (stride : Option UInt32) :
    Only P (readStride stride) := by
  cases stride with
  | none => exact ⟨h, fun _ ↦ trivial⟩
  | some stride => trivial

theorem freeBuffers_calls (decode : Decoder) (mHal : Hal) (buffers : List Handle) :
    Only IsReplyCall ((mHal.toAllocatorHal decode).freeBuffers buffers) := by
  cases mHal with
  | gralloc0 hal =>
    refine AllocatorHal.freeLoop_only (fun b ↦ ?_) buffers
    exact ⟨trivial, fun _ ↦ trivial⟩
  | gralloc1 hal => exact Gralloc1Hal.freeBuffers_releases buffers fun _ ↦ trivial

theorem reply_only (decode : Decoder) (mHal : Hal) (r : Error × Out) :
    Only IsReplyCall (reply (mHal.toAllocatorHal decode) r) := by
  unfold reply
  split
  · exact ⟨trivial, fun _ ↦ trivial⟩
  · exact (readStride_calls trivial _).bind fun _ ↦
      ⟨trivial, fun _ ↦ freeBuffers_calls decode mHal _⟩

theorem dumpDebugInfo_reads (decode : Decoder) (mHal : Hal) :
    Only IsDumpRead (mHal.toAllocatorHal decode).dumpDebugInfo := by
  cases mHal with
  | gralloc0 hal =>
    show Only _ hal.dumpDebugInfo
    unfold Gralloc0Hal.dumpDebugInfo
    dsimp only
    split
    · exact ⟨trivial, fun _ ↦ trivial⟩
    · trivial
  | gralloc1 hal =>
    refine ⟨trivial, fun x ↦ ⟨trivial, fun y ↦ ?_⟩⟩
    simp only [Program.bind]
    split
    · trivial
    · exact ⟨trivial, fun _ ↦ trivial⟩

theorem dumpDebugInfo_only (decode : Decoder) (mHal : Hal) :
    Only IsDumpCall (dumpDebugInfo (mHal.toAllocatorHal decode)) :=
  ((dumpDebugInfo_reads decode mHal).mono fun _ ↦ IsDumpRead.isDumpCall).bind fun _ ↦
    ⟨trivial, fun _ ↦ trivial⟩

/-! ### Concurrent requests -/

variable {ι : Type} [DecidableEq ι] {decode : Decoder} {requests : ι → Request}
  {l : List DeviceEvent} {mHal : Hal} {t : List (ι × DeviceEvent)} {q : ι → Prog Unit}

/-- Requests served concurrently, one program a request. -/
abbrev pool (decode : Decoder) (mHal : Hal) (requests : ι → Request) (i : ι) : Prog Unit :=
  serve decode mHal (requests i)

/-- **A run of the service**: the calls `l` of a loader that returned `mHal`, then the calls `t` of
the requests, with `q` left to do. -/
structure ServiceRun (decode : Decoder) (requests : ι → Request) (l : List DeviceEvent) (mHal : Hal)
    (t : List (ι × DeviceEvent)) (q : ι → Prog Unit) : Prop where
  loaded : Runs GrallocLoader.load l (some mHal)
  serving : Interleaved (pool decode mHal requests) t q

variable {v : Vendor} {s : DeviceState}

/-- Concurrent requests make permitted calls that leave the device as it is. -/
theorem pool_serving (hs : Loaded mHal s) (h : Interleaved (pool decode mHal requests) t q) :
    ∀ e ∈ t, Serving mHal s e.2.call := by
  rintro ⟨i, e⟩ he
  exact ((serve_serving hs decode (requests i)).steps (h.own i)).1 e (mem_own_iff.2 he)

theorem deviceState_append_of_serving {u : List DeviceEvent}
    (hu : ∀ e ∈ u, Serving mHal (deviceState l) e.call) :
    deviceState (l ++ u) = deviceState l := by
  induction u using List.reverseRecOn with
  | nil => rw [List.append_nil]
  | append_singleton u e ih =>
    have hlast := (hu e (by simp)).silent e.answer
    rw [deviceState, ← List.append_assoc, List.foldl_append]
    have hu := ih fun d hd ↦ hu d (List.mem_append_left _ hd)
    rw [deviceState] at hu
    rw [hu]
    exact hlast

/-- **The shared device under concurrency.** The loader's calls are permitted when they are made,
and so is every call of every request, in whatever order the threads make them: no request runs
into a closed device. The pointers that the HAL holds are those that the loader found, each call of
a request goes through one that is not null, and what the loader found is still there at any later
moment. -/
theorem service_permitted (h : ServiceRun decode requests l mHal t q) (hv : ∀ e ∈ l, v.Answers e) :
    Throughout (fun u e ↦ Permitted (deviceState u) e.call) (l ++ t.map Prod.snd) ∧
      deviceState (l ++ t.map Prod.snd) = deviceState l ∧ Loaded mHal (deviceState l) ∧
        ∀ e ∈ t, mHal.HasEntry e.2.call := by
  obtain ⟨haccepts, hspec⟩ := (GrallocLoader.load_loads (v := v)).runs h.loaded
    (Monitor.assumes_of_forall _ fun _ ↦ hv)
  have hloaded : Loaded mHal (deviceState l) := hspec.loaded mHal rfl
  have hpool := pool_serving hloaded h.serving
  have hserving : ∀ e ∈ t.map Prod.snd, Serving mHal (deviceState l) e.call :=
    List.forall_mem_map.2 hpool
  refine ⟨?_, deviceState_append_of_serving hserving, hloaded, fun e he ↦ (hpool e he).entry⟩
  rw [throughout_append_iff]
  refine ⟨(Monitor.accepts_iff_throughout _).1 haccepts, fun u e w hsplit ↦ ?_⟩
  rw [hsplit] at hserving
  rw [deviceState_append_of_serving fun d hd ↦ hserving d (List.mem_append_left _ hd)]
  exact (hserving e (by simp)).permitted

/-- Two clients: one allocates, the other asks for the debug information. -/
def twoRequests : Bool → Request
  | true => .allocate [] 1
  | false => .dumpDebugInfo

/-- What the loader makes of `layeredVendor`. -/
def layeredHal : Hal :=
  .gralloc1 ⟨some 5, true, fun _ ↦ true⟩

theorem runs_load_layered :
    Runs GrallocLoader.load (run layeredVendor.handler () GrallocLoader.load).trace
      (some layeredHal) := by
  have hvalue : (run layeredVendor.handler () GrallocLoader.load).value = some layeredHal := by
    refine congrArg (fun mDispatch ↦ some (Hal.gralloc1 ⟨some 5, true, mDispatch⟩)) ?_
    funext desc
    cases desc <;> rfl
  exact hvalue ▸ runs_run layeredVendor.handler () GrallocLoader.load

/-- The two requests, taking turns at the device. -/
def twoServed : List (Bool × DeviceEvent) :=
  (runSchedule layeredVendor.handler ()
    (pool (fun _ ↦ some ⟨64, 64, 2, 1, 0⟩) layeredHal twoRequests)
    [true, false, true, true, false, true, true, true, false, true, true, true, true, true]).1

example : twoServed.length = 14 := by decide

theorem service_permitted_two :
    let l := (run layeredVendor.handler () GrallocLoader.load).trace
    Throughout (fun u e ↦ Permitted (deviceState u) e.call) (l ++ twoServed.map Prod.snd) ∧
      deviceState (l ++ twoServed.map Prod.snd) = deviceState l ∧
        Loaded layeredHal (deviceState l) ∧ ∀ e ∈ twoServed, layeredHal.HasEntry e.2.call :=
  service_permitted ⟨runs_load_layered, interleaved_runSchedule layeredVendor.handler () _ _⟩
    (forall_mem_trace _ layeredVendor.handler_answers () _)

/-- A device of either kind that numbers the descriptors and the buffers it hands out. -/
def countingDevice : Handler Call Answer ℕ where
  answer n
    | .createDescriptor => (Gralloc1Error.none, n.toUInt64)
    | .allocate _ => (Gralloc1Error.none, n)
    | .getStride _ => (Gralloc1Error.none, 64)
    | .alloc _ _ _ _ => (0, n, 64)
    | _ => default
  next n _ := n + 1

end Allocator

end XenvmHal
