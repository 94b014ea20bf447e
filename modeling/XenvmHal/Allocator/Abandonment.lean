import XenvmHal.Allocator.BufferOwnership
import XenvmHal.Allocator.DescriptorState

/-!
# Abandoned operations

When a set-up call or a stride query fails, the gralloc1 back end destroys the descriptor or
releases the buffer and returns without writing its out parameter. That is a failure by the raw
code. Whether the caller learns of it is decided by `toError`, which makes a success of
`GRALLOC1_ERROR_NOT_SHARED`.

Each of the three methods keeps its promise in exactly the runs without that answer
(`keepsPromises_iff`): `createDescriptor` hands out a descriptor that is alive, `allocateOneBuffer`
a buffer that was not released, and `allocateBuffers` reads no variable that was not written and
replies with buffers it still has.
-/

namespace XenvmHal

open Interaction Program

/-! ### What success promises -/

/-- Reads of a local variable that nothing has written. -/
def ReadsUnwritten : Call → Prop
  | .unwrittenHandle | .unwrittenStride | .unwrittenDescriptor => True
  | _ => False

/-- The device handed the buffer out, and it was not released. -/
structure Obtained (t : List DeviceEvent) (buffer : Handle) : Prop where
  handed : ∃ e ∈ t, bufferDiscipline.acquires e = some buffer
  kept : ∀ e ∈ t, bufferDiscipline.releases e.call ≠ some buffer

/-- **What a success of `createDescriptor` promises.** -/
def HandsOutDescriptor (t : List DeviceEvent) (r : Error × Option DescriptorId) : Prop :=
  r.1 = .none → ∃ d, r.2 = some d ∧ descriptorMonitor.after [] t = [d]

/-- **What a success of `allocateOneBuffer` promises.** -/
def HandsOutBuffer (t : List DeviceEvent) (r : Error × Option Handle × Option UInt32) : Prop :=
  r.1 = .none → ∃ buffer stride, r.2 = (some buffer, some stride) ∧ Obtained t buffer

/-- An unwritten descriptor is read only to destroy the one that was refused: nothing but the
call that creates a descriptor was made so far. -/
def OnlyAfterRefusal (u : List DeviceEvent) (e : DeviceEvent) : Prop :=
  e.call = .unwrittenDescriptor → u.map Event.call = [.createDescriptor]

instance (u : List DeviceEvent) (e : DeviceEvent) : Decidable (OnlyAfterRefusal u e) :=
  inferInstanceAs (Decidable (_ → _))

/-- **What `allocateBuffers` promises**: it does not go on with an unwritten descriptor, puts no
unwritten handle or stride into its results, and replies with buffers it still has. -/
structure RepliesInOrder (t : List DeviceEvent) (r : Error × Out) : Prop where
  descriptor : Throughout OnlyAfterRefusal t
  written : ∀ e ∈ t, e.call ≠ .unwrittenHandle ∧ e.call ≠ .unwrittenStride
  reply : r.1 = .none → ∀ buffer ∈ r.2.buffers, Obtained t buffer

/-- The monitor of a part that reads no unwritten variable, as long as the answers satisfy `P`. -/
abbrev writtenMonitor (P : DeviceEvent → Prop) : Monitor Call Answer (List DeviceEvent) :=
  .history (fun _ c ↦ ¬ReadsUnwritten c) fun _ e ↦ P e

theorem writtenMonitor_accepts {P : DeviceEvent → Prop} {s t : List DeviceEvent}
    (h : (writtenMonitor P).Accepts s t) : ∀ e ∈ t, ¬ReadsUnwritten e.call :=
  throughout_const_iff.1 ((writtenMonitor P).accepts_iff_throughout.1 h)

namespace Gralloc1Hal

variable (hal : Gralloc1Hal) {info : BufferDescriptorInfo} {t : List DeviceEvent}

/-! ### Setting a descriptor up -/

/-- The setter chain remembers `GRALLOC1_ERROR_NOT_SHARED`. -/
def Remembers (error : Int32) (t : List DeviceEvent) : Prop :=
  (∀ e ∈ t, SetUpAnswered e) ↔ error ≠ Gralloc1Error.notShared

theorem onSuccess_remembers {error : Int32} {step : Prog Int32} (h : Remembers error t)
    (hstep : Remembers Gralloc1Error.none t →
      Safe (writtenMonitor fun _ ↦ True) Remembers t step) :
    Safe (writtenMonitor fun _ ↦ True) Remembers t (onSuccess error step) := by
  unfold onSuccess
  split
  · rename_i hnone
    exact hstep (hnone ▸ h)
  · exact h

theorem setter_remembers {c : Call} {k : Answer c → Prog Int32} (hc : ¬ReadsUnwritten c)
    (hk : ∀ x, ∃ code, k x = ret code ∧
      (SetUpAnswered ⟨c, x⟩ ↔ code ≠ Gralloc1Error.notShared))
    (h : Remembers Gralloc1Error.none t) :
    Safe (writtenMonitor fun _ ↦ True) Remembers t (Program.call c k) := by
  refine ⟨hc, fun x _ ↦ ?_⟩
  obtain ⟨code, hcode, hanswered⟩ := hk x
  have ht : ∀ e ∈ t, SetUpAnswered e := h.2 (by decide)
  rw [hcode]
  show (∀ e ∈ t ++ [⟨c, x⟩], SetUpAnswered e) ↔ code ≠ Gralloc1Error.notShared
  rw [List.forall_mem_append, List.forall_mem_singleton, hanswered]
  exact and_iff_right ht

theorem setLayerCount_remembers (d : DescriptorId) (layerCount : UInt32)
    (h : Remembers Gralloc1Error.none t) :
    Safe (writtenMonitor fun _ ↦ True) Remembers t (hal.setLayerCount (some d) layerCount) := by
  have ht : ∀ e ∈ t, SetUpAnswered e := h.2 (by decide)
  unfold setLayerCount
  split_ifs
  · exact setter_remembers id (fun x ↦ ⟨x, rfl, Iff.rfl⟩) h
  · exact iff_of_true ht (by decide)
  · exact h

/-- A descriptor that is abandoned for `GRALLOC1_ERROR_NOT_SHARED` is a success with nothing. -/
theorem finishDescriptor_remembers {error : Int32} (d : DescriptorId) (h : Remembers error t) :
    Safe (writtenMonitor fun _ ↦ True)
      (fun r t' ↦ (¬∀ e ∈ t', SetUpAnswered e) → r = (.none, none)) t
      (finishDescriptor error (some d)) := by
  unfold finishDescriptor
  split
  · rename_i hnone
    have hne : error ≠ Gralloc1Error.notShared := by
      rw [hnone]
      decide
    exact fun hshared ↦ absurd (h.2 hne) hshared
  · refine ⟨id, fun x _ hshared ↦ ?_⟩
    have herror : error = Gralloc1Error.notShared := by
      by_contra hne
      refine hshared fun e he ↦ ?_
      rcases List.mem_append.1 he with he | he
      · exact h.2 hne e he
      · obtain rfl := List.mem_singleton.1 he
        trivial
    rw [herror]
    rfl

/-- **The setter chain on a descriptor that exists** reads no unwritten variable, and after
`GRALLOC1_ERROR_NOT_SHARED` it reports success with nothing. -/
theorem configureDescriptor_remembers (d : DescriptorId) (h : Remembers Gralloc1Error.none t) :
    Safe (writtenMonitor fun _ ↦ True)
      (fun r t' ↦ (¬∀ e ∈ t', SetUpAnswered e) → r = (.none, none)) t
      (hal.configureDescriptor info Gralloc1Error.none (some d)) := by
  refine (onSuccess_remembers h fun h ↦ ?_).bind fun error t h ↦ ?_
  · exact setter_remembers id (fun x ↦ ⟨x, rfl, Iff.rfl⟩) h
  refine (onSuccess_remembers h fun h ↦ ?_).bind fun error t h ↦ ?_
  · exact setter_remembers id (fun x ↦ ⟨x, rfl, Iff.rfl⟩) h
  refine (onSuccess_remembers h (hal.setLayerCount_remembers d _)).bind fun error t h ↦ ?_
  refine (onSuccess_remembers h fun h ↦ ?_).bind fun error t h ↦ ?_
  · exact setter_remembers id (fun x ↦ ⟨x, rfl, Iff.rfl⟩) h
  refine (onSuccess_remembers h fun h ↦ ?_).bind fun error t h ↦ ?_
  · exact setter_remembers id (fun x ↦ ⟨x, rfl, Iff.rfl⟩) h
  exact finishDescriptor_remembers d h

/-! ### The three promises -/

/-- **The run of `createDescriptor`**: either a descriptor is created and the chain runs, or it is
refused, destroyed all the same, and the code passed on. -/
theorem createDescriptor_cases {r : Error × Option DescriptorId}
    (h : Runs (hal.createDescriptor info) t r) :
    ∃ x : Int32 × DescriptorId,
      (x.1 = Gralloc1Error.none ∧ ∃ u, t = ⟨.createDescriptor, x⟩ :: u ∧
          Runs (hal.configureDescriptor info Gralloc1Error.none (some x.2)) u r) ∨
        (x.1 ≠ Gralloc1Error.none ∧ r = (toError x.1, none) ∧ ∃ d code,
          t = [⟨.createDescriptor, x⟩, ⟨.unwrittenDescriptor, d⟩,
            ⟨.destroyDescriptor d, code⟩]) := by
  rw [createDescriptor_eq, runs_call_iff] at h
  obtain ⟨x, u, rfl, h⟩ := h
  refine ⟨x, ?_⟩
  by_cases hcreate : x.1 = Gralloc1Error.none
  · rw [if_pos hcreate, hcreate] at h
    exact .inl ⟨hcreate, u, rfl, h⟩
  · rw [if_neg hcreate, hal.configureDescriptor_of_error info hcreate, finishDescriptor,
      if_neg hcreate, readDescriptor_none, perform_bind, runs_call_iff] at h
    obtain ⟨d, v, rfl, h⟩ := h
    rw [perform_bind, runs_call_iff] at h
    obtain ⟨code, w, rfl, h⟩ := h
    obtain ⟨rfl, rfl⟩ := runs_ret_iff.1 h
    exact .inr ⟨hcreate, rfl, d, code, rfl⟩

/-- **An abandoned set-up is reported as a success** when it was abandoned for
`GRALLOC1_ERROR_NOT_SHARED`. -/
theorem createDescriptor_shared {r : Error × Option DescriptorId}
    (h : Runs (hal.createDescriptor info) t r) (hshared : ¬∀ e ∈ t, SetUpAnswered e) :
    r = (.none, none) := by
  obtain ⟨x, ⟨hcreate, u, rfl, hu⟩ | ⟨hcreate, rfl, d, code, rfl⟩⟩ := hal.createDescriptor_cases h
  · have hstart : Remembers Gralloc1Error.none [⟨.createDescriptor, x⟩] := by
      refine iff_of_true (List.forall_mem_singleton.2 ?_) (by decide)
      show x.1 ≠ Gralloc1Error.notShared
      rw [hcreate]
      decide
    have hpost := ((hal.configureDescriptor_remembers x.2 hstart).runs hu
      (Monitor.assumes_of_forall _ fun _ _ _ ↦ trivial)).2
    rw [Monitor.history_after] at hpost
    exact hpost hshared
  · have hcode : x.1 = Gralloc1Error.notShared := by
      by_contra hne
      refine hshared ?_
      rw [List.forall_mem_cons, List.forall_mem_cons, List.forall_mem_singleton]
      exact ⟨hne, trivial, trivial⟩
    rw [hcode]
    rfl

/-- A set-up that is not abandoned for that code hands out a descriptor that is alive. -/
theorem createDescriptor_handsOut {r : Error × Option DescriptorId}
    (h : Runs (hal.createDescriptor info) t r) (hanswered : ∀ e ∈ t, SetUpAnswered e) :
    HandsOutDescriptor t r := by
  intro hr
  obtain ⟨x, ⟨hcreate, u, rfl, hu⟩ | ⟨hcreate, rfl, d, code, rfl⟩⟩ := hal.createDescriptor_cases h
  · have hcreated : ∀ e ∈ u, CreateSucceeds e := fun e he ↦
      createSucceeds_of_calls (.inl (((hal.configureDescriptor_only _ _ _).steps hu).1 e he))
    obtain ⟨hnone, -⟩ := ((hal.configureDescriptor_safe info x.2).runs hu
      (Monitor.assumes_of_forall _ fun _ e he ↦
        ⟨hcreated e he, hanswered e (List.mem_cons_of_mem _ he)⟩)).2
    obtain ⟨hd, halive⟩ := hnone hr
    have hfirst : descriptorMonitor.next [] ⟨.createDescriptor, x⟩ = [x.2] := by
      simp [descriptorDiscipline, Discipline.monitor, Discipline.next, hcreate]
    refine ⟨x.2, hd, ?_⟩
    rw [Monitor.after_cons, hfirst]
    exact halive
  · have hcode : x.1 ≠ Gralloc1Error.notShared := hanswered _ List.mem_cons_self
    exact absurd (toError_eq_none_iff.1 hr) (not_or.2 ⟨hcreate, hcode⟩)

theorem handsOutDescriptor_iff {r : Error × Option DescriptorId}
    (h : Runs (hal.createDescriptor info) t r) :
    HandsOutDescriptor t r ↔ ∀ e ∈ t, SetUpAnswered e := by
  refine ⟨fun hout ↦ ?_, hal.createDescriptor_handsOut h⟩
  by_contra hshared
  obtain rfl := hal.createDescriptor_shared h hshared
  obtain ⟨d, hd, -⟩ := hout rfl
  cases hd

/-- Setting a descriptor up takes at least two calls, and reads an unwritten variable only to
destroy the descriptor that was refused. -/
theorem createDescriptor_reads {r : Error × Option DescriptorId}
    (h : Runs (hal.createDescriptor info) t r) : 2 ≤ t.length ∧ Throughout OnlyAfterRefusal t := by
  obtain ⟨x, ⟨-, u, rfl, hu⟩ | ⟨-, rfl, d, code, rfl⟩⟩ := hal.createDescriptor_cases h
  · have hstart : Remembers Gralloc1Error.none [] := iff_of_true (by simp) (by decide)
    have hreads := writtenMonitor_accepts ((hal.configureDescriptor_remembers x.2 hstart).runs hu
      (Monitor.assumes_of_forall _ fun _ _ _ ↦ trivial)).1
    have hne : u ≠ [] := by
      rintro rfl
      cases hu
    refine ⟨Nat.succ_le_succ (List.length_pos_of_ne_nil hne), fun v e w hsplit hcall ↦ ?_⟩
    have he : e ∈ ⟨.createDescriptor, x⟩ :: u := hsplit ▸ by simp
    rcases List.mem_cons.1 he with rfl | he
    · cases hcall
    · exact absurd (hcall ▸ trivial) (hreads e he)
  · refine ⟨Nat.le_succ 2, ?_⟩
    show Throughout OnlyAfterRefusal ([] ++ [⟨.createDescriptor, x⟩] ++
      [⟨.unwrittenDescriptor, d⟩] ++ [⟨.destroyDescriptor d, code⟩])
    rw [throughout_snoc_iff, throughout_snoc_iff, throughout_snoc_iff]
    exact ⟨⟨⟨throughout_nil, nofun⟩, fun _ ↦ rfl⟩, nofun⟩

/-- **An abandoned buffer is reported as a success** when it was abandoned for
`GRALLOC1_ERROR_NOT_SHARED`. -/
theorem allocateOneBuffer_shared {d : DescriptorId} {r : Error × Option Handle × Option UInt32}
    (h : Runs (allocateOneBuffer d) t r) (hshared : ¬∀ e ∈ t, StrideAnswered e) :
    r = (.none, none, none) := by
  rw [allocateOneBuffer_eq, runs_call_iff] at h
  obtain ⟨x, u, rfl, h⟩ := h
  split at h
  · obtain ⟨rfl, -⟩ := runs_ret_iff.1 h
    exact absurd (List.forall_mem_singleton.2 trivial) hshared
  · obtain ⟨y, v, rfl, hy⟩ := runs_call_iff.1 h
    split at hy
    · obtain ⟨code, w, rfl, hcode⟩ := runs_call_iff.1 hy
      obtain ⟨rfl, rfl⟩ := runs_ret_iff.1 hcode
      have hy : y.1 = Gralloc1Error.notShared := by
        by_contra hne
        refine hshared ?_
        rw [List.forall_mem_cons, List.forall_mem_cons, List.forall_mem_singleton]
        exact ⟨trivial, hne, trivial⟩
      rw [hy]
      rfl
    · rename_i hquery
      obtain ⟨rfl, rfl⟩ := runs_ret_iff.1 hy
      refine absurd ?_ hshared
      rw [List.forall_mem_cons, List.forall_mem_singleton]
      refine ⟨trivial, fun (hne : y.1 = Gralloc1Error.notShared) ↦ hquery ?_⟩
      rw [hne]
      decide

/-- A query that is not abandoned for that code hands out a buffer that is not released. The
history before it has no release either. -/
theorem allocateOneBuffer_safe_obtained {d : DescriptorId}
    (hkept : ∀ e ∈ t, bufferDiscipline.releases e.call = none) :
    Safe (writtenMonitor StrideAnswered)
      (fun r t' ↦ r.1 = .none → ∃ buffer stride, r.2 = (some buffer, some stride) ∧ t <+: t' ∧
        (∃ e ∈ t', bufferDiscipline.acquires e = some buffer) ∧
          ∀ e ∈ t', bufferDiscipline.releases e.call = none)
      t (allocateOneBuffer d) := by
  rw [allocateOneBuffer_eq]
  refine ⟨id, fun x _ ↦ ?_⟩
  dsimp only
  split
  · rename_i herror
    exact fun hr ↦ absurd (toError_eq_none_iff.1 hr) (not_or.2 herror)
  · rename_i hallocated
    refine ⟨id, fun y hy ↦ ?_⟩
    dsimp only
    split
    · rename_i herror
      refine ⟨id, fun _ _ hr ↦ ?_⟩
      exact ((toError_eq_none_iff.1 hr).elim herror.1 hy).elim
    · refine fun _ ↦ ⟨x.2, y.2, rfl, ⟨_, (List.append_assoc ..).symm⟩, ?_, ?_⟩
      · refine ⟨⟨.allocate d, x⟩, by simp [Monitor.history], ?_⟩
        rw [acquires_allocate, if_pos]
        tauto
      · simp only [Monitor.history]
        rw [List.forall_mem_append, List.forall_mem_append, List.forall_mem_singleton,
          List.forall_mem_singleton]
        exact ⟨⟨hkept, rfl⟩, rfl⟩

theorem handsOutBuffer_iff {d : DescriptorId} {r : Error × Option Handle × Option UInt32}
    (h : Runs (allocateOneBuffer d) t r) :
    HandsOutBuffer t r ↔ ∀ e ∈ t, StrideAnswered e := by
  constructor
  · intro hout
    by_contra hshared
    obtain rfl := allocateOneBuffer_shared h hshared
    obtain ⟨buffer, stride, hr, -⟩ := hout rfl
    cases hr
  · intro hanswered hr
    have hpost := ((allocateOneBuffer_safe_obtained (List.forall_mem_nil _)).runs h
      (Monitor.assumes_of_forall _ fun _ ↦ hanswered)).2
    rw [Monitor.history_after, List.nil_append] at hpost
    obtain ⟨buffer, stride, hr, -, hhanded, hkept⟩ := hpost hr
    exact ⟨buffer, stride, hr, hhanded, fun e he ↦ by simp [hkept e he]⟩

/-! ### A whole request -/

/-- What the loop keeps: its buffers were handed out, and nothing was released. -/
def Keeps (buffers : List Handle) (t : List DeviceEvent) : Prop :=
  (∀ buffer ∈ buffers, ∃ e ∈ t, bufferDiscipline.acquires e = some buffer) ∧
    ∀ e ∈ t, bufferDiscipline.releases e.call = none

theorem Keeps.obtained {buffers : List Handle} (h : Keeps buffers t) :
    ∀ buffer ∈ buffers, Obtained t buffer :=
  fun buffer hbuffer ↦ ⟨h.1 buffer hbuffer, fun e he ↦ by simp [h.2 e he]⟩

theorem allocateLoop_keeps_obtained {buffers : List Handle} (h : Keeps buffers t) (d : DescriptorId)
    (n : ℕ) (stride : UInt32) :
    Safe (writtenMonitor StrideAnswered) (fun r t' ↦ r.1 = .none → Keeps r.2.2 t') t
      (allocateLoop (some d) n stride buffers) := by
  refine AllocatorHal.allocateLoop_safe (I := fun _ _ buffers t' ↦ Keeps buffers t') ?_
    (fun _ _ _ h _ ↦ h) h
  intro n stride buffers t h
  refine (allocateOneBuffer_safe_obtained h.2).mono fun r t' hr ↦
    ⟨fun hne hnone ↦ absurd hnone hne, fun hnone ↦ ?_⟩
  obtain ⟨buffer, bufferStride, hout, hprefix, hhanded, hkept⟩ := hr hnone
  have hkeeps : Keeps (buffers ++ [buffer]) t' := by
    refine ⟨?_, hkept⟩
    rw [List.forall_mem_append, List.forall_mem_singleton]
    refine ⟨fun b hb ↦ ?_, hhanded⟩
    obtain ⟨e, he, hacquires⟩ := h.1 b hb
    exact ⟨e, hprefix.subset he, hacquires⟩
  exact ⟨buffer, bufferStride, hout, fun _ ↦ hkeeps, fun _ _ ↦ nofun, fun _ _ ↦ hkeeps⟩

/-- **A request with a descriptor** reads no unwritten variable and replies with what it keeps. -/
theorem allocateWith_keeps (h : Keeps [] t) (d : DescriptorId) (count : UInt32) (out : Out) :
    Safe (writtenMonitor StrideAnswered) (fun r t' ↦ r.1 = .none → Keeps r.2.buffers t') t
      (allocateWith (some d) count out) := by
  refine (allocateLoop_keeps_obtained h d _ 0).bind fun ⟨error, stride, buffers⟩ t hkeeps ↦ ?_
  dsimp only at hkeeps
  refine ⟨id, fun code _ ↦ ?_⟩
  split
  · rename_i herror
    have hfree : Only (fun c ↦ ¬ReadsUnwritten c) (freeBuffers buffers) :=
      freeBuffers_releases buffers fun _ ↦ id
    refine (hfree.safe_of_invariant (I := fun _ ↦ True) (fun _ _ _ hc ↦ hc)
      (fun _ _ _ _ _ _ ↦ trivial) trivial).bind fun _ _ _ ↦ ?_
    exact fun hnone ↦ absurd hnone herror
  · rename_i hnone
    obtain ⟨hhanded, hkept⟩ := hkeeps (not_not.1 hnone)
    refine fun _ ↦ ⟨fun buffer hbuffer ↦ ?_, ?_⟩
    · obtain ⟨e, he, hacquires⟩ := hhanded buffer hbuffer
      exact ⟨e, List.mem_append_left _ he, hacquires⟩
    · show ∀ e ∈ t ++ [⟨.destroyDescriptor d, code⟩], bufferDiscipline.releases e.call = none
      rw [List.forall_mem_append, List.forall_mem_singleton]
      exact ⟨hkept, rfl⟩

end Gralloc1Hal

namespace AllocatorHal

theorem readHandle_only (buffer : Option Handle) : Only ReadsUnwritten (readHandle buffer) := by
  cases buffer with
  | none => exact ⟨trivial, fun _ ↦ trivial⟩
  | some b => trivial

theorem readStride_only (stride : Option UInt32) : Only ReadsUnwritten (readStride stride) := by
  cases stride with
  | none => exact ⟨trivial, fun _ ↦ trivial⟩
  | some s => trivial

/-- **An iteration that succeeds with nothing** stores an unwritten handle. -/
theorem allocateLoop_reads {one : Prog (Error × Option Handle × Option UInt32)}
    {P : DeviceEvent → Prop}
    (hone : ∀ t r, Runs one t r → (¬∀ e ∈ t, P e) → r = (.none, none, none))
    (hread : ∀ e : DeviceEvent, ReadsUnwritten e.call → P e) {n : ℕ} {stride : UInt32}
    {buffers : List Handle} {t : List DeviceEvent} {r : Error × UInt32 × List Handle}
    (h : Runs (allocateLoop one n stride buffers) t r) (hP : ¬∀ e ∈ t, P e) :
    ∃ e ∈ t, e.call = .unwrittenHandle := by
  induction n generalizing stride buffers t with
  | zero =>
    obtain ⟨rfl, -⟩ := runs_ret_iff.1 h
    exact absurd (List.forall_mem_nil _) hP
  | succ n ih =>
    obtain ⟨u, v, ⟨error, tmpBuffer, tmpStride⟩, rfl, hu, hv⟩ := runs_bind_iff.1 h
    dsimp only at hv
    by_cases hP' : ∀ e ∈ u, P e
    · -- this iteration is in order: the event is in a later one
      rw [List.forall_mem_append, not_and] at hP
      specialize hP hP'
      split at hv
      · obtain ⟨rfl, -⟩ := runs_ret_iff.1 hv
        exact absurd (List.forall_mem_nil _) hP
      · obtain ⟨v₁, v₂, b, rfl, hv₁, hv₂⟩ := runs_bind_iff.1 hv
        obtain ⟨v₃, v₄, s, rfl, hv₃, hv₄⟩ := runs_bind_iff.1 hv₂
        have h₁ : ∀ e ∈ v₁, P e := fun e he ↦ hread e (((readHandle_only _).steps hv₁).1 e he)
        have h₃ : ∀ e ∈ v₃, P e := fun e he ↦ hread e (((readStride_only _).steps hv₃).1 e he)
        rw [List.forall_mem_append, not_and, List.forall_mem_append, not_and] at hP
        specialize hP h₁ h₃
        have hrest : ∃ e ∈ v₄, e.call = .unwrittenHandle := by
          split_ifs at hv₄
          · exact ih hv₄ hP
          · obtain ⟨rfl, -⟩ := runs_ret_iff.1 hv₄
            exact absurd (List.forall_mem_nil _) hP
          · exact ih hv₄ hP
        obtain ⟨e, he, hcall⟩ := hrest
        exact ⟨e, by simp [he], hcall⟩
    · obtain ⟨rfl, rfl, rfl⟩ : error = .none ∧ tmpBuffer = none ∧ tmpStride = none := by
        simpa using hone u _ hu hP'
      rw [if_neg (not_not.2 rfl)] at hv
      obtain ⟨b, v', rfl, -⟩ := runs_call_iff.1 hv
      exact ⟨⟨.unwrittenHandle, b⟩, by simp, rfl⟩

end AllocatorHal

namespace Gralloc1Hal

variable (decode : Decoder) (hal : Gralloc1Hal) {t : List DeviceEvent}

/-- What is left of a request makes no set-up call. -/
theorem allocateWith_setUpAnswered {desc : Option DescriptorId} {count : UInt32} {out : Out}
    {r : Error × Out} (h : Runs (allocateWith desc count out) t r) : ∀ e ∈ t, SetUpAnswered e := by
  rintro ⟨c, x⟩ he
  have hcall := ((allocateWith_calls desc count out).steps h).1 _ he
  rcases hcall with hcall | ⟨b, rfl⟩
  · cases c <;> first | exact hcall.elim | trivial
  · trivial

theorem strideAnswered_of_call {e : DeviceEvent} (h : ∀ b, e.call ≠ .getStride b) :
    StrideAnswered e := by
  obtain ⟨c, x⟩ := e
  cases c
  case getStride b => exact absurd rfl (h b)
  all_goals trivial

theorem ReadsUnwritten.strideAnswered {e : DeviceEvent} (h : ReadsUnwritten e.call) :
    StrideAnswered e :=
  strideAnswered_of_call fun b hb ↦ by simp [hb, ReadsUnwritten] at h

theorem readDescriptor_reads (desc : Option DescriptorId) :
    Only ReadsUnwritten (readDescriptor desc) := by
  cases desc with
  | none => exact ⟨trivial, fun _ ↦ trivial⟩
  | some d => trivial

/-- A stride query answered `GRALLOC1_ERROR_NOT_SHARED` makes the request store an unwritten
handle. -/
theorem allocateWith_strideAnswered {desc : Option DescriptorId} {count : UInt32} {out : Out}
    {r : Error × Out} (h : Runs (allocateWith desc count out) t r)
    (hwritten : ∀ e ∈ t, e.call ≠ .unwrittenHandle) : ∀ e ∈ t, StrideAnswered e := by
  obtain ⟨u, v, ⟨error, stride, buffers⟩, rfl, hu, hv⟩ := runs_bind_iff.1 h
  have hone : ∀ t r, Runs (do let d ← readDescriptor desc; allocateOneBuffer d) t r →
      (¬∀ e ∈ t, StrideAnswered e) → r = (.none, none, none) := by
    intro t r hr hshared
    obtain ⟨w, w', d, rfl, hw, hw'⟩ := runs_bind_iff.1 hr
    rw [List.forall_mem_append, not_and] at hshared
    exact allocateOneBuffer_shared hw' <| hshared fun e he ↦
      ReadsUnwritten.strideAnswered (((readDescriptor_reads desc).steps hw).1 e he)
  have hrest : ∀ e ∈ v, ∀ b, e.call ≠ .getStride b := by
    refine (Only.steps (P := fun c ↦ ∀ b, c ≠ .getStride b) ?_ hv).1
    refine ((readDescriptor_reads desc).mono fun c hc b hb ↦ ?_).bind fun d ↦ ⟨nofun, fun _ ↦ ?_⟩
    · simp [hb, ReadsUnwritten] at hc
    · dsimp only
      split
      · exact (freeBuffers_releases buffers fun _ ↦ nofun).bind fun _ ↦ trivial
      · trivial
  rw [List.forall_mem_append]
  refine ⟨?_, fun e he ↦ strideAnswered_of_call (hrest e he)⟩
  by_contra hshared
  obtain ⟨e, he, hcall⟩ :=
    AllocatorHal.allocateLoop_reads hone (fun _ ↦ ReadsUnwritten.strideAnswered) hu hshared
  exact hwritten e (List.mem_append_left _ he) hcall

/-- Setting a descriptor up makes set-up calls only. -/
theorem createDescriptor_excludes {r : Error × Option DescriptorId}
    (h : Runs (hal.createDescriptor info) t r) (c : Call) (hcreate : c ≠ .createDescriptor)
    (hconfigure : ¬IsConfigure hal.layeredBuffers c) : ∀ e ∈ t, e.call ≠ c := by
  rintro e he rfl
  exact (((hal.createDescriptor_only info).steps h).1 e he).elim hcreate hconfigure

theorem createDescriptor_strideAnswered {r : Error × Option DescriptorId}
    (h : Runs (hal.createDescriptor info) t r) : ∀ e ∈ t, StrideAnswered e :=
  fun e he ↦ strideAnswered_of_call fun b ↦
    hal.createDescriptor_excludes h (.getStride b) Call.noConfusion id e he

theorem createDescriptor_written {r : Error × Option DescriptorId}
    (h : Runs (hal.createDescriptor info) t r) :
    ∀ e ∈ t, e.call ≠ .unwrittenHandle ∧ e.call ≠ .unwrittenStride :=
  fun e he ↦ ⟨hal.createDescriptor_excludes h .unwrittenHandle Call.noConfusion id e he,
    hal.createDescriptor_excludes h .unwrittenStride Call.noConfusion id e he⟩

section Accepted

variable {desc : Option DescriptorId} {count : UInt32} {out : Out} {u v : List DeviceEvent}
  {r : Error × Out}

/-- A request that goes on in order has a descriptor that was not abandoned. -/
theorem setUpAnswered_of_repliesInOrder (hu : Runs (hal.createDescriptor info) u (.none, desc))
    (hv : Runs (allocateWith desc count out) v r) (horder : RepliesInOrder (u ++ v) r) :
    ∀ e ∈ u, SetUpAnswered e := by
  by_contra hshared
  obtain rfl : desc = none := congrArg Prod.snd (hal.createDescriptor_shared hu hshared)
  obtain ⟨w, w', ⟨error, stride, buffers⟩, rfl, -, hw⟩ := runs_bind_iff.1 hv
  obtain ⟨d, w'', rfl, -⟩ := runs_call_iff.1 hw
  -- set-up has made two calls, so this read does not just destroy a refused descriptor
  have hlength := (hal.createDescriptor_reads hu).1
  have hcalls := congrArg List.length
    (horder.descriptor (u ++ w) ⟨.unwrittenDescriptor, d⟩ w'' (by simp) rfl)
  rw [List.length_map, List.length_append, List.length_singleton] at hcalls
  omega

theorem repliesInOrder_of_answered (hu : Runs (hal.createDescriptor info) u (.none, desc))
    (hv : Runs (allocateWith desc count out) v r)
    (hanswered : ∀ e ∈ u ++ v, SetUpAnswered e ∧ StrideAnswered e) : RepliesInOrder (u ++ v) r := by
  have hu' : ∀ e ∈ u, SetUpAnswered e := fun e he ↦ (hanswered e (List.mem_append_left _ he)).1
  obtain ⟨d, rfl, -⟩ := hal.createDescriptor_handsOut hu hu' rfl
  have hkeeps : Keeps [] u := ⟨List.forall_mem_nil _, fun e he ↦
    (((hal.createDescriptor_only info).steps hu).1 e he).neutral.releases⟩
  obtain ⟨haccepts, hpost⟩ := (allocateWith_keeps hkeeps d count out).runs hv
    (Monitor.assumes_of_forall _ fun _ e he ↦ (hanswered e (List.mem_append_right _ he)).2)
  rw [Monitor.history_after] at hpost
  have hread := writtenMonitor_accepts haccepts
  refine ⟨throughout_append_iff.2 ⟨(hal.createDescriptor_reads hu).2, ?_⟩, ?_,
    fun hr ↦ (hpost hr).obtained⟩
  · intro w e w' hsplit hcall
    have he : e ∈ v := hsplit ▸ by simp
    exact absurd (hcall ▸ trivial) (hread e he)
  · rw [List.forall_mem_append]
    refine ⟨hal.createDescriptor_written hu, fun e he ↦
      ⟨fun hcall ↦ hread e he ?_, fun hcall ↦ hread e he ?_⟩⟩
    · rw [hcall]
      trivial
    · rw [hcall]
      trivial

end Accepted

/-- **A request replies in order** unless it was abandoned for that code. -/
theorem repliesInOrder_iff {descriptor : BufferDescriptor} {count : UInt32} {out : Out}
    {r : Error × Out} (h : Runs (hal.allocateBuffers decode descriptor count out) t r) :
    RepliesInOrder t r ↔ ∀ e ∈ t, SetUpAnswered e ∧ StrideAnswered e := by
  unfold allocateBuffers at h
  rcases hdecode : decode descriptor with - | info
  · rw [hdecode] at h
    obtain ⟨rfl, rfl⟩ := runs_ret_iff.1 h
    exact iff_of_true ⟨throughout_nil, List.forall_mem_nil _, nofun⟩ (List.forall_mem_nil _)
  rw [hdecode] at h
  obtain ⟨u, v, ⟨error, desc⟩, rfl, hu, hv⟩ := runs_bind_iff.1 h
  dsimp only at hv
  have hstride := hal.createDescriptor_strideAnswered hu
  by_cases herror : error = .none
  · subst herror
    rw [if_neg (not_not.2 rfl)] at hv
    refine ⟨fun horder ↦ ?_, hal.repliesInOrder_of_answered hu hv⟩
    have hsetUp := hal.setUpAnswered_of_repliesInOrder hu hv horder
    have hrest := allocateWith_strideAnswered hv fun e he ↦
      (horder.written e (List.mem_append_right _ he)).1
    rw [List.forall_mem_append]
    exact ⟨fun e he ↦ ⟨hsetUp e he, hstride e he⟩,
      fun e he ↦ ⟨allocateWith_setUpAnswered hv e he, hrest e he⟩⟩
  · rw [if_pos herror] at hv
    obtain ⟨rfl, rfl⟩ := runs_ret_iff.1 hv
    rw [List.append_nil]
    refine iff_of_true ⟨(hal.createDescriptor_reads hu).2, hal.createDescriptor_written hu,
      fun hr ↦ absurd hr herror⟩ fun e he ↦ ⟨?_, hstride e he⟩
    by_contra hshared
    have hnone := hal.createDescriptor_shared hu fun hall ↦ hshared (hall e he)
    exact herror (congrArg Prod.fst hnone)

/-- **Each method keeps its promise in exactly the runs without `GRALLOC1_ERROR_NOT_SHARED`**, as
the answer of a set-up call or of a stride query. All other codes may be anything. -/
theorem keepsPromises_iff :
    (∀ info t r, Runs (hal.createDescriptor info) t r →
        (HandsOutDescriptor t r ↔ ∀ e ∈ t, SetUpAnswered e)) ∧
      (∀ d t r, Runs (allocateOneBuffer d) t r →
        (HandsOutBuffer t r ↔ ∀ e ∈ t, StrideAnswered e)) ∧
      ∀ decode descriptor count out t r,
        Runs (hal.allocateBuffers decode descriptor count out) t r →
          (RepliesInOrder t r ↔ ∀ e ∈ t, SetUpAnswered e ∧ StrideAnswered e) :=
  ⟨fun _ _ _ h ↦ hal.handsOutDescriptor_iff h, fun _ _ _ h ↦ handsOutBuffer_iff h,
    fun decode _ _ _ _ _ h ↦ hal.repliesInOrder_iff decode h⟩

/-- A gralloc1 device that answers `GRALLOC1_ERROR_NOT_SHARED` to one setter or to the stride
query. Unwritten variables happen to hold 7, 99 and 1. -/
def notSharedDevice (setter : Bool) : Handler Call Answer Unit where
  answer _
    | .createDescriptor => (Gralloc1Error.none, 3)
    | .setFormat _ _ => if setter then Gralloc1Error.notShared else Gralloc1Error.none
    | .allocate _ => (Gralloc1Error.none, 5)
    | .getStride _ => (if setter then Gralloc1Error.none else Gralloc1Error.notShared, 64)
    | .unwrittenDescriptor => (7 : UInt64)
    | .unwrittenHandle => (99 : ℕ)
    | .unwrittenStride => (1 : UInt32)
    | _ => default
  next _ _ := ()

/-- **The defect.** A descriptor is destroyed and a buffer released, both are reported as a
success with nothing written, and the request allocates with descriptor 7 or replies with
handle 99. -/
theorem notShared_abandons :
    (∃ t r, Runs (createDescriptor ⟨some 1, true, fun _ ↦ true⟩ ⟨64, 64, 1, 1, 0⟩) t r ∧
        r = (.none, none) ∧ Call.destroyDescriptor 3 ∈ t.map Event.call ∧ ¬HandsOutDescriptor t r) ∧
      (∃ t r, Runs (allocateOneBuffer 3) t r ∧
        r = (.none, none, none) ∧ Call.release 5 ∈ t.map Event.call ∧ ¬HandsOutBuffer t r) ∧
        (∃ t r, Runs oneBuffer t r ∧ Call.allocate 7 ∈ t.map Event.call ∧ ¬RepliesInOrder t r) ∧
          ∃ t r, Runs oneBuffer t r ∧ r = (.none, ⟨some 1, [99]⟩) ∧ ¬RepliesInOrder t r := by
  refine ⟨⟨_, _, runs_run (notSharedDevice true) () _, by decide, by decide, fun h ↦ ?_⟩,
    ⟨_, _, runs_run (notSharedDevice false) () _, by decide, by decide, fun h ↦ ?_⟩,
    ⟨_, _, runs_run (notSharedDevice true) () _, by decide, fun h ↦ ?_⟩,
    ⟨_, _, runs_run (notSharedDevice false) () _, by decide, fun h ↦ ?_⟩⟩
  · obtain ⟨d, hd, -⟩ := h (by decide)
    have hnone : none = some d := hd
    cases hnone
  · obtain ⟨buffer, stride, hout, -⟩ := h (by decide)
    have hnone : (none, none) = (some buffer, some stride) := hout
    cases hnone
  · exact absurd h.descriptor (by decide)
  · exact absurd h.written (by decide)

end Gralloc1Hal

end XenvmHal
