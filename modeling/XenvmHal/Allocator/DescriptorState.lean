import XenvmHal.Allocator.GrallocLoader
import XenvmHal.Interaction.Ownership

/-!
# The life of a gralloc1 descriptor

A descriptor is a resource as well: `createDescriptor` hands it out, `destroyDescriptor` gives it
back, and the setters and `allocate` need it alive. `DescriptorTypestate` is the whole protocol
over the trace of one request.

`configureDescriptor_safe` follows the descriptor through the setter chain and its shared end,
and `allocateWith_destroys` through the allocation loop to the second destruction. Both start from
a descriptor that exists. When the device refuses to create one, the shared end of the chain runs
all the same and destroys whatever the local variable holds, so the protocol holds of exactly
the requests whose `createDescriptor` succeeds (`allocateBuffers_typestate_iff`).
-/

namespace XenvmHal

open Interaction Program

/-- Descriptors as owned resources. -/
def descriptorDiscipline : Discipline Call Answer DescriptorId where
  acquires
    | ⟨.createDescriptor, (error, id)⟩ => if error = Gralloc1Error.none then some id else none
    | _ => none
  releases
    | .destroyDescriptor d => some d
    | _ => none
  uses
    | .setDimensions d _ _ | .setFormat d _ | .setLayerCount d _ | .setProducerUsage d _
    | .setConsumerUsage d _ | .allocate d => [d]
    | _ => []

/-- The device created the descriptor it was asked for. -/
def CreateSucceeds : DeviceEvent → Prop
  | ⟨.createDescriptor, (error, _)⟩ => error = Gralloc1Error.none
  | _ => True

/-- The monitor of one request: its ghost state is the list of descriptors it has created and not
yet destroyed. -/
abbrev descriptorMonitor : Monitor Call Answer (List DescriptorId) :=
  descriptorDiscipline.monitor fun _ e ↦ CreateSucceeds e ∧ SetUpAnswered e

/-- **The typestate of a request**: every descriptor it passes to the device is one it created and
has not destroyed since, and in the end it has destroyed them all. -/
def DescriptorTypestate (t : List DeviceEvent) : Prop :=
  descriptorMonitor.Accepts [] t ∧ descriptorMonitor.after [] t = []

namespace Gralloc1Hal

variable (decode : Decoder) (hal : Gralloc1Hal)

/-! ### A descriptor that exists -/

/-- What the setter chain keeps: the descriptor is alive, and the error is not the one code that
`toError` takes for success. -/
def Configuring (d : DescriptorId) (error : Int32) (live : List DescriptorId) : Prop :=
  live = [d] ∧ error ≠ Gralloc1Error.notShared

theorem onSuccess_safe {d : DescriptorId} {error : Int32} {live : List DescriptorId}
    {step : Prog Int32} (h : Configuring d error live)
    (hstep : Safe descriptorMonitor (Configuring d) [d] step) :
    Safe descriptorMonitor (Configuring d) live (onSuccess error step) := by
  obtain ⟨rfl, herror⟩ := h
  unfold onSuccess
  split
  · exact hstep
  · exact ⟨rfl, herror⟩

/-- One setter call. -/
theorem setter_safe {d : DescriptorId} {c : Call} {k : Answer c → Prog Int32}
    (hrel : descriptorDiscipline.releases c = none)
    (hacq : ∀ x, descriptorDiscipline.acquires ⟨c, x⟩ = none)
    (huse : descriptorDiscipline.uses c = [d])
    (hk : ∀ x, SetUpAnswered ⟨c, x⟩ → Safe descriptorMonitor (Configuring d) [d] (k x)) :
    Safe descriptorMonitor (Configuring d) [d] (Program.call c k) :=
  Discipline.safe_use hrel hacq (by simp [huse]) fun x hx ↦ hk x hx.2

theorem setLayerCount_safe (d : DescriptorId) (layerCount : UInt32) :
    Safe descriptorMonitor (Configuring d) [d] (hal.setLayerCount (some d) layerCount) := by
  unfold setLayerCount
  split_ifs
  · exact setter_safe rfl (fun _ ↦ rfl) rfl fun _ h ↦ ⟨rfl, h⟩
  · exact ⟨rfl, by decide⟩
  · exact ⟨rfl, by decide⟩

/-- **The setter chain** hands the descriptor out alive or destroys it, and says which. -/
theorem configureDescriptor_safe (info : BufferDescriptorInfo) (d : DescriptorId) :
    Safe descriptorMonitor
      (fun r live ↦ (r.1 = .none → r.2 = some d ∧ live = [d]) ∧ (r.1 ≠ .none → live = []))
      [d] (hal.configureDescriptor info Gralloc1Error.none (some d)) := by
  have h₀ : Configuring d Gralloc1Error.none [d] := ⟨rfl, by decide⟩
  refine (onSuccess_safe h₀ ?_).bind fun error live h ↦ ?_
  · exact setter_safe rfl (fun _ ↦ rfl) rfl fun _ h ↦ ⟨rfl, h⟩
  refine (onSuccess_safe h ?_).bind fun error live h ↦ ?_
  · exact setter_safe rfl (fun _ ↦ rfl) rfl fun _ h ↦ ⟨rfl, h⟩
  refine (onSuccess_safe h (hal.setLayerCount_safe d _)).bind fun error live h ↦ ?_
  refine (onSuccess_safe h ?_).bind fun error live h ↦ ?_
  · exact setter_safe rfl (fun _ ↦ rfl) rfl fun _ h ↦ ⟨rfl, h⟩
  refine (onSuccess_safe h ?_).bind fun error live ⟨hlive, hshared⟩ ↦ ?_
  · exact setter_safe rfl (fun _ ↦ rfl) rfl fun _ h ↦ ⟨rfl, h⟩
  subst hlive
  unfold finishDescriptor
  split
  · rename_i hnone
    exact ⟨fun _ ↦ ⟨rfl, rfl⟩, fun h ↦ absurd (toError_eq_none_iff.2 (.inl hnone)) h⟩
  · rename_i hnone
    refine Discipline.safe_release rfl (fun _ ↦ rfl) rfl List.mem_cons_self fun _ _ ↦ ?_
    have hne : toError error ≠ .none := fun h ↦ (toError_eq_none_iff.1 h).elim hnone hshared
    exact ⟨fun h ↦ absurd h hne, fun _ ↦ List.erase_cons_head ..⟩

/-- Calls that need no descriptor but `d`, and leave it alive. -/
structure KeepsAlive (d : DescriptorId) (c : Call) : Prop where
  acquires : ∀ x, descriptorDiscipline.acquires ⟨c, x⟩ = none
  releases : descriptorDiscipline.releases c = none
  uses : ∀ r ∈ descriptorDiscipline.uses c, r = d

theorem safe_of_keepsAlive {α : Type} {d : DescriptorId} {p : Prog α}
    (h : Only (KeepsAlive d) p) : Safe descriptorMonitor (fun _ live ↦ live = [d]) [d] p :=
  h.safe (fun _ hc ↦ ⟨by simp [hc.releases], fun r hr ↦ List.mem_singleton.2 (hc.uses r hr)⟩)
    fun _ x hc ↦ descriptorDiscipline.next_of_neither (hc.acquires x) hc.releases

theorem allocateOneBuffer_keeps (d : DescriptorId) : Only (KeepsAlive d) (allocateOneBuffer d) :=
  allocateOneBuffer_calls ⟨fun _ ↦ rfl, rfl, fun _ ↦ List.mem_singleton.1⟩
    (fun _ ↦ ⟨fun _ ↦ rfl, rfl, nofun⟩) fun _ ↦ ⟨fun _ ↦ rfl, rfl, nofun⟩

/-- **The loop** allocates with the descriptor it was given and leaves it alive. -/
theorem allocateLoop_keeps (d : DescriptorId) (n : ℕ) (stride : UInt32) (buffers : List Handle) :
    Only (KeepsAlive d) (allocateLoop (some d) n stride buffers) :=
  AllocatorHal.allocateLoop_only (allocateOneBuffer_keeps d) ⟨fun _ ↦ rfl, rfl, nofun⟩
    ⟨fun _ ↦ rfl, rfl, nofun⟩ n stride buffers

theorem freeBuffers_keeps (buffers : List Handle) (live : List DescriptorId) :
    Safe descriptorMonitor (fun _ live' ↦ live' = live) live (freeBuffers buffers) := by
  refine Discipline.safe_of_neutral (AllocatorHal.freeLoop_only (fun b ↦ ?_) buffers) live
  exact ⟨⟨fun _ ↦ rfl, rfl, rfl⟩, fun _ ↦ trivial⟩

/-- After a successful set-up the one descriptor is used, then destroyed. -/
theorem allocateWith_destroys (d : DescriptorId) (count : UInt32) (out : Out) :
    Safe descriptorMonitor (fun _ live ↦ live = []) [d] (allocateWith (some d) count out) := by
  refine (safe_of_keepsAlive (allocateLoop_keeps d _ 0 [])).bind
    fun ⟨error, stride, buffers⟩ live hlive ↦ ?_
  subst hlive
  refine Discipline.safe_release rfl (fun _ ↦ rfl) rfl List.mem_cons_self fun _ _ ↦ ?_
  rw [List.erase_cons_head]
  split
  · refine (freeBuffers_keeps buffers []).bind fun _ live hlive ↦ ?_
    exact hlive
  · rfl

/-- **One request on a device that creates its descriptor** follows the protocol to the end. -/
theorem allocateBuffers_destroys (descriptor : BufferDescriptor) (count : UInt32) (out : Out) :
    Safe descriptorMonitor (fun _ live ↦ live = []) []
      (hal.allocateBuffers decode descriptor count out) := by
  unfold allocateBuffers
  rcases decode descriptor with - | info
  · rfl
  · refine Safe.bind (Q := fun r live ↦
      (r.1 = .none → ∃ d, r.2 = some d ∧ live = [d]) ∧ (r.1 ≠ .none → live = [])) ?_ ?_
    · rw [createDescriptor_eq]
      refine Discipline.safe_acquire rfl rfl (fun x hx hacq ↦ ?_) fun x d hx hacq ↦ ?_
      · have hcreate : x.1 = Gralloc1Error.none := hx.1
        simp [descriptorDiscipline, hcreate] at hacq
      · have hcreate : x.1 = Gralloc1Error.none := hx.1
        obtain rfl : x.2 = d := by simpa [descriptorDiscipline, hcreate] using hacq
        rw [if_pos hcreate, hcreate]
        exact (hal.configureDescriptor_safe info x.2).mono fun r live h ↦
          ⟨fun hr ↦ ⟨x.2, h.1 hr⟩, h.2⟩
    · rintro ⟨error, desc⟩ live ⟨hnone, herror⟩
      dsimp only at hnone herror ⊢
      split
      · rename_i hr
        exact herror hr
      · rename_i hr
        obtain ⟨d, rfl, rfl⟩ := hnone (not_not.1 hr)
        exact allocateWith_destroys d count out

/-! ### A descriptor that was refused -/

/-- The setter chain does nothing once an error is set. -/
theorem configureDescriptor_of_error (info : BufferDescriptorInfo) {error : Int32}
    (h : error ≠ Gralloc1Error.none) (descriptor : Option DescriptorId) :
    hal.configureDescriptor info error descriptor = finishDescriptor error descriptor := by
  simp only [configureDescriptor, onSuccess, if_neg h, Program.pure_eq, ret_bind]

/-- Only the first call of a request creates a descriptor. -/
theorem createSucceeds_of_calls {layered : Bool} {e : DeviceEvent}
    (h : IsConfigure layered e.call ∨ IsBufferCall e.call) :
    CreateSucceeds e := by
  obtain ⟨c, x⟩ := e
  cases c <;> first | trivial | (rcases h with h | h <;> exact h.elim)

/-- **The shared end destroys what it does not have**: the id in the unwritten variable. -/
theorem not_typestate_of_refused {descriptor : BufferDescriptor} {count : UInt32} {out : Out}
    {t : List DeviceEvent} {r : Error × Out}
    (h : Runs (hal.allocateBuffers decode descriptor count out) t r)
    (hrefused : ¬∀ e ∈ t, CreateSucceeds e) : ¬DescriptorTypestate t := by
  unfold allocateBuffers at h
  rcases hdecode : decode descriptor with - | info
  · rw [hdecode] at h
    obtain ⟨rfl, -⟩ := runs_ret_iff.1 h
    exact absurd (by simp) hrefused
  · rw [hdecode] at h
    dsimp only at h
    rw [createDescriptor_eq, call_bind, runs_call_iff] at h
    obtain ⟨x, u, rfl, h⟩ := h
    by_cases hcreate : x.1 = Gralloc1Error.none
    · -- created: no later call of the request can be refused a descriptor
      refine absurd (fun e he ↦ ?_) hrefused
      rcases List.mem_cons.1 he with rfl | he
      · exact hcreate
      · obtain ⟨u, v, ⟨error, desc⟩, rfl, hu, hv⟩ := runs_bind_iff.1 h
        rcases List.mem_append.1 he with he | he
        · exact createSucceeds_of_calls
            (.inl (((hal.configureDescriptor_only _ _ _).steps hu).1 e he))
        · have honly : Only (fun c ↦ IsConfigure hal.layeredBuffers c ∨ IsBufferCall c)
              (if error ≠ .none then pure (error, out) else allocateWith desc count out) := by
            split
            · trivial
            · exact allocateWith_only desc count out
          exact createSucceeds_of_calls ((honly.steps hv).1 e he)
    · rw [hal.configureDescriptor_of_error info hcreate, if_neg hcreate, finishDescriptor,
        if_neg hcreate, readDescriptor_none, perform_bind, call_bind, runs_call_iff] at h
      obtain ⟨d, v, rfl, h⟩ := h
      rw [perform_bind, call_bind, runs_call_iff] at h
      obtain ⟨-, w, rfl, -⟩ := h
      rintro ⟨⟨-, -, ⟨hlive, -⟩, -⟩, -⟩
      simp [descriptorDiscipline, hcreate, Discipline.next, Discipline.monitor] at hlive

/-- **Typestate of a request.** Over every sequence of device answers, with the setters answering
what `gralloc1.h` lists for them, a request follows the descriptor protocol if and only if the
device did not refuse it a descriptor. -/
theorem allocateBuffers_typestate_iff {descriptor : BufferDescriptor} {count : UInt32} {out : Out}
    {t : List DeviceEvent} {r : Error × Out}
    (h : Runs (hal.allocateBuffers decode descriptor count out) t r)
    (hsetter : ∀ e ∈ t, SetUpAnswered e) :
    DescriptorTypestate t ↔ ∀ e ∈ t, CreateSucceeds e := by
  constructor
  · intro htype
    by_contra hrefused
    exact hal.not_typestate_of_refused decode h hrefused htype
  · intro hcreate
    exact (hal.allocateBuffers_destroys decode descriptor count out).runs h <|
      Monitor.assumes_of_forall _ fun _ e he ↦ ⟨hcreate e he, hsetter e he⟩

/-- A gralloc1 device that answers `createDescriptor` with `error` and everything else with
success. An unwritten descriptor variable happens to hold 7. -/
def creatingDevice (error : Int32) : Handler Call Answer Unit where
  answer _
    | .createDescriptor => (error, 3)
    | .unwrittenDescriptor => (7 : UInt64)
    | _ => default
  next _ _ := ()

/-- A request for one buffer. -/
def oneBuffer : Prog (Error × Out) :=
  allocateBuffers (fun _ ↦ some ⟨64, 64, 1, 1, 0⟩) ⟨some 1, true, fun _ ↦ true⟩ [] 1 ⟨none, []⟩

theorem allocateBuffers_typestate_one :
    DescriptorTypestate (run (creatingDevice Gralloc1Error.none) () oneBuffer).trace ↔
      ∀ e ∈ (run (creatingDevice Gralloc1Error.none) () oneBuffer).trace, CreateSucceeds e :=
  allocateBuffers_typestate_iff (fun _ ↦ some ⟨64, 64, 1, 1, 0⟩) ⟨some 1, true, fun _ ↦ true⟩
    (runs_run _ () oneBuffer) (by decide)

/-- **The defect.** A device out of resources refuses the descriptor, and the request destroys
descriptor 7, which it never created. -/
theorem allocateBuffers_destroys_unowned :
    ∃ (t : List DeviceEvent) (r : Error × Out), Runs oneBuffer t r ∧ (∀ e ∈ t, SetUpAnswered e) ∧
      t.map Event.call = [.createDescriptor, .unwrittenDescriptor, .destroyDescriptor 7] ∧
        ¬DescriptorTypestate t := by
  have hruns := runs_run (creatingDevice Gralloc1Error.noResources) () oneBuffer
  refine ⟨_, _, hruns, by decide, by decide, not_typestate_of_refused _ _ hruns fun h ↦ ?_⟩
  have hrefused : Gralloc1Error.noResources = Gralloc1Error.none :=
    h ⟨.createDescriptor, (Gralloc1Error.noResources, 3)⟩ List.mem_cons_self
  revert hrefused
  decide

end Gralloc1Hal

end XenvmHal
