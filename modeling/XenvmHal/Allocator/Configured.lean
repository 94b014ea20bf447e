import XenvmHal.Allocator.Account
import XenvmHal.Allocator.DescriptorState
import XenvmHal.Allocator.Lifecycle

/-!
# Configured before use

What the device knows about a descriptor when it is asked to allocate with it. `DescriptorTable`
is the device's side: the descriptors that exist and the settings that each was given. A request
is `Ready` when the table holds the one descriptor it created, set as the decoded request says.

The setter chain adds one setting at a time (`Progress`) and stops at the first failure, so what
leaves `createDescriptor` with success is ready, and nothing after it touches the table before the
last allocation. Together this makes every allocation of a request one with a ready descriptor,
at whatever point the set-up fails and however long the loop is (`allocateBuffers_configured`).
-/

namespace XenvmHal

open Interaction Program

/-! ### The device's side -/

/-- The settings of a descriptor, `none` where none was made. -/
structure Settings where
  dimensions : Option (UInt32 × UInt32)
  format : Option Int32
  layerCount : Option UInt32
  producerUsage : Option UInt64
  consumerUsage : Option UInt64
  deriving DecidableEq, Repr

/-- The settings of a descriptor that was just created. -/
def Settings.fresh : Settings := ⟨none, none, none, none, none⟩

/-- The descriptors that exist, with their settings. -/
abbrev DescriptorTable := DescriptorId → Option Settings

namespace DescriptorTable

variable {d : DescriptorId} {c : Settings}

/-- No descriptor exists. -/
def empty : DescriptorTable := fun _ ↦ none

/-- Exactly one descriptor exists. -/
def single (d : DescriptorId) (c : Settings) : DescriptorTable :=
  Function.update empty d (some c)

/-- Change the settings of a descriptor, if it exists. -/
def adjust (s : DescriptorTable) (d : DescriptorId) (f : Settings → Settings) : DescriptorTable :=
  Function.update s d ((s d).map f)

@[simp] theorem single_adjust (f : Settings → Settings) :
    (single d c).adjust d f = single d (f c) := by
  simp [adjust, single]

/-- Enter one event. A setting is made when the device says so. -/
def record (s : DescriptorTable) : DeviceEvent → DescriptorTable
  | ⟨.createDescriptor, (code, d)⟩ =>
    if code = Gralloc1Error.none then Function.update s d (some Settings.fresh) else s
  | ⟨.destroyDescriptor d, _⟩ => Function.update s d none
  | ⟨.setDimensions d width height, code⟩ =>
    if code = Gralloc1Error.none then s.adjust d ({ · with dimensions := some (width, height) })
    else s
  | ⟨.setFormat d format, code⟩ =>
    if code = Gralloc1Error.none then s.adjust d ({ · with format := some format }) else s
  | ⟨.setLayerCount d layerCount, code⟩ =>
    if code = Gralloc1Error.none then s.adjust d ({ · with layerCount := some layerCount }) else s
  | ⟨.setProducerUsage d usage, code⟩ =>
    if code = Gralloc1Error.none then s.adjust d ({ · with producerUsage := some usage }) else s
  | ⟨.setConsumerUsage d usage, code⟩ =>
    if code = Gralloc1Error.none then s.adjust d ({ · with consumerUsage := some usage }) else s
  | _ => s

end DescriptorTable

/-- The descriptors of the device after a trace. -/
def descriptorTable (t : List DeviceEvent) : DescriptorTable :=
  t.foldl DescriptorTable.record DescriptorTable.empty

theorem descriptorTable_snoc (t : List DeviceEvent) (e : DeviceEvent) :
    descriptorTable (t ++ [e]) = (descriptorTable t).record e := by
  simp [descriptorTable]

/-- The calls that set a descriptor up. -/
def SetsUp : Call → Prop
  | .createDescriptor | .setDimensions _ _ _ | .setFormat _ _ | .setLayerCount _ _
  | .setProducerUsage _ _ | .setConsumerUsage _ _ => True
  | _ => False

theorem setUpSucceeds_of_not_setsUp {e : DeviceEvent} (h : ¬SetsUp e.call) : SetUpSucceeds e := by
  obtain ⟨c, x⟩ := e
  cases c <;> first | trivial | exact absurd trivial h

namespace Gralloc1Hal

variable (decode : Decoder) (hal : Gralloc1Hal) (info : BufferDescriptorInfo)

/-- The settings that a request asks for. -/
def requested : Settings where
  dimensions := some (info.width, info.height)
  format := some info.format
  layerCount := if hal.layeredBuffers then some info.layerCount else none
  producerUsage := some (toProducerUsage info.usage)
  consumerUsage := some (toConsumerUsage info.usage)

/-- The layer count is one the device can be asked for. -/
def LayersAllowed : Prop :=
  hal.layeredBuffers = true ∨ info.layerCount ≤ 1

/-- **Ready to allocate with `d`**: it is the one descriptor the request has created, the device
knows no other, and its settings are those asked for. -/
structure Ready (d : DescriptorId) (u : List DeviceEvent) : Prop where
  created : u.filterMap descriptorDiscipline.acquires = [d]
  configured : descriptorTable u = .single d (hal.requested info)
  layers : hal.LayersAllowed info

/-- The monitor of one request: it allocates when it is ready and every set-up call so far has
succeeded, and makes no set-up call after that. -/
abbrev configuredMonitor : Monitor Call Answer (List DeviceEvent) :=
  .history
    (fun u c ↦ (∀ d, c = .allocate d → hal.Ready info d u ∧ ∀ e ∈ u, SetUpSucceeds e) ∧
      (SetsUp c → ∀ e ∈ u, ∀ d, e.call ≠ .allocate d))
    fun _ e ↦ SetUpAnswered e

/-! ### Setting up -/

/-- **What the setter chain keeps**: the settings made so far, without a failure and before any
allocation; `layers` is what is known about the layer count. -/
structure Progress (d : DescriptorId) (c : Settings) (layers : Prop) (u : List DeviceEvent) :
    Prop where
  created : u.filterMap descriptorDiscipline.acquires = [d]
  configured : descriptorTable u = .single d c
  succeeds : ∀ e ∈ u, SetUpSucceeds e
  unused : ∀ e ∈ u, ∀ b, e.call ≠ .allocate b
  layers : layers

/-- The chain between two setters: it has failed with a code that `toError` reports, or has come
this far. -/
def Chain (d : DescriptorId) (c : Settings) (layers : Prop) (error : Int32)
    (u : List DeviceEvent) : Prop :=
  error ≠ Gralloc1Error.notShared ∧ (error = Gralloc1Error.none → Progress d c layers u)

variable {hal info} {d : DescriptorId} {c c' : Settings} {layers layers' : Prop}
  {u : List DeviceEvent}

/-- A descriptor that was just created. -/
theorem Progress.start (d : DescriptorId) :
    Progress d Settings.fresh True [⟨.createDescriptor, (Gralloc1Error.none, d)⟩] where
  created := rfl
  configured := rfl
  succeeds := List.forall_mem_singleton.2 rfl
  unused := List.forall_mem_singleton.2 nofun
  layers := trivial

/-- One more setting. -/
theorem Progress.snoc (h : Progress d c layers u) {e : DeviceEvent}
    (hacquires : descriptorDiscipline.acquires e = none)
    (hrecord : (DescriptorTable.single d c).record e = .single d c') (hsucceeds : SetUpSucceeds e)
    (hallocate : ∀ b, e.call ≠ .allocate b) : Progress d c' layers (u ++ [e]) where
  created := by simp [h.created, hacquires]
  configured := by rw [descriptorTable_snoc, h.configured, hrecord]
  succeeds := List.forall_mem_append.2 ⟨h.succeeds, List.forall_mem_singleton.2 hsucceeds⟩
  unused := List.forall_mem_append.2 ⟨h.unused, List.forall_mem_singleton.2 hallocate⟩
  layers := h.layers

theorem onSuccess_chain {error : Int32} {step : Prog Int32} (h : Chain d c layers error u)
    (hstep : Progress d c layers u →
      Safe (hal.configuredMonitor info) (Chain d c' layers') u step) :
    Safe (hal.configuredMonitor info) (Chain d c' layers') u (onSuccess error step) := by
  unfold onSuccess
  split
  · rename_i hnone
    exact hstep (h.2 hnone)
  · rename_i hnone
    exact ⟨h.1, fun hn ↦ absurd hn hnone⟩

/-- One setter call, which changes the settings by `f`. -/
theorem setter_chain {s : Call} {k : Answer s → Prog Int32} (f : Settings → Settings)
    (h : Progress d c layers u) (hs : ∀ b, s ≠ .allocate b)
    (hk : ∀ x, ∃ code, k x = ret code ∧
      (SetUpAnswered ⟨s, x⟩ → code ≠ Gralloc1Error.notShared) ∧
        (code = Gralloc1Error.none → SetUpSucceeds ⟨s, x⟩ ∧
          descriptorDiscipline.acquires ⟨s, x⟩ = none ∧
            ∀ s' : DescriptorTable, s'.record ⟨s, x⟩ = s'.adjust d f)) :
    Safe (hal.configuredMonitor info) (Chain d (f c) layers) u (Program.call s k) := by
  refine ⟨⟨fun b hb ↦ absurd hb (hs b), fun _ ↦ h.unused⟩, fun x hx ↦ ?_⟩
  obtain ⟨code, hcode, hanswered, hnone⟩ := hk x
  rw [hcode]
  refine ⟨hanswered hx, fun hn ↦ ?_⟩
  obtain ⟨hsucceeds, hacquires, hrecord⟩ := hnone hn
  exact h.snoc hacquires ((hrecord _).trans (DescriptorTable.single_adjust f)) hsucceeds hs

theorem setLayerCount_chain (h : Progress d c True u) :
    Safe (hal.configuredMonitor info)
      (Chain d
        { c with layerCount := if hal.layeredBuffers then some info.layerCount else c.layerCount }
        (hal.LayersAllowed info))
      u (hal.setLayerCount (some d) info.layerCount) := by
  unfold setLayerCount
  split_ifs with hlayered hcount
  · have h' : Progress d c (hal.LayersAllowed info) u := { h with layers := .inl hlayered }
    exact setter_chain ({ · with layerCount := some info.layerCount }) h' nofun
      fun x ↦ ⟨x, rfl, id, fun hx ↦ ⟨hx, rfl, fun _ ↦ if_pos hx⟩⟩
  · exact ⟨by decide, nofun⟩
  · exact ⟨by decide, fun _ ↦ { h with layers := .inr (UInt32.not_lt.1 hcount) }⟩

/-- The shared end of `createDescriptor`: a success has gone through the whole chain. -/
theorem finishDescriptor_chain {error : Int32} (h : Chain d c layers error u) :
    Safe (hal.configuredMonitor info)
      (fun r u' ↦ r.1 = .none → r.2 = some d ∧ Progress d c layers u') u
      (finishDescriptor error (some d)) := by
  unfold finishDescriptor
  split
  · rename_i hnone
    exact fun _ ↦ ⟨rfl, h.2 hnone⟩
  · rename_i hnone
    refine ⟨⟨nofun, False.elim⟩, fun _ _ hr ↦ ?_⟩
    exact absurd (toError_eq_none_iff.1 hr) (not_or.2 ⟨hnone, h.1⟩)

/-- **The setter chain** makes all settings, or fails. -/
theorem configureDescriptor_chain (h : Progress d Settings.fresh True u) :
    Safe (hal.configuredMonitor info)
      (fun r u' ↦ r.1 = .none →
        r.2 = some d ∧ Progress d (hal.requested info) (hal.LayersAllowed info) u')
      u (hal.configureDescriptor info Gralloc1Error.none (some d)) := by
  have h₀ : Chain d Settings.fresh True Gralloc1Error.none u := ⟨by decide, fun _ ↦ h⟩
  refine Safe.bind (onSuccess_chain h₀ fun h ↦
    setter_chain ({ · with dimensions := some (info.width, info.height) }) h nofun
      fun x ↦ ⟨x, rfl, id, fun hx ↦ ⟨hx, rfl, fun _ ↦ if_pos hx⟩⟩) fun error u h ↦ ?_
  refine Safe.bind (onSuccess_chain h fun h ↦ setter_chain ({ · with format := some info.format }) h
    nofun fun x ↦ ⟨x, rfl, id, fun hx ↦ ⟨hx, rfl, fun _ ↦ if_pos hx⟩⟩) fun error u h ↦ ?_
  refine Safe.bind (onSuccess_chain h setLayerCount_chain) fun error u h ↦ ?_
  refine Safe.bind (onSuccess_chain h fun h ↦
    setter_chain ({ · with producerUsage := some (toProducerUsage info.usage) }) h nofun
      fun x ↦ ⟨x, rfl, id, fun hx ↦ ⟨hx, rfl, fun _ ↦ if_pos hx⟩⟩) fun error u h ↦ ?_
  refine Safe.bind (onSuccess_chain h fun h ↦
    setter_chain ({ · with consumerUsage := some (toConsumerUsage info.usage) }) h nofun
      fun x ↦ ⟨x, rfl, id, fun hx ↦ ⟨hx, rfl, fun _ ↦ if_pos hx⟩⟩) fun error u h ↦ ?_
  exact finishDescriptor_chain h

/-- **`createDescriptor`** succeeds only with a descriptor that is set up. -/
theorem createDescriptor_chain :
    Safe (hal.configuredMonitor info)
      (fun r u ↦ r.1 = .none →
        ∃ d, r.2 = some d ∧ Progress d (hal.requested info) (hal.LayersAllowed info) u)
      [] (hal.createDescriptor info) := by
  rw [createDescriptor_eq]
  refine ⟨⟨fun _ h ↦ Call.noConfusion h, fun _ ↦ List.forall_mem_nil _⟩, fun x hx ↦ ?_⟩
  by_cases hcreate : x.1 = Gralloc1Error.none
  · obtain ⟨code, d⟩ := x
    obtain rfl : code = Gralloc1Error.none := hcreate
    exact (configureDescriptor_chain (.start d)).mono fun r u h hr ↦ ⟨d, h hr⟩
  · have hshared : x.1 ≠ Gralloc1Error.notShared := hx
    dsimp only
    rw [if_neg hcreate, hal.configureDescriptor_of_error info hcreate, finishDescriptor,
      if_neg hcreate]
    refine ⟨⟨fun _ h ↦ Call.noConfusion h, False.elim⟩, fun d _ ↦
      ⟨⟨fun _ h ↦ Call.noConfusion h, False.elim⟩, fun _ _ hr ↦ ?_⟩⟩
    exact absurd (toError_eq_none_iff.1 hr) (not_or.2 ⟨hcreate, hshared⟩)

/-! ### Allocating -/

/-- What a request keeps while it allocates. -/
def StillReady (hal : Gralloc1Hal) (info : BufferDescriptorInfo) (d : DescriptorId)
    (u : List DeviceEvent) : Prop :=
  hal.Ready info d u ∧ ∀ e ∈ u, SetUpSucceeds e

/-- The calls made while allocating with `d`. -/
def Allocating (d : DescriptorId) (c : Call) : Prop :=
  IsBufferCall c ∧ ∀ b, c = .allocate b → b = d

/-- Buffer calls leave the device's table alone. -/
theorem IsBufferCall.untouched {e : DeviceEvent} (h : IsBufferCall e.call) :
    descriptorDiscipline.acquires e = none ∧ (∀ s, DescriptorTable.record s e = s) ∧
      ¬SetsUp e.call := by
  obtain ⟨s, x⟩ := e
  cases s <;> first | exact ⟨rfl, fun _ ↦ rfl, id⟩ | exact h.elim

theorem StillReady.snoc {e : DeviceEvent} (h : StillReady hal info d u) (he : IsBufferCall e.call) :
    StillReady hal info d (u ++ [e]) := by
  obtain ⟨hacquires, hrecord, hsets⟩ := he.untouched
  refine ⟨⟨?_, ?_, h.1.layers⟩, ?_⟩
  · simp [h.1.created, hacquires]
  · rw [descriptorTable_snoc, hrecord, h.1.configured]
  · exact List.forall_mem_append.2
      ⟨h.2, List.forall_mem_singleton.2 (setUpSucceeds_of_not_setsUp hsets)⟩

theorem allocateLoop_configured (h : StillReady hal info d u) (n : ℕ) (stride : UInt32)
    (buffers : List Handle) :
    Safe (hal.configuredMonitor info) (fun _ u' ↦ StillReady hal info d u') u
      (allocateLoop (some d) n stride buffers) := by
  have honly : Only (Allocating d) (allocateLoop (some d) n stride buffers) :=
    AllocatorHal.allocateLoop_only
      (allocateOneBuffer_calls ⟨trivial, fun b hb ↦ (Call.allocate.inj hb).symm⟩
        (fun _ ↦ ⟨trivial, nofun⟩) fun _ ↦ ⟨trivial, nofun⟩)
      ⟨trivial, nofun⟩ ⟨trivial, nofun⟩ n stride buffers
  refine honly.safe_of_invariant (fun u s h hs ↦ ⟨?_, ?_⟩) (fun u s x h hs _ ↦ h.snoc hs.1) h
  · intro b hb
    rw [hs.2 b hb]
    exact h
  · intro hsets
    have hcall : IsBufferCall s := hs.1
    cases s <;> first | exact hsets.elim | exact hcall.elim

theorem allocateWith_configured (h : StillReady hal info d u) (count : UInt32) (out : Out) :
    Safe (hal.configuredMonitor info) (fun _ _ ↦ True) u (allocateWith (some d) count out) := by
  refine (allocateLoop_configured h _ 0 []).bind fun ⟨error, stride, buffers⟩ u _ ↦ ?_
  refine ⟨⟨nofun, False.elim⟩, fun _ _ ↦ ?_⟩
  split
  · have hfree : Only (fun s ↦ ∃ b, s = .release b) (freeBuffers buffers) :=
      freeBuffers_releases buffers fun b ↦ ⟨b, rfl⟩
    refine (hfree.safe_of_invariant (I := fun _ ↦ True) ?_ (fun _ _ _ _ _ _ ↦ trivial)
      trivial).bind fun _ _ _ ↦ trivial
    rintro u s - ⟨b, rfl⟩
    exact ⟨nofun, False.elim⟩
  · trivial

theorem allocateBuffers_safe_configured {descriptor : BufferDescriptor}
    (hdecode : decode descriptor = some info) (count : UInt32) (out : Out) :
    Safe (hal.configuredMonitor info) (fun _ _ ↦ True) []
      (hal.allocateBuffers decode descriptor count out) := by
  unfold allocateBuffers
  rw [hdecode]
  refine createDescriptor_chain.bind fun ⟨error, desc⟩ u h ↦ ?_
  dsimp only at h ⊢
  split
  · trivial
  · rename_i hnone
    obtain ⟨d, rfl, hprogress⟩ := h (not_not.1 hnone)
    exact allocateWith_configured ⟨⟨hprogress.created, hprogress.configured, hprogress.layers⟩,
      hprogress.succeeds⟩ count out

/-- Before an allocation every set-up call has succeeded, and after one there is none. -/
theorem setUpSucceeds_of_accepts {t : List DeviceEvent}
    (h : (hal.configuredMonitor info).Accepts [] t) {e : DeviceEvent} (he : e ∈ t)
    {b : DescriptorId} (hallocate : e.call = .allocate b) : ∀ e ∈ t, SetUpSucceeds e := by
  rw [Monitor.accepts_iff_throughout] at h
  obtain ⟨u, v, rfl⟩ := List.append_of_mem he
  intro e' he'
  rcases List.mem_append.1 he' with he' | he'
  · have hready := ((h u e v rfl).1 b hallocate).2
    rw [Monitor.history_after] at hready
    exact hready e' he'
  · rcases List.mem_cons.1 he' with rfl | he'
    · exact setUpSucceeds_of_not_setsUp (hallocate ▸ id)
    · obtain ⟨w, w', rfl⟩ := List.append_of_mem he'
      refine setUpSucceeds_of_not_setsUp fun hsets ↦ ?_
      have hunused := (h (u ++ e :: w) e' w' (by simp)).2 hsets
      rw [Monitor.history_after] at hunused
      exact hunused e (by simp) b hallocate

/-- **A descriptor is fully configured before it is used.** At every moment of a request, whatever
the device has answered, with the set-up codes that `gralloc1.h` lists: each allocation was made
with a descriptor that was ready, and when a set-up call has failed there was no allocation at all.
The flag for layered buffers is the device's own. -/
theorem allocateBuffers_configured {descriptor : BufferDescriptor}
    (hdecode : decode descriptor = some info) {count : UInt32} {out : Out} {t : List DeviceEvent}
    {q : Prog (Error × Out)} (h : Steps (hal.allocateBuffers decode descriptor count out) t q)
    (hanswered : ∀ e ∈ t, SetUpAnswered e) :
    Throughout (fun u e ↦ ∀ d, e.call = .allocate d → hal.Ready info d u) t ∧
      ((∃ e ∈ t, ¬SetUpSucceeds e) → ∀ e ∈ t, ∀ d, e.call ≠ .allocate d) ∧
        ∀ (v : Vendor) (u : List DeviceEvent), Runs initCapabilities u hal.layeredBuffers →
          (∀ e ∈ u, v.Answers e) →
            (hal.layeredBuffers = true ↔ capabilityLayeredBuffers ∈ v.capabilities) := by
  obtain ⟨haccepts, -⟩ := (allocateBuffers_safe_configured decode hdecode count out).steps h
    (Monitor.assumes_of_forall _ fun _ ↦ hanswered)
  refine ⟨?_, ?_, fun v u hu hv ↦ ?_⟩
  · refine ((hal.configuredMonitor info).accepts_iff_throughout.1 haccepts).mono
      fun u e hpre d hd ↦ ?_
    rw [Monitor.history_after] at hpre
    exact (hpre.1 d hd).1
  · rintro ⟨e, he, hfails⟩ e' he' d hd
    exact hfails (setUpSucceeds_of_accepts haccepts he' hd e he)
  · have hopen : (⟨[1], [], fun _ ↦ false, false⟩ : DeviceState).opens = [1] := rfl
    exact ((initCapabilities_reports hopen rfl).runs hu
      (Monitor.assumes_of_forall (deviceMonitor v) fun _ ↦ hv)).2.1

theorem allocateBuffers_configured_one :
    let t := (run (creatingDevice Gralloc1Error.none) () oneBuffer).trace
    let hal : Gralloc1Hal := ⟨some 1, true, fun _ ↦ true⟩
    Throughout (fun u e ↦ ∀ d, e.call = .allocate d → hal.Ready ⟨64, 64, 1, 1, 0⟩ d u) t ∧
      ((∃ e ∈ t, ¬SetUpSucceeds e) → ∀ e ∈ t, ∀ d, e.call ≠ .allocate d) ∧
        ∀ (v : Vendor) (u : List DeviceEvent), Runs initCapabilities u hal.layeredBuffers →
          (∀ e ∈ u, v.Answers e) →
            (hal.layeredBuffers = true ↔ capabilityLayeredBuffers ∈ v.capabilities) :=
  allocateBuffers_configured (fun _ ↦ some ⟨64, 64, 1, 1, 0⟩) rfl
    (runs_run (creatingDevice Gralloc1Error.none) () oneBuffer) (by decide)

end Gralloc1Hal

end XenvmHal
