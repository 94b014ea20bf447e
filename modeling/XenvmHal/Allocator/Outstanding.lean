import XenvmHal.Allocator.Isolation
import XenvmHal.Allocator.Tariff

/-!
# What is outstanding

What the device has handed out to the service and not got back, at any moment of any interleaving
of requests. Who owns what is settled by the disciplines, and how much one request can come to own
by its tariff. Together they bound the service as a whole by the requests in flight: by the number
of buffers they ask for (`service_buffers_le`) and by one descriptor each
(`service_descriptors_le`). When no request is in flight nothing is outstanding, however the
requests before have ended.

The last result is what clients see of ownership: no two of them are sent the same buffer, unless
the first has given it back in between (`service_exclusive`).
-/

namespace XenvmHal

open Interaction Program

namespace Allocator

/-- The buffers that a request asks for. -/
def Request.buffers : Request → ℕ
  | .allocate _ count => count.toNat
  | .dumpDebugInfo => 0

theorem price_buffers (mHal : Hal) (request : Request) :
    Tariff.buffers.price mHal request = request.buffers := by
  cases mHal <;> cases request <;> simp [Tariff.price, Tariff.buffers, Request.buffers]

theorem price_descriptors_le (mHal : Hal) (request : Request) :
    Tariff.descriptors.price mHal request ≤ 1 := by
  cases mHal <;> cases request <;> simp [Tariff.price, Tariff.descriptors]

theorem IsDumpCall.owns_nothing {c : Call} (h : IsDumpCall c) : bufferDiscipline.Neutral c := by
  cases c <;> first | exact h.elim | exact ⟨fun _ ↦ rfl, rfl, rfl⟩

/-- **One request of any kind** gives back the buffers it is handed. -/
theorem serve_returns (decode : Decoder) (mHal : Hal) (request : Request) :
    Safe bufferMonitor (fun _ held ↦ held = []) [] (serve decode mHal request) := by
  cases request with
  | allocate descriptor count => exact allocate_safe (mHal.disciplined decode) descriptor count
  | dumpDebugInfo =>
    exact Discipline.safe_of_neutral
      ((dumpDebugInfo_only decode mHal).mono fun _ ↦ IsDumpCall.owns_nothing) []

/-- Every buffer that is handed out was paid for. -/
theorem one_le_cost_buffers (e : DeviceEvent) (h : (bufferDiscipline.acquires e).isSome) :
    1 ≤ Tariff.buffers.cost e.call := by
  obtain ⟨c, x⟩ := e
  cases c
  case allocate | alloc => exact Nat.le_refl 1
  all_goals cases h

theorem one_le_cost_descriptors (e : DeviceEvent)
    (h : (descriptorDiscipline.acquires e).isSome) : 1 ≤ Tariff.descriptors.cost e.call := by
  obtain ⟨c, x⟩ := e
  cases c
  case createDescriptor => exact Nat.le_refl 1
  all_goals cases h

variable {ι : Type} [DecidableEq ι] {decode : Decoder} {mHal : Hal} {requests : ι → Request}
  {t : List (ι × DeviceEvent)} {q : ι → Prog Unit}

/-- **Outstanding buffers.** At any moment of any interleaving on a documented device, whatever has
failed so far, the buffers handed out and not given back are at most those that the requests in
flight ask for. -/
theorem service_buffers_le (h : Interleaved (pool decode mHal requests) t q)
    (hfresh : Throughout bufferDiscipline.Fresh t) (hdocumented : ∀ e ∈ t, Documented e.2)
    {F : Finset ι} (hF : ∀ i, InFlight t q i → i ∈ F) :
    (bufferDiscipline.ledger t).held.length ≤ ∑ i ∈ F, (requests i).buffers := by
  have hreturns : ∀ i, Safe (bufferDiscipline.monitor (bufferDiscipline.TrustedFresh Documented))
      (fun _ held ↦ held = []) [] (pool decode mHal requests i) := fun i ↦
    (serve_returns decode mHal (requests i)).weaken (fun _ _ h ↦ h)
      (fun _ _ h ↦ ⟨h.1.2, h.2⟩) fun _ _ ↦ rfl
  have hheld := h.length_held_le hreturns
    (fun i ↦ serve_within_price decode mHal (requests i)) one_le_cost_buffers hfresh hdocumented hF
  simpa only [price_buffers] using hheld

/-- Two clients of a gralloc0 device; one wants two buffers, the other one. -/
def threeBuffers (i : Bool) : Request :=
  .allocate [] (if i then 2 else 1)

theorem service_buffers_le_three :
    let t : List (Bool × DeviceEvent) :=
      [(true, ⟨.alloc 64 64 1 (-0x80000000), (0, 1, 64)⟩),
        (false, ⟨.alloc 64 64 1 (-0x80000000), (0, 2, 64)⟩)]
    (bufferDiscipline.ledger t).held.length ≤ ∑ i, (threeBuffers i).buffers := by
  have h := (Interleaved.nil (p := pool wideUsage (.gralloc0 ⟨some 1, true⟩) threeBuffers)).snoc
    (i := true) (c := .alloc 64 64 1 (-0x80000000)) rfl (0, 1, 64)
  have h := h.snoc (i := false) (c := .alloc 64 64 1 (-0x80000000)) rfl (0, 2, 64)
  exact service_buffers_le h (by decide) (by decide) fun i _ ↦ Finset.mem_univ i

/-- **Outstanding descriptors.** On a device that creates the descriptors it is asked for, no
request in flight has more than one. -/
theorem service_descriptors_le (h : Interleaved (pool decode mHal requests) t q)
    (hfresh : Throughout descriptorDiscipline.Fresh t)
    (hgranted : ∀ e ∈ t, Documented e.2 ∧ CreateSucceeds e.2) {F : Finset ι}
    (hF : ∀ i, InFlight t q i → i ∈ F) :
    (descriptorDiscipline.ledger t).held.length ≤ F.card := by
  let trusted : DeviceEvent → Prop := fun e ↦ Documented e ∧ CreateSucceeds e
  have hdestroys : ∀ i,
      Safe (descriptorDiscipline.monitor (descriptorDiscipline.TrustedFresh trusted))
        (fun _ live ↦ live = []) [] (pool decode mHal requests i) := fun i ↦
    (serve_destroys decode mHal (requests i)).weaken (fun _ _ h ↦ h)
      (fun _ _ h ↦ ⟨⟨h.1.2, h.1.1.1⟩, h.2⟩) fun _ _ ↦ rfl
  have hprice : ∀ i, Safe
      (budget Tariff.descriptors.cost (Tariff.descriptors.price mHal (requests i)) trusted)
      (fun _ _ ↦ True) 0 (pool decode mHal requests i) := fun i ↦
    (serve_within_price decode mHal (requests i)).weaken (fun _ _ h ↦ h) (fun _ _ h ↦ h.1)
      fun _ _ ↦ rfl
  calc (descriptorDiscipline.ledger t).held.length
      ≤ ∑ i ∈ F, Tariff.descriptors.price mHal (requests i) :=
        h.length_held_le hdestroys hprice one_le_cost_descriptors hfresh hgranted hF
    _ ≤ ∑ _i ∈ F, 1 := Finset.sum_le_sum fun i _ ↦ price_descriptors_le mHal (requests i)
    _ = F.card := (Finset.card_eq_sum_ones F).symm

/-- Both clients have set up to the point of allocating. -/
theorem service_descriptors_le_two :
    let t : List (Bool × DeviceEvent) :=
      [(true, ⟨.createDescriptor, (Gralloc1Error.none, 7)⟩),
        (false, ⟨.createDescriptor, (Gralloc1Error.none, 8)⟩)]
    (descriptorDiscipline.ledger t).held.length ≤ (Finset.univ : Finset Bool).card := by
  have h := (Interleaved.nil (p := pool wideUsage (.gralloc1 ⟨some 1, true, fun _ ↦ true⟩)
    threeBuffers)).snoc (i := true) (c := .createDescriptor) rfl (Gralloc1Error.none, 7)
  have h := h.snoc (i := false) (c := .createDescriptor) rfl (Gralloc1Error.none, 8)
  refine service_descriptors_le h (by decide) ?_ fun i _ ↦ Finset.mem_univ i
  intro e he
  rcases List.mem_cons.1 he with rfl | he
  · exact ⟨by decide, rfl⟩
  · obtain rfl := List.mem_singleton.1 he
    exact ⟨by decide, rfl⟩

/-- **Replies are exclusive**, on a device that hands out no buffer it has not got back and never
answers a stride query with `GRALLOC1_ERROR_NOT_SHARED`. If the replies to two requests carry the
same buffer, then the first request has given it back to the device before the second reply was
made. -/
theorem service_exclusive (h : Interleaved (pool decode mHal requests) t q)
    (hfresh : Throughout bufferDiscipline.Fresh t) (hstride : ∀ e ∈ t, StrideAnswered e.2)
    {u v w : List (ι × DeviceEvent)} {i j : ι} {c d : DeviceEvent}
    (ht : t = u ++ (i, c) :: (v ++ (j, d) :: w)) (hij : i ≠ j) {error error' : Error}
    {stride stride' : UInt32} {buffers buffers' : List Handle}
    (hc : c.call = .hidlCb error stride buffers) (hd : d.call = .hidlCb error' stride' buffers')
    {b : Handle} (hb : b ∈ buffers) (hb' : b ∈ buffers') :
    ∃ e ∈ v, e.1 = i ∧ (e.2.call = .release b ∨ e.2.call = .free b) := by
  have huses : b ∈ bufferDiscipline.uses c.call := by rwa [hc]
  have huses' : b ∈ bufferDiscipline.uses d.call := by rwa [hd]
  obtain ⟨⟨i', e⟩, he, rfl, hreleases⟩ :=
    h.released_between (fun i ↦ serve_returns decode mHal (requests i)) hfresh hstride hij ht huses
      huses'
  have hcall : e.call = .release b ∨ e.call = .free b := by
    obtain ⟨s, x⟩ := e
    cases s
    case release => exact .inl (congrArg Call.release (Option.some.inj hreleases))
    case free => exact .inr (congrArg Call.free (Option.some.inj hreleases))
    all_goals cases hreleases
  rcases List.mem_cons.1 he with heq | he
  · -- the reply itself gives nothing back
    obtain rfl := (Prod.mk.inj heq).2
    rw [hc] at hcall
    rcases hcall with hcall | hcall <;> cases hcall
  · exact ⟨_, he, rfl, hcall⟩

/-- The device hands the same buffer out twice, having got it back. -/
theorem service_exclusive_twice :
    ∃ e ∈ [((true, ⟨.free 1, (0 : Int32)⟩) : Bool × DeviceEvent),
        (false, ⟨.alloc 64 64 1 (-0x80000000), (0, 1, 64)⟩)],
      e.1 = true ∧ (e.2.call = .release 1 ∨ e.2.call = .free 1) := by
  have h := (Interleaved.nil (p := pool wideUsage (.gralloc0 ⟨some 1, true⟩)
    fun _ : Bool ↦ .allocate [] 1)).snoc (i := true) (c := .alloc 64 64 1 (-0x80000000)) rfl
      (0, 1, 64)
  have h := h.snoc (i := true) (c := .hidlCb .none 64 [1]) rfl ()
  have h := h.snoc (i := true) (c := .free 1) rfl (0 : Int32)
  have h := h.snoc (i := false) (c := .alloc 64 64 1 (-0x80000000)) rfl (0, 1, 64)
  have h := h.snoc (i := false) (c := .hidlCb .none 64 [1]) rfl ()
  exact service_exclusive (u := [(true, ⟨.alloc 64 64 1 (-0x80000000), (0, 1, 64)⟩)]) (w := []) h
    (by decide) (by decide) rfl (by decide) rfl rfl List.mem_cons_self List.mem_cons_self

end Allocator

end XenvmHal
