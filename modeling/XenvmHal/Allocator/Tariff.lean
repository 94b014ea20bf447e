import XenvmHal.Allocator.AllOrNothing
import XenvmHal.Allocator.DescriptorState
import XenvmHal.Allocator.Service
import XenvmHal.Interaction.Budget

/-!
# What a request costs

A `Tariff` prices the functions of the device. `Tariff.price` is what one request may cost on it:
for a gralloc1 device the set-up once, and for each buffer an allocation, a query and a release.
`serve_within_price` says that a request never costs more, whichever of its error paths it takes
and wherever in the loop, on a device that answers as its header says.

The loop pays in advance. Its invariant sets aside what giving back the buffers already in the
vector will cost, since that is what the request does with them, on an error as much as after the
reply (`AllocatorHal.allocateLoop_spends`).

Two tariffs are about more than work. Pricing allocations only, the price is the number of buffers
asked for; pricing the creation of descriptors only, it is at most one.
-/

namespace XenvmHal

open Interaction Program

/-- A price for each kind of device call. -/
structure Tariff where
  create : ℕ
  setting : ℕ
  destroy : ℕ
  allocate : ℕ
  query : ℕ
  giveBack : ℕ
  dump : ℕ

namespace Tariff

/-- The price of a call. Calls to the client are free. -/
def cost (τ : Tariff) : Call → ℕ
  | .createDescriptor => τ.create
  | .setDimensions _ _ _ | .setFormat _ _ | .setLayerCount _ _ | .setProducerUsage _ _
  | .setConsumerUsage _ _ => τ.setting
  | .destroyDescriptor _ => τ.destroy
  | .allocate _ | .alloc _ _ _ _ => τ.allocate
  | .getStride _ => τ.query
  | .release _ | .free _ => τ.giveBack
  | .dump _ _ | .dump0 _ => τ.dump
  | _ => 0

/-- What a request may cost. -/
def price (τ : Tariff) : Hal → Allocator.Request → ℕ
  | .gralloc0 _, .allocate _ count => (τ.allocate + τ.giveBack) * count.toNat
  | .gralloc1 _, .allocate _ count =>
    τ.create + 5 * τ.setting + τ.destroy + (τ.allocate + τ.query + τ.giveBack) * count.toNat
  | .gralloc0 _, .dumpDebugInfo => τ.dump
  | .gralloc1 _, .dumpDebugInfo => 2 * τ.dump

/-- Every device call counts. -/
def work : Tariff := ⟨1, 1, 1, 1, 1, 1, 1⟩

/-- Only allocations count. -/
def buffers : Tariff := ⟨0, 0, 0, 1, 0, 0, 0⟩

/-- Only the creation of descriptors counts. -/
def descriptors : Tariff := ⟨1, 0, 0, 0, 0, 0, 0⟩

end Tariff

/-- The monitor that counts the cost of a request on a documented device. -/
abbrev spending (τ : Tariff) (limit : ℕ) : Monitor Call Answer ℕ :=
  budget τ.cost limit Documented

variable {τ : Tariff} {limit n : ℕ}

/-! ### The shared loops -/

/-- Allocating one buffer for a `price` out of which giving it back is paid. -/
def Priced (price : ℕ) (τ : Tariff) (n : ℕ) (r : Error × Option Handle × Option UInt32) (n' : ℕ) :
    Prop :=
  (r.1 = .none → (∃ b s, r.2 = (some b, some s)) ∧ n' + τ.giveBack ≤ n + price) ∧
    (r.1 ≠ .none → n' ≤ n + price)

namespace AllocatorHal

/-- **The loop invariant**: what was spent, the price of the iterations left, giving back what is
in the vector, and a `reserve`. -/
theorem allocateLoop_spends {one : Prog (Error × Option Handle × Option UInt32)}
    (price reserve : ℕ)
    (hone : ∀ n, n + price ≤ limit → Safe (spending τ limit) (Priced price τ n) n one)
    {k n : ℕ} {stride : UInt32} {buffers : List Handle}
    (h : n + price * k + τ.giveBack * buffers.length + reserve ≤ limit) :
    Safe (spending τ limit)
      (fun r n' ↦ n' + τ.giveBack * r.2.2.length + reserve ≤ limit) n
      (allocateLoop one k stride buffers) := by
  refine allocateLoop_safe
    (I := fun k _ buffers n ↦
      n + price * k + τ.giveBack * buffers.length + reserve ≤ limit) ?_ ?_ h
  · intro k stride buffers n h
    have hstep : price * (k + 1) = price * k + price := Nat.mul_succ price k
    refine (hone n (by omega)).mono fun r n' hr ↦ ⟨fun herror ↦ ?_, fun hnone ↦ ?_⟩
    · have hn' := hr.2 herror
      dsimp only
      omega
    · obtain ⟨⟨b, s, hbs⟩, hn'⟩ := hr.1 hnone
      have hlength : τ.giveBack * (buffers ++ [b]).length =
          τ.giveBack * buffers.length + τ.giveBack := by
        rw [List.length_append, List.length_singleton, Nat.mul_succ]
      refine ⟨b, s, hbs, fun _ ↦ ?_, fun _ _ ↦ ?_, fun _ _ ↦ ?_⟩ <;>
        rw [hlength] <;> omega
  · intro stride buffers n h
    simpa using h

/-- Giving back what is in the vector. -/
theorem freeLoop_spends {free : Handle → Prog Unit}
    (hfree : ∀ b n, n + τ.giveBack ≤ limit →
      Safe (spending τ limit) (fun _ n' ↦ n' = n + τ.giveBack) n (free b))
    {buffers : List Handle} (h : n + τ.giveBack * buffers.length ≤ limit) :
    Safe (spending τ limit) (fun _ n' ↦ n' ≤ limit) n (freeLoop free buffers) := by
  induction buffers generalizing n with
  | nil => exact h
  | cons buffer buffers ih =>
    have hlength : τ.giveBack * (buffer :: buffers).length =
        τ.giveBack * buffers.length + τ.giveBack := Nat.mul_succ _ _
    refine (hfree buffer n (by omega)).bind fun _ n' hn' ↦ ?_
    subst hn'
    exact ih (by omega)

end AllocatorHal

/-- A read of a local variable is free. -/
theorem readDescriptor_free {Q : DescriptorId → ℕ → Prop} {desc : Option DescriptorId}
    (hn : n ≤ limit) (h : ∀ d, Q d n) : Safe (spending τ limit) Q n (readDescriptor desc) := by
  cases desc with
  | none => exact safe_spend hn fun d _ ↦ h d
  | some d => exact h d

/-! ### The gralloc1 back end -/

namespace Gralloc1Hal

variable (decode : Decoder) (hal : Gralloc1Hal)

/-- The setter chain after `k` steps. -/
def Paid (τ : Tariff) (n k : ℕ) (error : Int32) (n' : ℕ) : Prop :=
  n' ≤ n + k * τ.setting ∧ error ≠ Gralloc1Error.notShared

/-- A setter pays for one step at most. -/
abbrev StepPaid (τ : Tariff) (n : ℕ) (error : Int32) (n' : ℕ) : Prop :=
  Paid τ n 1 error n'

theorem onSuccess_paid {k n' : ℕ} {error : Int32} {step : Prog Int32}
    (h : Paid τ n k error n') (hlimit : n + (k + 1) * τ.setting ≤ limit)
    (hstep : ∀ m, m + τ.setting ≤ limit → Safe (spending τ limit) (StepPaid τ m) m step) :
    Safe (spending τ limit) (Paid τ n (k + 1)) n' (onSuccess error step) := by
  have hk : (k + 1) * τ.setting = k * τ.setting + τ.setting := Nat.succ_mul _ _
  have hn' := h.1
  unfold onSuccess
  split
  · refine (hstep n' (by omega)).mono fun code m hm ↦ ⟨?_, hm.2⟩
    have hm := hm.1
    omega
  · exact ⟨by omega, h.2⟩

theorem setter_paid {c : Call} {k : Answer c → Prog Int32} (hcost : τ.cost c = τ.setting)
    (hk : ∀ x, ∃ code, k x = ret code ∧
      (SetUpAnswered ⟨c, x⟩ → code ≠ Gralloc1Error.notShared)) {m : ℕ}
    (hm : m + τ.setting ≤ limit) :
    Safe (spending τ limit) (StepPaid τ m) m (Program.call c k) := by
  refine safe_spend (by omega) fun x hx ↦ ?_
  obtain ⟨code, hcode, hanswered⟩ := hk x
  rw [hcode]
  refine ⟨?_, hanswered hx.1⟩
  omega

theorem setLayerCount_paid (d : DescriptorId) (layerCount : UInt32) {m : ℕ}
    (hm : m + τ.setting ≤ limit) :
    Safe (spending τ limit) (StepPaid τ m) m (hal.setLayerCount (some d) layerCount) := by
  unfold setLayerCount
  split_ifs
  · exact setter_paid (c := .setLayerCount d layerCount) rfl (fun x ↦ ⟨x, rfl, id⟩) hm
  · exact ⟨Nat.le_add_right m _, by decide⟩
  · exact ⟨Nat.le_add_right m _, by decide⟩

/-- The shared end of `createDescriptor` pays for the destruction of what it does not hand out. -/
theorem finishDescriptor_spends {error : Int32} {desc : Option DescriptorId}
    (herror : error ≠ Gralloc1Error.notShared) (hn : n + τ.destroy ≤ limit) :
    Safe (spending τ limit)
      (fun r n' ↦ n' ≤ n + τ.destroy ∧ (r.1 = .none → n' = n)) n
      (finishDescriptor error desc) := by
  unfold finishDescriptor
  split
  · exact ⟨Nat.le_add_right n _, fun _ ↦ rfl⟩
  · rename_i hnone
    refine (readDescriptor_free (Q := fun _ n' ↦ n' = n) (by omega) fun _ ↦ rfl).bind
      fun d n' hn' ↦ ?_
    subst hn'
    refine safe_spend hn fun _ _ ↦ ⟨Nat.le_refl _, fun hr ↦ ?_⟩
    exact absurd (toError_eq_none_iff.1 hr) (not_or.2 ⟨hnone, herror⟩)

/-- **Setting a descriptor up**: five settings, and the destruction of a descriptor that is not
handed out. -/
theorem createDescriptor_spends (info : BufferDescriptorInfo)
    (hlimit : τ.create + 5 * τ.setting + τ.destroy ≤ limit) :
    Safe (spending τ limit)
      (fun r n' ↦ n' ≤ limit ∧ (r.1 = .none → n' ≤ τ.create + 5 * τ.setting)) 0
      (hal.createDescriptor info) := by
  rw [createDescriptor_eq]
  refine safe_spend (by simp only [Tariff.cost]; omega) fun x hx ↦ ?_
  have hshared : x.1 ≠ Gralloc1Error.notShared := hx.1
  rw [Nat.zero_add]
  show Safe (spending τ limit) _ τ.create _
  by_cases hcreate : x.1 = Gralloc1Error.none
  · rw [if_pos hcreate, hcreate]
    have h₀ : Paid τ τ.create 0 Gralloc1Error.none τ.create := ⟨by omega, by decide⟩
    refine (onSuccess_paid h₀ (by omega) fun m hm ↦ ?_).bind fun error n h ↦ ?_
    · exact setter_paid (c := .setDimensions x.2 info.width info.height) rfl
        (fun x ↦ ⟨x, rfl, id⟩) hm
    refine (onSuccess_paid h (by omega) fun m hm ↦ ?_).bind fun error n h ↦ ?_
    · exact setter_paid (c := .setFormat x.2 info.format) rfl
        (fun x ↦ ⟨x, rfl, id⟩) hm
    refine (onSuccess_paid h (by omega) fun m hm ↦
      hal.setLayerCount_paid x.2 info.layerCount hm).bind fun error n h ↦ ?_
    refine (onSuccess_paid h (by omega) fun m hm ↦ ?_).bind fun error n h ↦ ?_
    · exact setter_paid (c := .setProducerUsage x.2 (toProducerUsage info.usage)) rfl
        (fun x ↦ ⟨x, rfl, id⟩) hm
    refine (onSuccess_paid h (by omega) fun m hm ↦ ?_).bind fun error n h ↦ ?_
    · exact setter_paid (c := .setConsumerUsage x.2 (toConsumerUsage info.usage)) rfl
        (fun x ↦ ⟨x, rfl, id⟩) hm
    have hn := h.1
    refine (finishDescriptor_spends h.2 (by omega)).mono fun r n' hn' ↦ ⟨?_, fun hr ↦ ?_⟩
    · have hle := hn'.1
      omega
    · have heq := hn'.2 hr
      omega
  · rw [if_neg hcreate, hal.configureDescriptor_of_error info hcreate]
    refine (finishDescriptor_spends hshared (by omega)).mono fun r n' hn' ↦ ⟨?_, fun hr ↦ ?_⟩
    · have hle := hn'.1
      omega
    · have heq := hn'.2 hr
      omega

theorem allocateOneBuffer_priced (d : DescriptorId)
    (hn : n + (τ.allocate + τ.query + τ.giveBack) ≤ limit) :
    Safe (spending τ limit) (Priced (τ.allocate + τ.query + τ.giveBack) τ n) n
      (allocateOneBuffer d) := by
  rw [allocateOneBuffer_eq]
  refine safe_spend (by simp only [Tariff.cost]; omega) fun x _ ↦ ?_
  dsimp only [Tariff.cost]
  split
  · rename_i hfailed
    refine ⟨fun hr ↦ absurd (toError_eq_none_iff.1 hr) (not_or.2 hfailed), fun _ ↦ ?_⟩
    omega
  · refine safe_spend (by simp only [Tariff.cost]; omega) fun y hy ↦ ?_
    dsimp only [Tariff.cost]
    split
    · rename_i hquery
      refine safe_spend (by simp only [Tariff.cost]; omega) fun _ _ ↦ ⟨fun hr ↦ ?_, fun _ ↦ ?_⟩
      · have hstride : y.1 ≠ Gralloc1Error.notShared := hy.2
        exact absurd (toError_eq_none_iff.1 hr) (not_or.2 ⟨hquery.1, hstride⟩)
      · dsimp only [Tariff.cost]
        omega
    · refine ⟨fun _ ↦ ⟨⟨x.2, y.2, rfl⟩, ?_⟩, fun hr ↦ absurd rfl hr⟩
      omega

theorem freeBuffers_spends {buffers : List Handle}
    (h : n + τ.giveBack * buffers.length ≤ limit) :
    Safe (spending τ limit) (fun _ n' ↦ n' ≤ limit) n (freeBuffers buffers) := by
  refine AllocatorHal.freeLoop_spends (fun b n hn ↦ ?_) h
  exact safe_spend hn fun _ _ ↦ rfl

/-- **`allocateBuffers`** leaves enough to give back what it hands out. -/
theorem allocateBuffers_spends (descriptor : BufferDescriptor) (count : UInt32)
    (hlimit : τ.create + 5 * τ.setting + τ.destroy +
      (τ.allocate + τ.query + τ.giveBack) * count.toNat ≤ limit) :
    Safe (spending τ limit)
      (fun r n ↦ r.1 = .none → n + τ.giveBack * r.2.buffers.length ≤ limit) 0
      (hal.allocateBuffers decode descriptor count ⟨none, []⟩) := by
  unfold allocateBuffers
  rcases decode descriptor with - | info
  · exact fun hr ↦ Error.noConfusion hr
  · refine (hal.createDescriptor_spends info (by omega)).bind fun ⟨error, desc⟩ n hn ↦ ?_
    dsimp only at hn ⊢
    split
    · rename_i herror
      exact fun hr ↦ absurd hr herror
    · rename_i hnone
      have hn := hn.2 (not_not.1 hnone)
      refine Safe.bind (AllocatorHal.allocateLoop_spends (τ.allocate + τ.query + τ.giveBack)
        τ.destroy (fun m hm ↦ ?_) ?_)
        fun ⟨error, stride, buffers⟩ n hn ↦ ?_
      · refine (readDescriptor_free (Q := fun _ m' ↦ m' = m) (by omega) fun _ ↦ rfl).bind
          fun d m' hm' ↦ ?_
        subst hm'
        exact allocateOneBuffer_priced d hm
      · simp only [List.length_nil, Nat.mul_zero, Nat.add_zero]
        omega
      · dsimp only at hn ⊢
        refine (readDescriptor_free (Q := fun _ n' ↦ n' = n) (by omega) fun _ ↦ rfl).bind
          fun d n' hn' ↦ ?_
        subst hn'
        refine safe_spend (by simp only [Tariff.cost]; omega) fun _ _ ↦ ?_
        dsimp only [Tariff.cost]
        split
        · rename_i herror
          exact (freeBuffers_spends (by omega)).bind fun _ _ _ hr ↦ absurd hr herror
        · intro _
          show _ + τ.giveBack * buffers.length ≤ limit
          omega

end Gralloc1Hal

/-! ### The gralloc0 back end -/

namespace Gralloc0Hal

theorem allocateOneBuffer_priced (info : BufferDescriptorInfo)
    (hn : n + (τ.allocate + τ.giveBack) ≤ limit) :
    Safe (spending τ limit) (Priced (τ.allocate + τ.giveBack) τ n) n (allocateOneBuffer info) := by
  by_cases hinfo : Unsupported info
  · rw [allocateOneBuffer, if_pos hinfo]
    exact ⟨fun hr ↦ Error.noConfusion hr, fun _ ↦ Nat.le_add_right n _⟩
  · rw [allocateOneBuffer_eq hinfo]
    refine safe_spend (by simp only [Tariff.cost]; omega) fun x _ ↦ ?_
    dsimp only [Tariff.cost]
    have hle : n + τ.allocate ≤ n + (τ.allocate + τ.giveBack) := by omega
    split_ifs
    · refine ⟨fun _ ↦ ⟨⟨x.2.1, _, rfl⟩, ?_⟩, fun hr ↦ absurd rfl hr⟩
      omega
    · exact ⟨fun hr ↦ Error.noConfusion hr, fun _ ↦ hle⟩
    · exact ⟨fun hr ↦ Error.noConfusion hr, fun _ ↦ hle⟩

theorem freeBuffers_spends {buffers : List Handle}
    (h : n + τ.giveBack * buffers.length ≤ limit) :
    Safe (spending τ limit) (fun _ n' ↦ n' ≤ limit) n (freeBuffers buffers) := by
  refine AllocatorHal.freeLoop_spends (fun b n hn ↦ ?_) h
  exact safe_spend hn fun _ _ ↦ rfl

theorem allocateBuffers_spends (decode : Decoder) (descriptor : BufferDescriptor) (count : UInt32)
    (hlimit : (τ.allocate + τ.giveBack) * count.toNat ≤ limit) :
    Safe (spending τ limit)
      (fun r n ↦ r.1 = .none → n + τ.giveBack * r.2.buffers.length ≤ limit) 0
      (allocateBuffers decode descriptor count ⟨none, []⟩) := by
  unfold allocateBuffers
  rcases decode descriptor with - | info
  · exact fun hr ↦ Error.noConfusion hr
  · refine Safe.bind (AllocatorHal.allocateLoop_spends (τ.allocate + τ.giveBack) 0
      (fun m hm ↦ allocateOneBuffer_priced info hm) ?_) fun ⟨error, stride, buffers⟩ n hn ↦ ?_
    · simpa using hlimit
    · dsimp only at hn ⊢
      split
      · rename_i herror
        exact (freeBuffers_spends (by omega)).bind fun _ _ _ hr ↦ absurd hr herror
      · intro _
        show n + τ.giveBack * buffers.length ≤ limit
        omega

end Gralloc0Hal

/-! ### One request -/

namespace Allocator

variable (decode : Decoder) (mHal : Hal)

theorem reply_spends {r : Error × Out} (hn : n ≤ limit)
    (h : r.1 = .none → n + τ.giveBack * r.2.buffers.length ≤ limit) :
    Safe (spending τ limit) (fun _ _ ↦ True) n (reply (mHal.toAllocatorHal decode) r) := by
  unfold reply
  split
  · exact safe_spend hn fun _ _ ↦ trivial
  · rename_i hnone
    have hread := readStride_calls (P := fun c ↦ τ.cost c = 0) rfl r.2.stride
    refine (safe_of_free hread hn).bind fun stride n' hn' ↦ ?_
    subst hn'
    refine safe_spend hn fun _ _ ↦ ?_
    have hfree := h (not_not.1 hnone)
    cases mHal with
    | gralloc0 hal => exact (Gralloc0Hal.freeBuffers_spends hfree).mono fun _ _ _ ↦ trivial
    | gralloc1 hal => exact (Gralloc1Hal.freeBuffers_spends hfree).mono fun _ _ _ ↦ trivial

theorem dumpDebugInfo_spends :
    Safe (spending τ (τ.price mHal .dumpDebugInfo)) (fun _ _ ↦ True) 0
      (serve decode mHal .dumpDebugInfo) := by
  cases mHal with
  | gralloc0 hal =>
    refine Safe.bind (Q := fun _ n ↦ n ≤ τ.dump) ?_ fun _ n hn ↦ safe_spend hn fun _ _ ↦ trivial
    show Safe _ _ 0 hal.dumpDebugInfo
    unfold Gralloc0Hal.dumpDebugInfo
    dsimp only
    split
    · refine safe_spend ?_ fun _ _ ↦ ?_
      · simp [Tariff.cost, Tariff.price]
      · exact Nat.le_of_eq (Nat.zero_add _)
    · exact Nat.zero_le _
  | gralloc1 hal =>
    have htwo : 2 * τ.dump = τ.dump + τ.dump := Nat.two_mul _
    refine Safe.bind (Q := fun _ n ↦ n ≤ 2 * τ.dump) ?_ fun _ n hn ↦ safe_spend hn fun _ _ ↦ trivial
    refine safe_spend ?_ fun x _ ↦ safe_spend ?_ fun y _ ↦ ?_
    · simp only [Tariff.cost, Tariff.price]
      omega
    · simp only [Tariff.cost, Tariff.price]
      omega
    · have hspent : 0 + τ.dump + τ.dump ≤ 2 * τ.dump := by omega
      simp only [Program.bind]
      split
      · exact hspent
      · exact safe_spend hspent fun _ _ ↦ hspent

/-- **A request keeps within its price**, on every path through it. -/
theorem serve_within_price (request : Request) :
    Safe (spending τ (τ.price mHal request)) (fun _ _ ↦ True) 0 (serve decode mHal request) := by
  cases request with
  | dumpDebugInfo => exact dumpDebugInfo_spends decode mHal
  | allocate descriptor count =>
    have hallocate : Safe (spending τ (τ.price mHal (.allocate descriptor count)))
        (fun r n ↦ r.1 = .none →
          n + τ.giveBack * r.2.buffers.length ≤ τ.price mHal (.allocate descriptor count)) 0
        ((mHal.toAllocatorHal decode).allocateBuffers descriptor count ⟨none, []⟩) := by
      cases mHal with
      | gralloc0 hal => exact Gralloc0Hal.allocateBuffers_spends decode descriptor count le_rfl
      | gralloc1 hal => exact hal.allocateBuffers_spends decode descriptor count le_rfl
    exact (hallocate.within (Nat.zero_le _)).bind fun r n hn ↦
      reply_spends decode mHal hn.2 hn.1

variable {decode mHal} {request : Request} {t : List DeviceEvent} {q : Prog Unit}

/-- **What a request costs.** Price the functions of the device in any way: whatever a documented
device answers, no request ever costs more than its price, at any point of its run. In particular
it makes at most `3 * count + 7` calls on a gralloc1 device and `2 * count` on a gralloc0 one. -/
theorem serve_spent_le (τ : Tariff) (h : Steps (serve decode mHal request) t q)
    (ht : ∀ e ∈ t, Documented e) : spent τ.cost t ≤ τ.price mHal request := by
  have hspent : 0 + spent τ.cost t ≤ τ.price mHal request :=
    (serve_within_price decode mHal request).spent_le (Nat.zero_le _) h ht
  rwa [Nat.zero_add] at hspent

/-- A request for two buffers on a device with layered buffers. -/
def twoLayered : Prog Unit :=
  serve (fun _ ↦ some ⟨64, 64, 1, 1, 0⟩) (.gralloc1 ⟨some 1, true, fun _ ↦ true⟩) (.allocate [] 2)

theorem serve_spent_le_two :
    spent Tariff.work.cost
      (run (numberingDevice fun _ ↦ Gralloc1Error.none) 0 twoLayered).trace ≤ 3 * 2 + 7 :=
  serve_spent_le Tariff.work (runs_run (numberingDevice fun _ ↦ Gralloc1Error.none) 0 twoLayered)
    (by decide)

/-- The price is reached. -/
example : spent Tariff.work.cost
    (run (numberingDevice fun _ ↦ Gralloc1Error.none) 0 twoLayered).trace = 13 := by decide

end Allocator

end XenvmHal
