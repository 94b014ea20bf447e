import XenvmHal.Allocator.Settles

/-!
# The two back ends agree

The back ends are two separate loops over two different devices. Let the devices answer from
corresponding scripts, `σ₀ i` and `σ₁ i` being the answers to the i-th attempt to get a buffer.
Corresponding answers decide the same attempt (`Corresponds.attemptOf_eq`), the attempts of both
requests are settled, so by `Attempt.Settled.unique` they are the same attempts, and everything a
request returns and gives back is a function of its attempts.
-/

namespace XenvmHal

open Interaction Program

/-- The answers of a gralloc0 device to attempt number `i`. -/
abbrev Gralloc0Script := ℕ → Int32 × Handle × Int32

/-- The answers of a gralloc1 device to attempt number `i`: to `allocate` and to the stride query
that follows. -/
abbrev Gralloc1Script := ℕ → (Int32 × Handle) × (Int32 × UInt32)

/-- An event in an attempt to get a buffer is answered from the script; `s` is the account of the
request so far. -/
def Gralloc0Script.Answers (σ₀ : Gralloc0Script) (s : Account) : DeviceEvent → Prop
  | ⟨.alloc _ _ _ _, x⟩ => x = σ₀ s.attempts.length
  | _ => True

/-- An event in an attempt to get a buffer is answered from the script; `s` is the account of the
request so far. -/
def Gralloc1Script.Answers (σ₁ : Gralloc1Script) (s : Account) : DeviceEvent → Prop
  | ⟨.allocate _, x⟩ => x = (σ₁ s.attempts.length).1
  | ⟨.getStride _, y⟩ => y = (σ₁ s.attempts.length).2
  | _ => True

/-- The answer to a gralloc0 allocation; `x` for other calls. -/
def allocAnswer (x : Int32 × Handle × Int32) : DeviceEvent → Int32 × Handle × Int32
  | ⟨.alloc _ _ _ _, answer⟩ => answer
  | _ => x

/-- The answer to a gralloc1 allocation; `x` for other calls. -/
def allocateAnswer (x : Int32 × Handle) : DeviceEvent → Int32 × Handle
  | ⟨.allocate _, answer⟩ => answer
  | _ => x

/-- The answer to a stride query; `y` for other calls. -/
def strideAnswer (y : Int32 × UInt32) : DeviceEvent → Int32 × UInt32
  | ⟨.getStride _, answer⟩ => answer
  | _ => y

theorem Gralloc0Script.answers_iff (σ₀ : Gralloc0Script) (s : Account) (e : DeviceEvent) :
    allocAnswer (σ₀ s.attempts.length) e = σ₀ s.attempts.length ↔ σ₀.Answers s e := by
  obtain ⟨c, x⟩ := e
  cases c
  case alloc => exact Iff.rfl
  all_goals exact iff_of_true rfl trivial

theorem Gralloc1Script.answers_iff (σ₁ : Gralloc1Script) (s : Account) (e : DeviceEvent) :
    allocateAnswer (σ₁ s.attempts.length).1 e = (σ₁ s.attempts.length).1 ∧
      strideAnswer (σ₁ s.attempts.length).2 e = (σ₁ s.attempts.length).2 ↔ σ₁.Answers s e := by
  obtain ⟨c, x⟩ := e
  cases c
  case allocate => exact and_iff_left rfl
  case getStride => exact and_iff_right rfl
  all_goals exact iff_of_true ⟨rfl, rfl⟩ trivial

instance (σ₀ : Gralloc0Script) (s : Account) : DecidablePred (σ₀.Answers s) :=
  fun e ↦ decidable_of_iff _ (σ₀.answers_iff s e)

instance (σ₁ : Gralloc1Script) (s : Account) : DecidablePred (σ₁.Answers s) :=
  fun e ↦ decidable_of_iff _ (σ₁.answers_iff s e)

/-- **Corresponding answers** to one attempt. -/
def Corresponds (x : Int32 × Handle × Int32) (y : (Int32 × Handle) × (Int32 × UInt32)) : Prop :=
  (x.1 = 0 ∧ (y.1.1 = Gralloc1Error.none ∨ y.1.1 = Gralloc1Error.notShared) ∧ y.1.2 = x.2.1 ∧
      (y.2.1 = Gralloc1Error.none ∨ y.2.1 = Gralloc1Error.undefined) ∧ y.2.2 = x.2.2.toUInt32) ∨
    (x.1 = negEINVAL ∧ y.1.1 = Gralloc1Error.badValue) ∨
    (x.1 ≠ 0 ∧ x.1 ≠ negEINVAL ∧ y.1.1 = Gralloc1Error.noResources)

/-- The attempt that the script decides. -/
def Gralloc0Script.attempt (σ₀ : Gralloc0Script) (i : ℕ) : Attempt :=
  Gralloc0Hal.attemptOf (σ₀ i)

/-- The attempt that the script decides. -/
def Gralloc1Script.attempt (σ₁ : Gralloc1Script) (i : ℕ) : Attempt :=
  Gralloc1Hal.attemptOf (σ₁ i).1 (σ₁ i).2

/-- The two codes that stand for a failing gralloc0 call are failures of gralloc1. -/
theorem not_got_of_code {code : Int32}
    (h : code = Gralloc1Error.badValue ∨ code = Gralloc1Error.noResources) :
    ¬(code = Gralloc1Error.none ∨ code = Gralloc1Error.notShared) := by
  rcases h with rfl | rfl <;> decide

/-- Corresponding answers decide the same attempt. -/
theorem Corresponds.attemptOf_eq {x : Int32 × Handle × Int32}
    {y : (Int32 × Handle) × (Int32 × UInt32)} (h : Corresponds x y) :
    Gralloc0Hal.attemptOf x = Gralloc1Hal.attemptOf y.1 y.2 := by
  unfold Gralloc0Hal.attemptOf Gralloc1Hal.attemptOf Gralloc1Hal.strideAttempt
  rcases h with ⟨hx, hcode, hbuffer, hquery, hstride⟩ | ⟨hx, hcode⟩ | ⟨hx, hinval, hcode⟩
  · rw [if_pos hx, if_pos hcode, if_pos hquery, hbuffer, hstride]
  · rw [if_neg (by rw [hx]; decide), if_pos hx, if_neg (not_got_of_code (.inl hcode)), hcode]
    rfl
  · rw [if_neg hx, if_neg hinval, if_neg (not_got_of_code (.inr hcode)), hcode]
    rfl

/-- A successful allocation has a stride query that succeeds. -/
theorem Corresponds.query {x : Int32 × Handle × Int32} {y : (Int32 × Handle) × (Int32 × UInt32)}
    (h : Corresponds x y)
    (hgot : y.1.1 = Gralloc1Error.none ∨ y.1.1 = Gralloc1Error.notShared) :
    y.2.1 ≠ Gralloc1Error.notShared := by
  rcases h with ⟨-, -, -, hquery, -⟩ | ⟨-, hcode⟩ | ⟨-, -, hcode⟩
  · rcases hquery with hquery | hquery <;> rw [hquery] <;> decide
  · exact absurd hgot (not_got_of_code (.inl hcode))
  · exact absurd hgot (not_got_of_code (.inr hcode))

theorem Gralloc0Script.reliable (σ₀ : Gralloc0Script) :
    Gralloc0Hal.Reliable σ₀.Answers fun earlier a ↦ a = σ₀.attempt earlier.length where
  allocated h := congrArg Gralloc0Hal.attemptOf h

theorem Gralloc1Script.reliable {σ₀ : Gralloc0Script} {σ₁ : Gralloc1Script}
    (hσ : ∀ i, Corresponds (σ₀ i) (σ₁ i)) :
    Gralloc1Hal.Reliable (fun s e ↦ SetUpSucceeds e ∧ σ₁.Answers s e)
      fun earlier a ↦ a = σ₁.attempt earlier.length where
  setUp h := h.1.answered
  refused := by
    rintro s d x ⟨-, rfl⟩ hrefused
    exact (if_neg hrefused).symm
  queried := by
    rintro s d x y ⟨-, rfl⟩ hgot ⟨-, rfl⟩
    exact ⟨(hσ _).query hgot, (if_pos hgot).symm⟩

namespace Gralloc0Hal

theorem IsBufferCall.setUpSucceeds {e : DeviceEvent} (h : IsBufferCall e.call) :
    SetUpSucceeds e := by
  obtain ⟨c, x⟩ := e
  cases c <;> trivial

/-- Requests that both back ends can express. -/
theorem refusal_eq_none {info : BufferDescriptorInfo} (hlayers : info.layerCount ≤ 1)
    (husage : info.usage < 0x100000000) (count : UInt32) : refusal info count = none := by
  have hhigh : info.usage >>> 32 = 0 := by
    have hlt : info.usage.toNat < 2 ^ 32 := UInt64.lt_iff_toNat_lt.1 husage
    refine UInt64.toNat_inj.1 ?_
    rw [UInt64.toNat_shiftRight, Nat.shiftRight_eq_div_pow]
    exact Nat.div_eq_of_lt hlt
  refine if_neg fun h ↦ h.2.elim (fun hmany ↦ ?_) fun hbits ↦ hbits hhigh
  exact absurd hmany (UInt32.not_lt.2 hlayers)

end Gralloc0Hal

theorem Gralloc1Hal.refusal_eq_none (hal : Gralloc1Hal) {info : BufferDescriptorInfo}
    (hlayers : info.layerCount ≤ 1) : hal.refusal info = none :=
  if_neg fun h ↦ absurd h.2 (UInt32.not_lt.2 hlayers)

/-- **A settled request is a function of its attempts**: two requests for as many buffers whose
answers decide the same attempts return the same and give back the same. -/
theorem Settles.unique {count : ℕ} {out : Out} {r r' : Error × Out} {s s' : Account}
    {attempt : ℕ → Attempt}
    (h : Settles (fun earlier a ↦ a = attempt earlier.length) out count none r s)
    (h' : Settles (fun earlier a ↦ a = attempt earlier.length) out count none r' s')
    (hs : s.failure = Attempt.firstFailure s.attempts)
    (hs' : s'.failure = Attempt.firstFailure s'.attempts) : r = r' ∧ s.freed = s'.freed := by
  have hsettled : ∀ {s : Account} {r : Error × Out},
      Settles (fun earlier a ↦ a = attempt earlier.length) out count none r s →
        s.failure = Attempt.firstFailure s.attempts → Attempt.Settled count s.attempts := by
    intro s r h hs
    refine h.settled ?_
    by_cases hnil : s.attempts = []
    · exact .inl (by simp [hs, hnil, Attempt.firstFailure])
    · exact .inr hnil
  have hattempts : s.attempts = s'.attempts := by
    refine (hsettled h hs).unique (hsettled h' hs') fun i hi hi' ↦ ?_
    have hget : ∀ {l : List Attempt} (hi : i < l.length),
        Throughout (fun earlier a ↦ a = attempt earlier.length) l → l[i] = attempt i := by
      intro l hi hl
      simpa [Nat.min_eq_left (Nat.le_of_lt hi)] using throughout_iff_getElem.1 hl ⟨i, hi⟩
    rw [hget hi h.possible, hget hi' h'.possible]
  have hfailure : s.failure = s'.failure := by rw [hs, hs', hattempts]
  refine ⟨?_, by rw [h.freed, h'.freed, hattempts, hfailure]⟩
  rcases hcase : s'.failure.or none with - | error
  · rw [h'.served hcase, h.served (hfailure ▸ hcase), hattempts]
  · rw [(h'.failed error hcase).1, (h.failed error (hfailure ▸ hcase)).1]

/-- **The back ends agree.** On corresponding answers, and for any descriptor that both can
express, `allocateBuffers` returns the same error, the same stride and the same buffers, and gives
back the same buffers in the same order. -/
theorem allocateBuffers_agree (decode : Decoder) (hal : Gralloc1Hal)
    {descriptor : BufferDescriptor} (count : UInt32) (out : Out)
    (hdescriptor : ∀ info, decode descriptor = some info →
      info.layerCount ≤ 1 ∧ info.usage < 0x100000000)
    {σ₀ : Gralloc0Script} {σ₁ : Gralloc1Script} (hσ : ∀ i, Corresponds (σ₀ i) (σ₁ i))
    {t₀ t₁ : List DeviceEvent} {r₀ r₁ : Error × Out}
    (h₀ : Runs (Gralloc0Hal.allocateBuffers decode descriptor count out) t₀ r₀)
    (h₁ : Runs (hal.allocateBuffers decode descriptor count out) t₁ r₁)
    (ha₀ : Throughout (fun u e ↦ σ₀.Answers (account u) e) t₀)
    (ha₁ : Throughout (fun u e ↦ σ₁.Answers (account u) e) t₁)
    (hsetUp : ∀ e ∈ t₁, SetUpSucceeds e) :
    r₀ = r₁ ∧ (account t₀).freed = (account t₁).freed := by
  rcases hdecode : decode descriptor with - | info
  · rw [Gralloc0Hal.allocateBuffers, hdecode] at h₀
    rw [Gralloc1Hal.allocateBuffers, hdecode] at h₁
    obtain ⟨rfl, rfl⟩ := runs_ret_iff.1 h₀
    obtain ⟨rfl, rfl⟩ := runs_ret_iff.1 h₁
    exact ⟨rfl, rfl⟩
  · obtain ⟨hlayers, husage⟩ := hdescriptor info hdecode
    have hscript : (fun earlier a ↦ a = σ₁.attempt (List.length earlier)) =
        fun (earlier : List Attempt) a ↦ a = σ₀.attempt earlier.length := by
      funext earlier a
      rw [Gralloc1Script.attempt, Gralloc0Script.attempt, (hσ _).attemptOf_eq]
    have hs₀ := (Gralloc0Hal.allocateBuffers_settles decode ⟨none, false⟩ σ₀.reliable descriptor
      count out).runs h₀ (by rw [Monitor.assumes_iff_throughout]; exact ha₀) |>.2
    have hs₁ := (Gralloc1Hal.allocateBuffers_settles decode hal (Gralloc1Script.reliable hσ)
      descriptor count out).runs h₁ (by
        rw [Monitor.assumes_iff_throughout]
        exact fun u e v huv ↦ ⟨hsetUp e (by rw [huv]; simp), ha₁ u e v huv⟩) |>.2
    rw [Hal.refusal, hdecode] at hs₀ hs₁
    dsimp only at hs₀ hs₁
    rw [Gralloc0Hal.refusal_eq_none hlayers husage] at hs₀
    rw [hal.refusal_eq_none hlayers, hscript] at hs₁
    refine hs₀.unique hs₁ (account_failure fun e he ↦ ?_) (account_failure hsetUp)
    exact (((Gralloc0Hal.allocateBuffers_only decode descriptor count out).steps h₀).1 e
      he).setUpSucceeds

/-- Both devices, answering from the scripts; the state counts the attempts. -/
def scriptedDevice (σ₀ : Gralloc0Script) (σ₁ : Gralloc1Script) : Handler Call Answer ℕ where
  answer i
    | .alloc _ _ _ _ => σ₀ i
    | .allocate _ => (σ₁ i).1
    | .getStride _ => (σ₁ i).2
    | _ => default
  next i
    | .alloc _ _ _ _ => i + 1
    | .getStride _ => i + 1
    | _ => i

/-- One buffer, then no more resources. -/
def oneThenNone₀ : Gralloc0Script := fun i ↦ if i = 0 then (0, 1, 64) else (-12, 0, 0)

/-- One buffer, of a device that cannot tell its stride in advance, then no more resources. -/
def oneThenNone₁ : Gralloc1Script := fun i ↦
  if i = 0 then ((Gralloc1Error.notShared, 1), (Gralloc1Error.undefined, 64))
  else ((Gralloc1Error.noResources, 0), (0, 0))

theorem oneThenNone_corresponds (i : ℕ) : Corresponds (oneThenNone₀ i) (oneThenNone₁ i) := by
  cases i with
  | zero => exact .inl (by decide)
  | succ i => exact .inr (.inr (by simp [oneThenNone₀, oneThenNone₁]))

theorem allocateBuffers_agree_two :
    let device := scriptedDevice oneThenNone₀ oneThenNone₁
    let decode : Decoder := fun _ ↦ some ⟨64, 64, 1, 1, 0⟩
    let o₀ := run device 0 (Gralloc0Hal.allocateBuffers decode [] 2 ⟨none, []⟩)
    let o₁ := run device 0
      (Gralloc1Hal.allocateBuffers decode ⟨some 1, true, fun _ ↦ true⟩ [] 2 ⟨none, []⟩)
    o₀.value = o₁.value ∧ (account o₀.trace).freed = (account o₁.trace).freed :=
  allocateBuffers_agree (fun _ ↦ some ⟨64, 64, 1, 1, 0⟩) ⟨some 1, true, fun _ ↦ true⟩ 2 ⟨none, []⟩
    (by rintro info ⟨⟩; decide) oneThenNone_corresponds (runs_run _ 0 _) (runs_run _ 0 _)
    (by decide) (by decide) (by decide)

end XenvmHal
