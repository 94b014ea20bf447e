import XenvmHal.Allocator.GrallocLoader

/-!
# What a request should do: its account

The specification of one allocation request, in terms of what the device answered and not of how
the code is written.

An `Attempt` is the outcome of trying to get one buffer. `Attempt.judge` says when an attempt
fails a request whose earlier attempts are known: when it failed itself, or when its stride is
not the first nonzero one. Attempts are `Settled` when they stop at the first failure and, without
one, reach the number asked for; two settled lists that agree wherever both are defined are equal
(`Settled.unique`), so the answers determine how far a request goes.

An `Account` is what a trace says about its request: the first failure in call order, the
attempts, the buffers given back and the replies. `Hal.firstFailure` adds the requests that are
turned down without asking the device.
-/

namespace XenvmHal

open Interaction

/-- The outcome of trying to get one buffer. -/
inductive Attempt
  /-- It failed; `dropped` is a buffer it had obtained by then and gave back. -/
  | failed (error : Error) (dropped : Option Handle)
  /-- It obtained a buffer, of this stride. -/
  | allocated (buffer : Handle) (stride : UInt32)
  deriving DecidableEq, Repr

namespace Attempt

/-- The buffer obtained. -/
def buffer? : Attempt → Option Handle
  | failed _ _ => none
  | allocated buffer _ => some buffer

/-- The stride of the buffer obtained. -/
def stride? : Attempt → Option UInt32
  | failed _ _ => none
  | allocated _ stride => some stride

/-- The buffer obtained and given back. -/
def dropped? : Attempt → Option Handle
  | failed _ dropped => dropped
  | allocated _ _ => none

/-- The buffers obtained, in order. -/
def buffers (l : List Attempt) : List Handle :=
  l.filterMap buffer?

/-- The buffers given back on the way, in order. -/
def dropped (l : List Attempt) : List Handle :=
  l.filterMap dropped?

/-- The first nonzero stride, 0 when there is none. -/
def commonStride : List Attempt → UInt32
  | [] => 0
  | failed _ _ :: l => commonStride l
  | allocated _ stride :: l => if stride ≠ 0 then stride else commonStride l

/-- How an attempt fails its request, given the attempts before it. -/
def judge (earlier : List Attempt) : Attempt → Option Error
  | failed error _ => some error
  | allocated _ stride =>
    if commonStride earlier = 0 ∨ commonStride earlier = stride then none else some .unsupported

/-- The first failure among the attempts. -/
def firstFailure : List Attempt → Option Error :=
  firstSome judge

variable {l l' : List Attempt} {a : Attempt}

@[simp] theorem buffers_snoc_allocated (b : Handle) (s : UInt32) :
    buffers (l ++ [allocated b s]) = buffers l ++ [b] := by
  simp [buffers, buffer?]

@[simp] theorem buffers_snoc_failed (e : Error) (d : Option Handle) :
    buffers (l ++ [failed e d]) = buffers l := by
  simp [buffers, buffer?]

@[simp] theorem dropped_snoc : dropped (l ++ [a]) = dropped l ++ a.dropped?.toList := by
  cases h : a.dropped? <;> simp [dropped, h]

theorem commonStride_append :
    commonStride (l ++ l') = if commonStride l ≠ 0 then commonStride l else commonStride l' := by
  induction l with
  | nil => simp [commonStride]
  | cons a l ih =>
    cases a with
    | failed e d => exact ih
    | allocated b s =>
      simp only [List.cons_append, commonStride, ih]
      split_ifs <;> simp_all

@[simp] theorem commonStride_snoc_failed (e : Error) (d : Option Handle) :
    commonStride (l ++ [failed e d]) = commonStride l := by
  simpa [commonStride_append, commonStride] using Eq.symm

theorem commonStride_snoc_allocated (b : Handle) (s : UInt32) :
    commonStride (l ++ [allocated b s]) = if commonStride l ≠ 0 then commonStride l else s := by
  by_cases hs : s = 0 <;> simp [commonStride_append, commonStride, hs]

@[simp] theorem firstFailure_snoc :
    firstFailure (l ++ [a]) = (firstFailure l).or (judge l a) :=
  firstSome_snoc

/-- Every attempt of a request without a failure obtained a buffer. -/
theorem length_buffers (h : firstFailure l = none) : (buffers l).length = l.length := by
  induction l using List.reverseRecOn with
  | nil => rfl
  | append_singleton l a ih =>
    rw [firstFailure_snoc, Option.or_eq_none_iff] at h
    cases a with
    | failed e d => simp [judge] at h
    | allocated b s => simpa using ih h.1

/-- **Settled attempts** of a request for `n` buffers: none comes after a failure, and without a
failure there are `n` of them. -/
structure Settled (n : ℕ) (l : List Attempt) : Prop where
  stops : Throughout (fun earlier _ ↦ firstFailure earlier = none) l
  bound : l.length ≤ n
  complete : firstFailure l = none → l.length = n

theorem Settled.prefix_eq {n : ℕ} (h : Settled n l) (h' : Settled n l') (hl : l <+: l') :
    l = l' := by
  obtain ⟨r, rfl⟩ := hl
  rcases r with - | ⟨a, r⟩
  · simp
  · have hlength := h.complete (h'.stops l a r rfl)
    have := h'.bound
    simp only [List.length_append, List.length_cons] at this
    omega

/-- **The answers determine the attempts.** -/
theorem Settled.unique {n : ℕ} (h : Settled n l) (h' : Settled n l')
    (hagree : ∀ (i : ℕ) (hi : i < l.length) (hi' : i < l'.length), l[i] = l'[i]) : l = l' := by
  have hpre : ∀ {u v : List Attempt}, u.length ≤ v.length →
      (∀ (i : ℕ) (hi : i < u.length) (hi' : i < v.length), u[i] = v[i]) → u <+: v := by
    intro u v hle huv
    rw [List.prefix_iff_eq_take]
    refine List.ext_getElem (by simp [hle]) fun i hi _ ↦ ?_
    simpa using huv i hi (by omega)
  rcases Nat.le_total l.length l'.length with hle | hle
  · exact h.prefix_eq h' (hpre hle hagree)
  · exact (h'.prefix_eq h (hpre hle fun i hi hi' ↦ (hagree i hi' hi).symm)).symm

end Attempt

/-! ### What an answer decides -/

/-- The attempt that a stride query for `buffer` decides. -/
def Gralloc1Hal.strideAttempt (buffer : Handle) (y : Int32 × UInt32) : Attempt :=
  if y.1 = Gralloc1Error.none ∨ y.1 = Gralloc1Error.undefined then .allocated buffer y.2
  else .failed (toError y.1) (some buffer)

/-- The attempt that an answer to `allocate` decides, with the stride query it leads to. -/
def Gralloc1Hal.attemptOf (x : Int32 × Handle) (y : Int32 × UInt32) : Attempt :=
  if x.1 = Gralloc1Error.none ∨ x.1 = Gralloc1Error.notShared then strideAttempt x.2 y
  else .failed (toError x.1) none

/-- The attempt that an answer to `alloc` decides. -/
def Gralloc0Hal.attemptOf (x : Int32 × Handle × Int32) : Attempt :=
  if x.1 = 0 then .allocated x.2.1 x.2.2.toUInt32
  else if x.1 = negEINVAL then .failed .badValue none
  else .failed .noResources none

/-! ### The account of a trace -/

/-- What a trace says about its request. -/
structure Account where
  /-- The first failure, in call order. -/
  failure : Option Error
  /-- The outcome of each attempt to get a buffer. -/
  attempts : List Attempt
  /-- The buffers given back. -/
  freed : List Handle
  /-- The replies made. -/
  replies : List (Error × UInt32 × List Handle)
  deriving DecidableEq

namespace Account

/-- Nothing has happened. -/
def empty : Account := ⟨none, [], [], []⟩

/-- The failure that the return code of a set-up call stands for. -/
def failureOf (code : Int32) : Option Error :=
  if code = Gralloc1Error.none then none else some (Gralloc1Hal.toError code)

/-- A set-up call has returned. -/
def setUp (s : Account) (code : Int32) : Account :=
  { s with failure := s.failure.or (failureOf code) }

/-- An attempt to get a buffer is decided. -/
def attempt (s : Account) (a : Attempt) : Account :=
  { s with failure := s.failure.or (a.judge s.attempts), attempts := s.attempts ++ [a] }

/-- A buffer goes back. -/
def free (s : Account) (buffer : Handle) : Account :=
  { s with freed := s.freed ++ [buffer] }

/-- A reply is made. -/
def reply (s : Account) (error : Error) (stride : UInt32) (buffers : List Handle) : Account :=
  { s with replies := s.replies ++ [(error, stride, buffers)] }

/-- Enter one event into the account. A gralloc1 allocation that succeeds is decided by its
stride query. -/
def record (s : Account) : DeviceEvent → Account
  | ⟨.createDescriptor, (code, _)⟩ => s.setUp code
  | ⟨.setDimensions _ _ _, code⟩ | ⟨.setFormat _ _, code⟩ | ⟨.setLayerCount _ _, code⟩
  | ⟨.setProducerUsage _ _, code⟩ | ⟨.setConsumerUsage _ _, code⟩ => s.setUp code
  | ⟨.allocate _, (code, _)⟩ =>
    if code = Gralloc1Error.none ∨ code = Gralloc1Error.notShared then s
    else s.attempt (.failed (Gralloc1Hal.toError code) none)
  | ⟨.getStride buffer, y⟩ => s.attempt (Gralloc1Hal.strideAttempt buffer y)
  | ⟨.alloc _ _ _ _, x⟩ => s.attempt (Gralloc0Hal.attemptOf x)
  | ⟨.release buffer, _⟩ | ⟨.free buffer, _⟩ => s.free buffer
  | ⟨.hidlCb error stride buffers, _⟩ => s.reply error stride buffers
  | _ => s

end Account

/-- The account of a trace. -/
def account (t : List DeviceEvent) : Account :=
  t.foldl Account.record Account.empty

@[simp] theorem account_snoc (t : List DeviceEvent) (e : DeviceEvent) :
    account (t ++ [e]) = (account t).record e := by
  simp [account]

/-- The device carried out a set-up call. -/
def SetUpSucceeds : DeviceEvent → Prop
  | ⟨.createDescriptor, (code, _)⟩ => code = Gralloc1Error.none
  | ⟨.setDimensions _ _ _, code⟩ | ⟨.setFormat _ _, code⟩ | ⟨.setLayerCount _ _, code⟩
  | ⟨.setProducerUsage _ _, code⟩ | ⟨.setConsumerUsage _ _, code⟩ => code = Gralloc1Error.none
  | _ => True

theorem setUpSucceeds_iff (e : DeviceEvent) :
    setUpCode e = Gralloc1Error.none ↔ SetUpSucceeds e := by
  obtain ⟨c, x⟩ := e
  cases c
  case createDescriptor | setDimensions | setFormat | setLayerCount | setProducerUsage
      | setConsumerUsage => exact Iff.rfl
  all_goals exact iff_of_true rfl trivial

instance : DecidablePred SetUpSucceeds :=
  fun e ↦ decidable_of_iff _ (setUpSucceeds_iff e)

namespace Account

/-- **What one event can do** to an account. -/
theorem record_cases (s : Account) (e : DeviceEvent) :
    (∃ code, s.record e = s.setUp code ∧ (SetUpSucceeds e → code = Gralloc1Error.none)) ∨
      (∃ a, s.record e = s.attempt a) ∨ (∃ buffer, s.record e = s.free buffer) ∨
        (∃ error stride buffers, s.record e = s.reply error stride buffers) ∨ s.record e = s := by
  obtain ⟨c, x⟩ := e
  cases c
  case createDescriptor => exact .inl ⟨x.1, rfl, id⟩
  case setDimensions | setFormat | setLayerCount | setProducerUsage | setConsumerUsage =>
    exact .inl ⟨x, rfl, id⟩
  case allocate =>
    by_cases h : x.1 = Gralloc1Error.none ∨ x.1 = Gralloc1Error.notShared
    · exact .inr (.inr (.inr (.inr (if_pos h))))
    · exact .inr (.inl ⟨_, if_neg h⟩)
  case getStride | alloc => exact .inr (.inl ⟨_, rfl⟩)
  case release | free => exact .inr (.inr (.inl ⟨_, rfl⟩))
  case hidlCb => exact .inr (.inr (.inr (.inl ⟨_, _, _, rfl⟩)))
  all_goals exact .inr (.inr (.inr (.inr rfl)))

/-- Attempts are only added, and a failure stays. -/
structure Extends (s s' : Account) : Prop where
  attempts : s.attempts <+: s'.attempts
  failure : s'.failure = none → s.failure = none

theorem record_extends (s : Account) (e : DeviceEvent) : s.Extends (s.record e) := by
  rcases s.record_cases e with ⟨code, h, -⟩ | ⟨a, h⟩ | ⟨b, h⟩ | ⟨r, n, bs, h⟩ | h <;> rw [h]
  · exact ⟨List.prefix_rfl, fun h ↦ (Option.or_eq_none_iff.1 h).1⟩
  · exact ⟨List.prefix_append _ _, fun h ↦ (Option.or_eq_none_iff.1 h).1⟩
  · exact ⟨List.prefix_rfl, id⟩
  · exact ⟨List.prefix_rfl, id⟩
  · exact ⟨List.prefix_rfl, id⟩

theorem extends_append (t u : List DeviceEvent) : (account t).Extends (account (t ++ u)) := by
  induction u using List.reverseRecOn with
  | nil => simpa using ⟨List.prefix_rfl, id⟩
  | append_singleton u e ih =>
    have hlast := record_extends (account (t ++ u)) e
    rw [← List.append_assoc, account_snoc]
    exact ⟨ih.attempts.trans hlast.attempts, fun h ↦ ih.failure (hlast.failure h)⟩

end Account

/-- A failing attempt fails its request. -/
theorem firstFailure_of_account {t : List DeviceEvent} (h : (account t).failure = none) :
    Attempt.firstFailure (account t).attempts = none := by
  induction t using List.reverseRecOn with
  | nil => rfl
  | append_singleton t e ih =>
    rw [account_snoc] at h ⊢
    rcases (account t).record_cases e with
      ⟨code, hr, -⟩ | ⟨a, hr⟩ | ⟨b, hr⟩ | ⟨r, n, bs, hr⟩ | hr <;> rw [hr] at h ⊢
    · exact ih (Option.or_eq_none_iff.1 h).1
    · obtain ⟨hold, hnew⟩ := Option.or_eq_none_iff.1 h
      simp [Account.attempt, ih hold, hnew]
    · exact ih h
    · exact ih h
    · exact ih h

/-- When set-up succeeds, the first failure is that of the attempts. -/
theorem account_failure {t : List DeviceEvent} (h : ∀ e ∈ t, SetUpSucceeds e) :
    (account t).failure = Attempt.firstFailure (account t).attempts := by
  induction t using List.reverseRecOn with
  | nil => rfl
  | append_singleton t e ih =>
    have ih := ih fun d hd ↦ h d (List.mem_append_left _ hd)
    rw [account_snoc]
    rcases (account t).record_cases e with
      ⟨code, hr, hcode⟩ | ⟨a, hr⟩ | ⟨b, hr⟩ | ⟨r, n, bs, hr⟩ | hr <;> rw [hr]
    · have hnone := hcode (h e (by simp))
      simp [Account.setUp, Account.failureOf, hnone, ih]
    · simp [Account.attempt, ih]
    · exact ih
    · exact ih
    · exact ih

/-! ### Requests turned down without asking the device -/

/-- A layer count that a device without layered buffers cannot take. -/
def Gralloc1Hal.refusal (hal : Gralloc1Hal) (info : BufferDescriptorInfo) : Option Error :=
  if hal.layeredBuffers = false ∧ info.layerCount > 1 then some .unsupported else none

/-- A buffer that gralloc0 cannot express. -/
def Gralloc0Hal.refusal (info : BufferDescriptorInfo) (count : UInt32) : Option Error :=
  if count ≠ 0 ∧ Gralloc0Hal.Unsupported info then some .badValue else none

/-- The refusal of a request, if its descriptor does not decode or its back end cannot serve it. -/
def Hal.refusal (decode : Decoder) (mHal : Hal) (descriptor : BufferDescriptor)
    (count : UInt32) : Option Error :=
  match decode descriptor with
  | none => some .badDescriptor
  | some info =>
    match mHal with
    | gralloc0 _ => Gralloc0Hal.refusal info count
    | gralloc1 hal => hal.refusal info

/-- **The first failure of a request**, in call order: once a request is refused the device is
asked for nothing more, so a failing device call comes first. -/
def Hal.firstFailure (decode : Decoder) (mHal : Hal) (descriptor : BufferDescriptor)
    (count : UInt32) (s : Account) : Option Error :=
  s.failure.or (mHal.refusal decode descriptor count)

theorem SetUpSucceeds.answered {e : DeviceEvent} (h : SetUpSucceeds e) : SetUpAnswered e := by
  obtain ⟨c, x⟩ := e
  cases c
  case createDescriptor | setDimensions | setFormat | setLayerCount | setProducerUsage
      | setConsumerUsage =>
    intro hshared
    exact Gralloc1Error.none_ne_notShared (h.symm.trans hshared)
  all_goals trivial

/-- The calls that ask for a buffer. -/
def IsAllocation : Call → Prop
  | .allocate _ | .alloc _ _ _ _ => True
  | _ => False

end XenvmHal
