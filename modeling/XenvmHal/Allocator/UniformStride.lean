import Mathlib.Data.UInt
import XenvmHal.Allocator.Settles

/-!
# Uniform strides

All buffers of a request are to have one stride, which is returned with them. The allocation loop
keeps the stride of the first buffer and compares the others with it, but it knows the first one by
the kept stride being 0, and 0 is a stride as well.

What the loop accepts is a question about the list of the reported strides only: `agreed` is the
kept value, and `agreed_uniform_iff` says for which lists the kept value is everybody's and does
not depend on the order. The lists for which it fails mix zeros with one other value. `Serves` ties
a run of either back end to its reports, and `uniformStride_iff` is the same condition for both.
-/

namespace XenvmHal

open Interaction Program

/-! ### Agreement on a value -/

section Agreement

variable {α : Type} [DecidableEq α] [Zero α] {l l' : List (Option α)} {kept v : α}

/-- A report against the value kept so far, where 0 stands for none. A missing report agrees with
nothing. -/
def keep (kept : α) (report : Option α) : Option α :=
  report.bind fun x ↦ if kept = 0 ∨ kept = x then some x else none

/-- The value kept after all reports, if they agree. -/
def agreed (l : List (Option α)) : Option α :=
  l.foldlM keep 0

/-- Zeros among reports that are otherwise equal. -/
def ZeroAmongEqual (l : List (Option α)) : Prop :=
  some 0 ∈ l ∧ ∃ v ≠ 0, some v ∈ l ∧ ∀ x ∈ l, x = some 0 ∨ x = some v

theorem agreed_snoc (l : List (Option α)) (x : Option α) :
    agreed (l ++ [x]) = (agreed l).bind (keep · x) := by
  simp [agreed, List.foldlM_append]

/-- Once a value is kept, only that value agrees. -/
theorem foldlM_keep_eq_some_iff (hkept : kept ≠ 0) :
    l.foldlM keep kept = some v ↔ v = kept ∧ ∀ x ∈ l, x = some kept := by
  induction l with
  | nil => simp [eq_comm]
  | cons x l ih =>
    rw [List.foldlM_cons, List.forall_mem_cons]
    by_cases hx : x = some kept
    · have hkeep : keep kept x = some kept := by simp [keep, hx]
      rw [hkeep]
      exact ih.trans (by simp [hx])
    · have hkeep : keep kept x = none := by
        cases x with
        | none => rfl
        | some y =>
          have hne : ¬(kept = 0 ∨ kept = y) := by
            rintro (h | rfl)
            · exact hkept h
            · exact hx rfl
          exact if_neg hne
      simp [hkeep, hx]

theorem agreed_cons (v : α) (l : List (Option α)) : agreed (some v :: l) = l.foldlM keep v := by
  simp [agreed, keep]

theorem agreed_cons_zero (l : List (Option α)) : agreed (some 0 :: l) = agreed l :=
  agreed_cons 0 l

/-- **What agrees**: zeros, and after them one other value. -/
theorem agreed_eq_some_iff (hv : v ≠ 0) :
    agreed l = some v ↔
      ∃ k l', l = List.replicate k (some 0) ++ some v :: l' ∧ ∀ x ∈ l', x = some v := by
  constructor
  · intro h
    induction l with
    | nil =>
      have hzero : (0 : α) = v := by simpa [agreed] using h
      exact absurd hzero.symm hv
    | cons x l ih =>
      cases x with
      | none => simp [agreed, keep] at h
      | some y =>
        by_cases hy : y = 0
        · subst hy
          obtain ⟨k, l', rfl, hl'⟩ := ih (by rwa [agreed_cons_zero] at h)
          exact ⟨k + 1, l', rfl, hl'⟩
        · rw [agreed_cons, foldlM_keep_eq_some_iff hy] at h
          obtain ⟨rfl, hl⟩ := h
          exact ⟨0, l, rfl, hl⟩
  · rintro ⟨k, l', rfl, hl'⟩
    induction k with
    | zero => exact (agreed_cons v l').trans ((foldlM_keep_eq_some_iff hv).2 ⟨rfl, hl'⟩)
    | succ k ih => exact (agreed_cons_zero _).trans ih

theorem agreed_eq_zero_iff : agreed l = some 0 ↔ ∀ x ∈ l, x = some (0 : α) := by
  induction l with
  | nil => simp [agreed]
  | cons x l ih =>
    rw [List.forall_mem_cons]
    cases x with
    | none => simp [agreed, keep]
    | some y =>
      by_cases hy : y = 0
      · subst hy
        rw [agreed_cons_zero, ih]
        simp
      · rw [agreed_cons, foldlM_keep_eq_some_iff hy]
        simp [hy, Ne.symm hy]

/-- Reports that are all equal agree. -/
theorem agreed_of_forall (hne : l ≠ []) (h : ∀ x ∈ l, x = some v) : agreed l = some v := by
  by_cases hv : v = 0
  · subst hv
    exact agreed_eq_zero_iff.2 h
  · obtain ⟨x, l', rfl⟩ := List.exists_cons_of_ne_nil hne
    obtain ⟨rfl, hl'⟩ := List.forall_mem_cons.1 h
    exact (agreed_eq_some_iff hv).2 ⟨0, l', rfl, hl'⟩

/-- Without zeros among them, reports that agree are equal. -/
theorem uniform_of_agreed (hzero : ¬ZeroAmongEqual l) (h : agreed l = some v) :
    ∀ x ∈ l, x = some v := by
  by_cases hv : v = 0
  · subst hv
    exact agreed_eq_zero_iff.1 h
  · obtain ⟨k, l', rfl, hl'⟩ := (agreed_eq_some_iff hv).1 h
    have hmem : ∀ x ∈ List.replicate k (some 0) ++ some v :: l', x = some 0 ∨ x = some v := by
      intro x hx
      rcases List.mem_append.1 hx with hx | hx
      · exact .inl (List.eq_of_mem_replicate hx)
      · exact .inr ((List.mem_cons.1 hx).elim id (hl' x))
    intro x hx
    refine (hmem x hx).resolve_left ?_
    rintro rfl
    exact hzero ⟨hx, v, hv, by simp, hmem⟩

omit [DecidableEq α] in
theorem ZeroAmongEqual.perm (hperm : l.Perm l') (h : ZeroAmongEqual l) : ZeroAmongEqual l' := by
  obtain ⟨hzero, v, hv, hmem, hall⟩ := h
  exact ⟨hperm.mem_iff.1 hzero, v, hv, hperm.mem_iff.1 hmem, fun x hx ↦ hall x (hperm.mem_iff.2 hx)⟩

/-- **Zeros among equal reports** agree when they come first. -/
theorem ZeroAmongEqual.exists_perm (h : ZeroAmongEqual l) :
    ∃ l' v, l'.Perm l ∧ v ≠ 0 ∧ some 0 ∈ l ∧ agreed l' = some v := by
  obtain ⟨hzero, v, hv, hmem, hall⟩ := h
  have hrest : ∀ x ∈ l.filter (· ≠ some 0), x = some v := by
    intro x hx
    obtain ⟨hx, hne⟩ := List.mem_filter.1 hx
    exact (hall x hx).resolve_left (by simpa using hne)
  have hvmem : some v ∈ l.filter (· ≠ some 0) := List.mem_filter.2 ⟨hmem, by simpa using hv⟩
  obtain ⟨x, l', hl'⟩ := List.exists_cons_of_ne_nil (List.ne_nil_of_mem hvmem)
  have hzeros : l.filter (· = some 0) = List.replicate (l.filter (· = some 0)).length (some 0) := by
    refine List.eq_replicate_of_mem fun x hx ↦ ?_
    simpa using (List.mem_filter.1 hx).2
  refine ⟨l.filter (· = some 0) ++ l.filter (· ≠ some 0), v, ?_, hv, hzero, ?_⟩
  · simpa using List.filter_append_perm (· = some 0) l
  · rw [hl'] at hrest
    obtain ⟨rfl, hequal⟩ := List.forall_mem_cons.1 hrest
    rw [hzeros, hl']
    exact (agreed_eq_some_iff hv).2 ⟨_, l', rfl, hequal⟩

/-- **When the kept value is everybody's**, in whatever order the reports come. -/
theorem agreed_uniform_iff :
    ((∀ v, agreed l = some v → ∀ x ∈ l, x = some v) ∧
        ∀ l', l'.Perm l → agreed l' = agreed l) ↔ ¬ZeroAmongEqual l := by
  constructor
  · rintro ⟨huniform, horder⟩ h
    obtain ⟨l', v, hperm, hv, hzero, hagreed⟩ := h.exists_perm
    have h0 : some 0 = some v := huniform v ((horder l' hperm).symm.trans hagreed) _ hzero
    exact hv (Option.some.inj h0).symm
  · intro hzero
    refine ⟨fun v ↦ uniform_of_agreed hzero, fun l' hperm ↦ ?_⟩
    have hzero' : ¬ZeroAmongEqual l' := fun h ↦ hzero (h.perm hperm)
    have htransfer : ∀ {l₁ l₂ : List (Option α)}, l₁.Perm l₂ → ¬ZeroAmongEqual l₁ →
        ∀ v, agreed l₁ = some v → agreed l₂ = some v := by
      intro l₁ l₂ hperm hzero v h
      by_cases hnil : l₁ = []
      · subst hnil
        obtain rfl := List.nil_perm.1 hperm
        exact h
      · refine agreed_of_forall (fun h ↦ hnil (List.perm_nil.1 (h ▸ hperm))) fun x hx ↦ ?_
        exact uniform_of_agreed hzero h x (hperm.mem_iff.2 hx)
    exact Option.ext fun v ↦ ⟨htransfer hperm hzero' v, htransfer hperm.symm hzero v⟩

/-- What does not agree will not agree later. -/
theorem agreed_append_eq_none (h : agreed l = none) (l' : List (Option α)) :
    agreed (l ++ l') = none := by
  rw [agreed, List.foldlM_append]
  exact congrArg (· >>= fun kept ↦ l'.foldlM keep kept) h

/-- A missing report agrees with nothing. -/
theorem none_not_mem_of_agreed (h : agreed l = some v) : none ∉ l := by
  intro hmem
  obtain ⟨l₁, l₂, rfl⟩ := List.append_of_mem hmem
  have hmissing : agreed (l₁ ++ [none]) = none := by
    rw [agreed_snoc]
    cases agreed l₁ <;> rfl
  have hnone := agreed_append_eq_none hmissing l₂
  rw [List.append_assoc, List.singleton_append, h] at hnone
  cases hnone

end Agreement

/-- **The loop keeps what agrees**: the common stride of attempts none of which fails. -/
theorem Attempt.agreed_strides (l : List Attempt) :
    agreed (l.map stride?) = if firstFailure l = none then some (commonStride l) else none := by
  induction l using List.reverseRecOn with
  | nil => rfl
  | append_singleton l a ih =>
    rw [List.map_append, List.map_singleton, agreed_snoc, ih, firstFailure_snoc]
    by_cases hfine : firstFailure l = none
    · rw [if_pos hfine, hfine, Option.none_or, Option.bind_some]
      cases a with
      | failed error dropped => rfl
      | allocated buffer stride =>
        rw [commonStride_snoc_allocated]
        by_cases hfits : commonStride l = 0 ∨ commonStride l = stride
        · rw [judge, if_pos hfits, if_pos rfl]
          refine (if_pos hfits).trans (congrArg some ?_)
          rcases hfits with hzero | heq
          · rw [if_neg (not_not.2 hzero)]
          · rw [heq, ite_self]
        · rw [judge, if_neg hfits, if_neg (Option.some_ne_none _)]
          exact if_neg hfits
    · obtain ⟨error, herror⟩ := Option.ne_none_iff_exists'.1 hfine
      rw [if_neg hfine, herror]
      rfl

/-! ### Runs over given reports -/

section Serves

variable (decode : Decoder) (mHal : Hal) (descriptor : BufferDescriptor) (count : UInt32)
  (out : Out) (reports : List (Option UInt32))

/-- **A run of a request** on a device that sets up what it is asked for and whose attempts report
these strides, in order; a failing attempt reports none. -/
structure Serves (t : List DeviceEvent) (r : Error × Out) : Prop where
  runs : Runs ((mHal.toAllocatorHal decode).allocateBuffers descriptor count out) t r
  reports : (account t).attempts.map Attempt.stride? <+: reports
  setUp : ∀ e ∈ t, SetUpSucceeds e
  queries : ∀ e ∈ t, StrideAnswered e

/-- **Uniform strides**: a request that is accepted returns buffers of the stride it returns, and
whether it is accepted, and with which stride, does not depend on the order of the reports. -/
structure UniformStride : Prop where
  uniform : ∀ t r, Serves decode mHal descriptor count out reports t r → r.1 = .none →
    ∀ buffer stride, .allocated buffer stride ∈ (account t).attempts → buffer ∈ r.2.buffers →
      r.2.stride = some stride
  order : ∀ reports', reports'.Perm reports → ∀ t r t' r',
    Serves decode mHal descriptor count out reports t r →
      Serves decode mHal descriptor count out reports' t' r' →
        (r.1 = .none ↔ r'.1 = .none) ∧ (r.1 = .none → r.2.stride = r'.2.stride)

variable {decode mHal descriptor count out reports} {t : List DeviceEvent} {r : Error × Out}

/-- What is trusted of the device. -/
abbrev SetUpAndQueries (_ : Account) (e : DeviceEvent) : Prop :=
  SetUpSucceeds e ∧ StrideAnswered e

theorem settles_of_setUpAndQueries
    (h : Runs ((mHal.toAllocatorHal decode).allocateBuffers descriptor count out) t r)
    (ht : ∀ e ∈ t, SetUpAndQueries Account.empty e) :
    Settles (fun _ _ ↦ True) out count.toNat (mHal.refusal decode descriptor count) r
      (account t) := by
  have h₀ : Gralloc0Hal.Reliable SetUpAndQueries fun _ _ ↦ True := ⟨fun _ ↦ trivial⟩
  have h₁ : Gralloc1Hal.Reliable SetUpAndQueries fun _ _ ↦ True :=
    ⟨fun hset ↦ hset.1.answered, fun _ _ ↦ trivial, fun _ _ hquery ↦ ⟨hquery.2, trivial⟩⟩
  exact (((Hal.accounted h₀ h₁ decode mHal).allocateBuffers descriptor count out).runs h
    (Monitor.assumes_of_forall _ fun _ ↦ ht)).2

/-- No request makes more attempts than it asks for buffers. -/
theorem Settles.length_le {possible : List Attempt → Attempt → Prop} {n : ℕ}
    {refusal : Option Error} {s : Account} (h : Settles possible out n refusal r s) :
    s.attempts.length ≤ n := by
  by_cases hnil : s.attempts = []
  · rw [hnil]
    exact Nat.zero_le n
  · exact (h.settled (.inr hnil)).bound

theorem Serves.settles (h : Serves decode mHal descriptor count out reports t r) :
    Settles (fun _ _ ↦ True) out count.toNat (mHal.refusal decode descriptor count) r (account t) :=
  settles_of_setUpAndQueries h.runs fun e he ↦ ⟨h.setUp e he, h.queries e he⟩

/-- A request that is refused is not accepted. -/
theorem Serves.refused (h : Serves decode mHal descriptor count out reports t r)
    (hrefusal : mHal.refusal decode descriptor count ≠ none) : r.1 ≠ .none := by
  obtain ⟨error, herror⟩ : ∃ error,
      (account t).failure.or (mHal.refusal decode descriptor count) = some error := by
    refine Option.ne_none_iff_exists'.1 fun hnone ↦ hrefusal ?_
    exact (Option.or_eq_none_iff.1 hnone).2
  obtain ⟨rfl, hne⟩ := h.settles.failed error herror
  exact hne

/-- A request that is accepted has as many attempts as it asks for buffers, and returns what they
agree on. -/
theorem Serves.of_accepted (h : Serves decode mHal descriptor count out reports t r)
    (hlength : reports.length = count.toNat) (hr : r.1 = .none) :
    (account t).attempts.map Attempt.stride? = reports ∧ r.2.stride = agreed reports ∧
      r.2.buffers = Attempt.buffers (account t).attempts := by
  have hsettles := h.settles
  have hnone : (account t).failure.or (mHal.refusal decode descriptor count) = none := by
    rcases hcase : (account t).failure.or (mHal.refusal decode descriptor count) with - | error
    · rfl
    · obtain ⟨rfl, hne⟩ := hsettles.failed error hcase
      exact absurd hr hne
  have hfine : Attempt.firstFailure (account t).attempts = none :=
    account_failure h.setUp ▸ (Option.or_eq_none_iff.1 hnone).1
  have hall : (account t).attempts.length = count.toNat :=
    (hsettles.settled (.inl hnone)).complete hfine
  have hreports : (account t).attempts.map Attempt.stride? = reports :=
    h.reports.eq_of_length (by rw [List.length_map, hall, hlength])
  obtain rfl := hsettles.served hnone
  refine ⟨hreports, ?_, rfl⟩
  rw [← hreports, Attempt.agreed_strides, if_pos hfine]

/-- **A request is accepted** exactly when its reports agree, unless it is refused. -/
theorem Serves.accepted_iff (h : Serves decode mHal descriptor count out reports t r)
    (hlength : reports.length = count.toNat)
    (hrefusal : mHal.refusal decode descriptor count = none) :
    r.1 = .none ↔ agreed reports ≠ none := by
  have hfailure : (account t).failure = Attempt.firstFailure (account t).attempts :=
    account_failure h.setUp
  have hsettles := h.settles
  rw [hrefusal] at hsettles
  constructor
  · intro hr
    obtain ⟨-, hstride, -⟩ := h.of_accepted hlength hr
    rcases hcase : (account t).failure.or none with - | error
    · rw [← hstride, hsettles.served hcase]
      exact Option.some_ne_none _
    · obtain ⟨rfl, hne⟩ := hsettles.failed error hcase
      exact absurd hr hne
  · intro hagreed
    rcases hcase : (account t).failure.or none with - | error
    · rw [hsettles.served hcase]
    · have hfails : agreed ((account t).attempts.map Attempt.stride?) = none := by
        rw [Attempt.agreed_strides, ← hfailure, if_neg]
        intro hnone
        simp [hnone] at hcase
      obtain ⟨rest, hrest⟩ := h.reports
      exact absurd (hrest ▸ agreed_append_eq_none hfails rest) hagreed

end Serves

/-! ### Every sequence of reports is one of a device -/

/-- A device whose attempt number `i` reports the stride `f i`, or fails; the state counts the
attempts. -/
def reportingDevice (f : ℕ → Option UInt32) : Handler Call Answer ℕ where
  answer i
    | .alloc _ _ _ _ =>
      match f i with
      | some stride => (0, i + 1, stride.toInt32)
      | none => (-12, 0, 0)
    | .allocate _ =>
      if (f i).isSome then (Gralloc1Error.none, i + 1) else (Gralloc1Error.noResources, 0)
    | .getStride _ =>
      match f i with
      | some stride => (Gralloc1Error.none, stride)
      | none => (Gralloc1Error.badHandle, 0)
    | _ => default
  next i
    | .alloc _ _ _ _ | .getStride _ => i + 1
    | .allocate _ => if (f i).isSome then i else i + 1
    | _ => i

/-- One call decides the next attempt, as `f` says, or none. -/
theorem reportingDevice_record (f : ℕ → Option UInt32) (i : ℕ) (c : Call) (s : Account) :
    ((reportingDevice f).next i c = i + 1 ∧
        (s.record ⟨c, (reportingDevice f).answer i c⟩).attempts.map Attempt.stride? =
          s.attempts.map Attempt.stride? ++ [f i]) ∨
      ((reportingDevice f).next i c = i ∧
        (s.record ⟨c, (reportingDevice f).answer i c⟩).attempts = s.attempts) := by
  cases c
  case alloc w h format usage =>
    refine .inl ⟨rfl, ?_⟩
    rcases hf : f i with - | stride <;>
      simp [reportingDevice, hf, Account.record, Account.attempt, Gralloc0Hal.attemptOf,
        Attempt.stride?]
  case getStride buffer =>
    refine .inl ⟨rfl, ?_⟩
    rcases hf : f i with - | stride <;>
      simp [reportingDevice, hf, Account.record, Account.attempt, Gralloc1Hal.strideAttempt,
        Attempt.stride?]
  case allocate d =>
    rcases hf : f i with - | stride
    · refine .inl ⟨by simp [reportingDevice, hf], ?_⟩
      simp [reportingDevice, hf, Account.record, Account.attempt, Attempt.stride?]
    · exact .inr ⟨by simp [reportingDevice, hf], by simp [reportingDevice, hf, Account.record]⟩
  all_goals exact .inr ⟨rfl, rfl⟩

/-- The attempts of a run report `f`, one after the other. -/
theorem reportingDevice_reports {α : Type} (f : ℕ → Option UInt32) (p : Prog α) (i : ℕ)
    (s : Account) :
    ∃ k, ((run (reportingDevice f) i p).trace.foldl Account.record s).attempts.map Attempt.stride? =
      s.attempts.map Attempt.stride? ++ (List.range' i k).map f := by
  induction p generalizing i s with
  | ret a => exact ⟨0, by simp⟩
  | call c k ih =>
    obtain ⟨n, hn⟩ := ih ((reportingDevice f).answer i c) ((reportingDevice f).next i c)
      (s.record ⟨c, (reportingDevice f).answer i c⟩)
    rw [run_call, List.foldl_cons, hn]
    rcases reportingDevice_record f i c s with ⟨hnext, hs⟩ | ⟨hnext, hs⟩
    · exact ⟨n + 1, by rw [hnext, hs, List.range'_succ, List.map_cons, List.append_assoc]; rfl⟩
    · exact ⟨n, by rw [hnext, hs]⟩

theorem reportingDevice_sound (f : ℕ → Option UInt32) (i : ℕ) (c : Call) :
    SetUpAndQueries Account.empty ⟨c, (reportingDevice f).answer i c⟩ := by
  cases c
  case getStride buffer =>
    refine ⟨trivial, ?_⟩
    rcases hf : f i with - | stride <;> simp [reportingDevice, hf, StrideAnswered]
  case createDescriptor | setDimensions | setFormat | setLayerCount | setProducerUsage
      | setConsumerUsage =>
    exact ⟨rfl, trivial⟩
  all_goals exact ⟨trivial, trivial⟩

section Exact

variable (decode : Decoder) (mHal : Hal) (descriptor : BufferDescriptor) {count : UInt32}
  (out : Out) {reports : List (Option UInt32)}

/-- **Every sequence of reports** is the one of a run. -/
theorem serves_run (hlength : reports.length = count.toNat) :
    Serves decode mHal descriptor count out reports
      (run (reportingDevice fun i ↦ reports[i]?.join) 0
        ((mHal.toAllocatorHal decode).allocateBuffers descriptor count out)).trace
      (run (reportingDevice fun i ↦ reports[i]?.join) 0
        ((mHal.toAllocatorHal decode).allocateBuffers descriptor count out)).value := by
  let f : ℕ → Option UInt32 := fun i ↦ reports[i]?.join
  let p := (mHal.toAllocatorHal decode).allocateBuffers descriptor count out
  have hreports : (List.range' 0 count.toNat).map f = reports := by
    refine List.ext_getElem (by simp [hlength]) fun i hi hi' ↦ ?_
    simp [f, hi']
  have hsound : ∀ e ∈ (run (reportingDevice f) 0 p).trace, SetUpAndQueries Account.empty e :=
    forall_mem_trace (reportingDevice f) (reportingDevice_sound f) 0 p
  have hbound := (settles_of_setUpAndQueries (runs_run (reportingDevice f) 0 p) hsound).length_le
  obtain ⟨k, hk⟩ := reportingDevice_reports f p 0 Account.empty
  refine ⟨runs_run (reportingDevice f) 0 p, ?_, fun e he ↦ (hsound e he).1,
    fun e he ↦ (hsound e he).2⟩
  have hstrides : (account (run (reportingDevice f) 0 p).trace).attempts.map Attempt.stride? =
      (List.range' 0 k).map f := hk
  have hk : k ≤ count.toNat := by
    have hlen := congrArg List.length hstrides
    rw [List.length_map, List.length_map, List.length_range'] at hlen
    omega
  rw [hstrides, ← hreports, ← Nat.add_sub_cancel' hk, ← List.range'_append_1, List.map_append]
  exact List.prefix_append _ _

theorem exists_serves (hlength : reports.length = count.toNat) :
    ∃ t r, Serves decode mHal descriptor count out reports t r :=
  ⟨_, _, serves_run decode mHal descriptor out hlength⟩

variable {decode mHal descriptor out}

/-- What the reports of a request with uniform strides are like. -/
theorem UniformStride.reports_uniform (h : UniformStride decode mHal descriptor count out reports)
    (hlength : reports.length = count.toNat)
    (hrefusal : mHal.refusal decode descriptor count = none) {v : UInt32}
    (hv : agreed reports = some v) : ∀ x ∈ reports, x = some v := by
  intro x hx
  obtain ⟨t, r, hserves⟩ := exists_serves decode mHal descriptor out hlength
  have hr : r.1 = .none := (hserves.accepted_iff hlength hrefusal).2 (by simp [hv])
  obtain ⟨hreports, hstride, hbuffers⟩ := hserves.of_accepted hlength hr
  rw [← hreports] at hx
  obtain ⟨a, ha, rfl⟩ := List.mem_map.1 hx
  cases a with
  | failed error dropped => exact absurd (hreports ▸ hx) (none_not_mem_of_agreed hv)
  | allocated buffer stride =>
    have hreturned : buffer ∈ r.2.buffers := hbuffers ▸ List.mem_filterMap.2 ⟨_, ha, rfl⟩
    have huniform : r.2.stride = some stride :=
      h.uniform t r hserves hr buffer stride ha hreturned
    exact huniform.symm.trans (hstride.trans hv)

/-- The reports of a request with uniform strides agree in any order. -/
theorem UniformStride.agreed_eq (h : UniformStride decode mHal descriptor count out reports)
    (hlength : reports.length = count.toNat)
    (hrefusal : mHal.refusal decode descriptor count = none) {reports' : List (Option UInt32)}
    (hperm : reports'.Perm reports) : agreed reports' = agreed reports := by
  have hlength' : reports'.length = count.toNat := hperm.length_eq.trans hlength
  obtain ⟨t, r, hserves⟩ := exists_serves decode mHal descriptor out hlength
  obtain ⟨t', r', hserves'⟩ := exists_serves decode mHal descriptor out hlength'
  obtain ⟨haccepted, hstride⟩ := h.order reports' hperm t r t' r' hserves hserves'
  by_cases hr : r.1 = .none
  · rw [← (hserves'.of_accepted hlength' (haccepted.1 hr)).2.1,
      ← (hserves.of_accepted hlength hr).2.1, hstride hr]
  · have hr' : ¬r'.1 = .none := fun h ↦ hr (haccepted.2 h)
    rw [hserves.accepted_iff hlength hrefusal, not_not] at hr
    rw [hserves'.accepted_iff hlength' hrefusal, not_not] at hr'
    rw [hr, hr']

/-- Reports that agree on everybody's value, in any order, make strides uniform. -/
theorem uniformStride_of_agreed (hlength : reports.length = count.toNat)
    (hrefusal : mHal.refusal decode descriptor count = none)
    (huniform : ∀ v, agreed reports = some v → ∀ x ∈ reports, x = some v)
    (horder : ∀ reports', reports'.Perm reports → agreed reports' = agreed reports) :
    UniformStride decode mHal descriptor count out reports where
  uniform := by
    intro t r hserves hr buffer stride hmem _
    obtain ⟨hreports, hstride, -⟩ := hserves.of_accepted hlength hr
    obtain ⟨v, hv⟩ := Option.ne_none_iff_exists'.1 ((hserves.accepted_iff hlength hrefusal).1 hr)
    have hmem : some stride ∈ reports := hreports ▸ List.mem_map_of_mem hmem
    rw [hstride, hv, huniform v hv _ hmem]
  order := by
    intro reports' hperm t r t' r' hserves hserves'
    have hlength' : reports'.length = count.toNat := hperm.length_eq.trans hlength
    have haccepted : r.1 = .none ↔ r'.1 = .none := by
      rw [hserves.accepted_iff hlength hrefusal, hserves'.accepted_iff hlength' hrefusal,
        horder reports' hperm]
    refine ⟨haccepted, fun hr ↦ ?_⟩
    rw [(hserves.of_accepted hlength hr).2.1, (hserves'.of_accepted hlength' (haccepted.1 hr)).2.1,
      horder reports' hperm]

/-- A request that is refused has nothing to be uniform. -/
theorem uniformStride_of_refused (hrefusal : mHal.refusal decode descriptor count ≠ none) :
    UniformStride decode mHal descriptor count out reports where
  uniform := fun _ _ hserves hr ↦ absurd hr (hserves.refused hrefusal)
  order := by
    intro reports' hperm t r t' r' hserves hserves'
    have hr := hserves.refused hrefusal
    exact ⟨iff_of_false hr (hserves'.refused hrefusal), fun h ↦ absurd h hr⟩

/-- **Strides are uniform in exactly the requests that are refused anyway, or whose reports do not
mix zeros with one other stride.** -/
theorem uniformStride_iff (hlength : reports.length = count.toNat) :
    UniformStride decode mHal descriptor count out reports ↔
      mHal.refusal decode descriptor count ≠ none ∨ ¬ZeroAmongEqual reports := by
  constructor
  · intro h
    by_cases hrefusal : mHal.refusal decode descriptor count = none
    · exact .inr (agreed_uniform_iff.1 ⟨fun _ hv ↦ h.reports_uniform hlength hrefusal hv,
        fun _ hperm ↦ h.agreed_eq hlength hrefusal hperm⟩)
    · exact .inl hrefusal
  · intro h
    by_cases hrefusal : mHal.refusal decode descriptor count = none
    · obtain ⟨huniform, horder⟩ := agreed_uniform_iff.2 (h.resolve_left (not_not.2 hrefusal))
      exact uniformStride_of_agreed hlength hrefusal huniform horder
    · exact uniformStride_of_refused hrefusal

end Exact

theorem uniformStride_iff_two :
    UniformStride (fun _ ↦ some ⟨64, 64, 1, 1, 0⟩) (.gralloc1 ⟨some 1, true, fun _ ↦ true⟩) [] 2
        ⟨none, []⟩ [some 64, some 64] ↔
      Hal.refusal (fun _ ↦ some ⟨64, 64, 1, 1, 0⟩) (.gralloc1 ⟨some 1, true, fun _ ↦ true⟩) [] 2 ≠
          none ∨ ¬ZeroAmongEqual [some (64 : UInt32), some 64] :=
  uniformStride_iff rfl

/-- The run of a request for two buffers on a device that reports these strides. -/
def twoReports (mHal : Hal) (reports : List (Option UInt32)) :
    Outcome Call Answer ℕ (Error × Out) :=
  run (reportingDevice fun i ↦ reports[i]?.join) 0
    ((mHal.toAllocatorHal fun _ ↦ some ⟨64, 64, 1, 1, 0⟩).allocateBuffers [] 2 ⟨none, []⟩)

/-- **The defect**, in both copies of the loop. Strides 0 and 64, reported in this order, are
returned as 64; reported in the other order they are refused. -/
theorem uniformStride_zero_first :
    ((twoReports (.gralloc0 ⟨some 1, true⟩) [some 0, some 64]).value = (.none, ⟨some 64, [1, 2]⟩) ∧
        (twoReports (.gralloc0 ⟨some 1, true⟩) [some 64, some 0]).value =
            (.unsupported, ⟨none, []⟩) ∧
          ¬UniformStride (fun _ ↦ some ⟨64, 64, 1, 1, 0⟩) (.gralloc0 ⟨some 1, true⟩) [] 2 ⟨none, []⟩
            [some 0, some 64]) ∧
      (twoReports (.gralloc1 ⟨some 1, true, fun _ ↦ true⟩) [some 0, some 64]).value =
          (.none, ⟨some 64, [1, 2]⟩) ∧
        (twoReports (.gralloc1 ⟨some 1, true, fun _ ↦ true⟩) [some 64, some 0]).value =
            (.unsupported, ⟨none, []⟩) ∧
          ¬UniformStride (fun _ ↦ some ⟨64, 64, 1, 1, 0⟩) (.gralloc1 ⟨some 1, true, fun _ ↦ true⟩)
            [] 2 ⟨none, []⟩ [some 0, some 64] := by
  have hstride : some (64 : UInt32) ≠ some 0 := by decide
  refine ⟨⟨by decide, by decide, fun h ↦ hstride ?_⟩, by decide, by decide, fun h ↦ hstride ?_⟩
  · exact h.uniform _ _ (serves_run _ _ _ _ rfl) (by decide) 1 0 (by decide) (by decide)
  · exact h.uniform _ _ (serves_run _ _ _ _ rfl) (by decide) 1 0 (by decide) (by decide)

end XenvmHal
