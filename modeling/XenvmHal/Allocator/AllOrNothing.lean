import XenvmHal.Allocator.BufferOwnership
import XenvmHal.Allocator.Settles

/-!
# All or nothing

The reply of `Allocator::allocate`. Over the interface alone a request makes one reply, the one
its account calls for (`Allocator.allocate_replies`). That the buffers of the reply are distinct
and alive comes from who owns them.
-/

namespace XenvmHal

open Interaction Program

/-- An answer that the device headers allow. -/
def Documented (e : DeviceEvent) : Prop :=
  SetUpAnswered e ∧ StrideAnswered e

instance : DecidablePred Documented := fun _ ↦ inferInstanceAs (Decidable (_ ∧ _))

/-- A gralloc1 device that keeps to its header can be relied on. -/
theorem Gralloc1Hal.reliable_of_documented :
    Reliable (fun _ e ↦ Documented e) fun _ _ ↦ True where
  setUp h := h.1
  refused _ _ := trivial
  queried _ _ h := ⟨h.2, trivial⟩

theorem Gralloc0Hal.reliable_of_documented :
    Reliable (fun _ e ↦ Documented e) fun _ _ ↦ True where
  allocated _ := trivial

theorem Hal.accounted_of_documented (decode : Decoder) (mHal : Hal) :
    (mHal.toAllocatorHal decode).Accounted (fun _ e ↦ Documented e) (fun _ _ ↦ True)
      (mHal.refusal decode) :=
  accounted Gralloc0Hal.reliable_of_documented Gralloc1Hal.reliable_of_documented decode mHal

/-- The buffers that the device has handed out along a trace and not got back. -/
def live (t : List DeviceEvent) : List Handle :=
  bufferMonitor.after [] t

/-- **All or nothing**, for a trace of a request for `count` buffers whose first failure, given
its account, is `firstFailure`. -/
structure AllOrNothing (firstFailure : Account → Option Error) (count : ℕ) (t : List DeviceEvent) :
    Prop where
  /-- No buffer is asked for after a failure. -/
  stops : Throughout (fun u e ↦ IsAllocation e.call → firstFailure (account u) = none) t
  /-- A failed request has one reply, its first failure and no buffers. -/
  failed : ∀ error, firstFailure (account t) = some error →
    (account t).replies = [(error, 0, [])]
  /-- Any other request has one reply, with the buffers obtained in order, as many as asked for. -/
  served : firstFailure (account t) = none →
    (account t).replies =
        [(.none, Attempt.commonStride (account t).attempts,
          Attempt.buffers (account t).attempts)] ∧
      (Attempt.buffers (account t).attempts).length = count ∧
        (Attempt.buffers (account t).attempts).Nodup
  /-- The buffers of the reply are alive when it is made. -/
  replies_live : Throughout
    (fun u e ↦ ∀ buffer ∈ bufferDiscipline.uses e.call, buffer ∈ live u) t

namespace Allocator

variable {trusted : Account → DeviceEvent → Prop} {possible : List Attempt → Attempt → Prop}
  {mHal : AllocatorHal} {refusal : BufferDescriptor → UInt32 → Option Error}
  {descriptor : BufferDescriptor} {count : UInt32}

/-- What a request has done when it is finished. -/
structure Replied (count : ℕ) (refusal : Option Error) (s : Account) : Prop where
  failed : ∀ error, s.failure.or refusal = some error → s.replies = [(error, 0, [])]
  served : s.failure.or refusal = none →
    s.replies = [(.none, Attempt.commonStride s.attempts, Attempt.buffers s.attempts)]
  settled : s.failure.or refusal = none → Attempt.Settled count s.attempts

/-- **One request** over the interface: exactly one reply, the one its account calls for. -/
theorem allocate_replies (h : mHal.Accounted trusted possible refusal)
    (descriptor : BufferDescriptor) (count : UInt32) :
    Safe (accountMonitor trusted (refusal descriptor count))
      (fun _ s ↦ Replied count.toNat (refusal descriptor count) s) Account.empty
      (allocate mHal descriptor count) := by
  refine (h.allocateBuffers descriptor count ⟨none, []⟩).bind ?_
  rintro ⟨error, out⟩ s hs
  rcases hfailure : s.failure.or (refusal descriptor count) with - | error'
  · obtain ⟨rfl, rfl⟩ := Prod.mk.inj (hs.served hfailure)
    dsimp only
    rw [if_neg (by simp), readStride_some, ret_bind]
    refine ⟨False.elim, fun _ _ ↦ (h.freeBuffers _ _ _).mono fun _ s' hs' ↦ ?_⟩
    subst hs'
    refine ⟨fun error h' ↦ ?_, fun _ ↦ ?_, fun _ ↦ hs.settled (.inl hfailure)⟩
    · simp [Account.record, Account.reply, hfailure] at h'
    · simp [Account.record, Account.reply, hs.replies]
  · obtain ⟨hr, herror⟩ := hs.failed error' hfailure
    obtain ⟨rfl, rfl⟩ := Prod.mk.inj hr
    dsimp only
    rw [if_pos herror]
    refine ⟨False.elim, fun _ _ ↦ ⟨fun error'' h' ↦ ?_, fun h' ↦ ?_, fun h' ↦ ?_⟩⟩
    · obtain rfl : error = error'' := by simpa [Account.record, Account.reply, hfailure] using h'
      simp [Account.record, Account.reply, hs.replies]
    · simp [Account.record, Account.reply, hfailure] at h'
    · simp [Account.record, Account.reply, hfailure] at h'

/-- A request hands out each buffer once. -/
theorem allocate_buffers_nodup {decode : Decoder} {mHal : Hal} {t : List DeviceEvent}
    (h : Runs (allocate (mHal.toAllocatorHal decode) descriptor count) t ())
    (hdoc : ∀ e ∈ t, Documented e) (hassume : bufferMonitor.Assumes [] t)
    (hok : (account t).failure.or (mHal.refusal decode descriptor count) = none) :
    (Attempt.buffers (account t).attempts).Nodup := by
  have hwhole := ((allocate_replies (mHal.accounted_of_documented decode) descriptor count).runs h
    (Monitor.assumes_of_forall _ fun _ ↦ hdoc)).2
  obtain ⟨u, v, ⟨error, out⟩, rfl, hu, -⟩ := runs_bind_iff.1 h
  have hpart := (((mHal.accounted_of_documented decode).allocateBuffers descriptor count
    ⟨none, []⟩).runs hu
      (Monitor.assumes_of_forall _ fun _ e he ↦ hdoc e (List.mem_append_left v he))).2
  have hextends := Account.extends_append u v
  have hok' : (account u).failure.or (mHal.refusal decode descriptor count) = none := by
    rw [Option.or_eq_none_iff] at hok ⊢
    exact ⟨hextends.failure hok.1, hok.2⟩
  -- both lists of attempts are settled, and one continues the other
  have hattempts : (account u).attempts = (account (u ++ v)).attempts :=
    (hpart.settled (.inl hok')).prefix_eq (hwhole.settled hok) hextends.attempts
  rw [Monitor.assumes_append] at hassume
  obtain ⟨-, rfl⟩ := Prod.mk.inj (hpart.served hok')
  have hheld : bufferMonitor.after [] u = Attempt.buffers (account u).attempts :=
    (((mHal.disciplined decode).allocateBuffers descriptor count).runs hu hassume.1).2.1
  rw [← hattempts, ← hheld]
  exact bufferDiscipline.nodup_after List.nodup_nil hassume.1

/-- **The reply of `allocate` is all or nothing**, with either back end, for every descriptor,
count and sequence of answers the device headers allow; and a failing `allocateBuffers` leaves its
out parameters as they were. -/
theorem allocate_all_or_nothing (decode : Decoder) (mHal : Hal) (descriptor : BufferDescriptor)
    (count : UInt32) :
    (∀ (out : Out) (t : List DeviceEvent) (r : Error × Out),
      Runs ((mHal.toAllocatorHal decode).allocateBuffers descriptor count out) t r →
        (∀ e ∈ t, Documented e) →
          ∀ error, mHal.firstFailure decode descriptor count (account t) = some error →
            r = (error, out)) ∧
    ∀ t : List DeviceEvent,
      Runs (allocate (mHal.toAllocatorHal decode) descriptor count) t () →
        (∀ e ∈ t, Documented e) →
          Throughout (fun u e ↦ ∀ buffer ∈ bufferDiscipline.acquires e, buffer ∉ live u) t →
            AllOrNothing (mHal.firstFailure decode descriptor count) count.toNat t := by
  refine ⟨fun out t r h hdoc error hfailure ↦ ?_, fun t h hdoc hfresh ↦ ?_⟩
  · exact (((mHal.accounted_of_documented decode).allocateBuffers descriptor count out).runs h
      (Monitor.assumes_of_forall _ fun _ ↦ hdoc)).2.failed error hfailure |>.1
  · have hassume : bufferMonitor.Assumes [] t := by
      rw [Monitor.assumes_iff_throughout]
      exact fun u e v huv ↦ ⟨(hdoc e (by rw [huv]; simp)).2, hfresh u e v huv⟩
    obtain ⟨haccepts, hreply⟩ :=
      (allocate_replies (mHal.accounted_of_documented decode) descriptor count).runs h
        (Monitor.assumes_of_forall _ fun _ ↦ hdoc)
    have hlive := ((allocate_safe (mHal.disciplined decode) descriptor count).runs h hassume).1
    rw [Monitor.accepts_iff_throughout] at haccepts hlive
    refine ⟨haccepts.mono fun u e hpre hcall ↦ ?_, hreply.failed, fun hok ↦ ?_,
      hlive.mono fun u e hpre ↦ hpre.2⟩
    · exact Option.or_eq_none_iff.2 (hpre hcall)
    · refine ⟨hreply.served hok, ?_, allocate_buffers_nodup h hdoc hassume hok⟩
      have hfine := firstFailure_of_account (Option.or_eq_none_iff.1 hok).1
      rw [Attempt.length_buffers hfine]
      exact (hreply.settled hok).complete hfine

theorem allocate_all_or_nothing_two :
    AllOrNothing
      ((Hal.gralloc1 ⟨some 1, true, fun _ ↦ true⟩).firstFailure
        (fun _ ↦ some ⟨64, 64, 1, 1, 0⟩) [] 2)
      2 (run (numberingDevice fun _ ↦ Gralloc1Error.none) 0 twoBuffers).trace :=
  (allocate_all_or_nothing (fun _ ↦ some ⟨64, 64, 1, 1, 0⟩)
    (Hal.gralloc1 ⟨some 1, true, fun _ ↦ true⟩) [] 2).2 _ (runs_run _ 0 twoBuffers) (by decide)
    (by decide)

end Allocator

end XenvmHal
