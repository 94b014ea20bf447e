import XenvmHal.Allocator.Gralloc1Hal

/-!
# The debug dump of gralloc1

A dump takes two device calls: one asks how long the text is, one fills a buffer. In between the
text may grow or shrink, so the second call reports a length again, and the buffer is resized to
it before its terminator is written. Both sizes are computed as `len + 1` in 32 bits.

`DumpInBounds` is what the two calls owe. It holds whatever the two lengths are, with one
exception: at 2^32 - 1 the size wraps to 0, so that the device is offered room that is not there,
or the terminator is written outside the buffer (`dumpDebugInfo_inBounds_iff`).
-/

namespace XenvmHal

open Interaction Program

/-! ### Buffers -/

section Buffers

variable {α : Type}

/-- The front of a resized buffer, up to the new size. -/
theorem take_resize (fill : α) (buf : List α) {k n : ℕ} (h : k ≤ n) :
    (resize fill buf n).take k = buf.take k ++ List.replicate (k - buf.length) fill := by
  rw [resize, List.take_append, List.take_take, List.take_replicate, List.length_take]
  congr 2
  · omega
  · omega

theorem length_resize (fill : α) (buf : List α) (n : ℕ) : (resize fill buf n).length = n := by
  rw [resize, List.length_append, List.length_take, List.length_replicate]
  omega

variable {buf : List UInt8}

/-- A C string ends where zeros begin. -/
theorem cString_append_zeros (buf : List UInt8) (n : ℕ) :
    cString (buf ++ List.replicate n 0) = cString buf := by
  induction buf with
  | nil => cases n <;> rfl
  | cons c buf ih =>
    rw [List.cons_append, cString, cString, List.takeWhile_cons, List.takeWhile_cons]
    split
    · exact congrArg (c :: ·) ih
    · rfl

/-- A C string ends at the latest at a terminator. -/
theorem cString_set {k : ℕ} (h : k < buf.length) :
    cString (buf.set k 0) = cString (buf.take k) := by
  induction buf generalizing k with
  | nil => cases h
  | cons c buf ih =>
    cases k with
    | zero => rfl
    | succ k =>
      rw [List.set_cons_succ, List.take_succ_cons, cString, cString, List.takeWhile_cons,
        List.takeWhile_cons]
      split
      · exact congrArg (c :: ·) (ih (Nat.lt_of_succ_lt_succ h))
      · rfl

end Buffers

namespace Gralloc1Hal

/-! ### What the calls say -/

/-- The device writes at most as many bytes as were announced to it. -/
def WritesAnnounced : DeviceEvent → Prop
  | ⟨.dump len _, (_, text)⟩ => text.length ≤ len.toNat
  | _ => True

/-- The device reports a length to which a terminator can be added in 32 bits. -/
def LengthFits : DeviceEvent → Prop
  | ⟨.dump _ _, (len, _)⟩ => len ≠ 0xffffffff
  | _ => True

/-- **A dump in bounds**: no more room is announced than the buffer has, the device and the
terminator are written inside the buffer, and what is returned is what the device wrote, up to the
final length and the first zero. -/
structure DumpInBounds (t : List DeviceEvent) (debugInfo : List UInt8) : Prop where
  announced : ∀ e ∈ t, ∀ len room, e.call = .dump len (some room) → len.toNat ≤ room
  written : ∀ len room final text, ⟨.dump len (some room), (final, text)⟩ ∈ t → text.length ≤ room
  terminated : ∀ e ∈ t, e.call ≠ .outOfBounds
  returned : ∀ len room final text, ⟨.dump len (some room), (final, text)⟩ ∈ t →
    debugInfo = (text.take final.toNat).takeWhile (· ≠ 0)

/-- The buffer after the second call, with its final size. -/
def dumpBuffer (len final : UInt32) (text : List UInt8) : List UInt8 :=
  resize 0 (fillFront (List.replicate (len + 1).toNat 0) text) (final + 1).toNat

variable {len final : UInt32} {text debugInfo : List UInt8} {t : List DeviceEvent}

/-- A size of `len + 1`, where it does not wrap. -/
theorem toNat_succ (h : len ≠ 0xffffffff) : (len + 1).toNat = len.toNat + 1 := by
  have hlt : len.toNat < 2 ^ 32 := len.toNat_lt
  have hne : len.toNat ≠ 4294967295 := fun heq ↦ h (UInt32.toNat_inj.1 heq)
  rw [UInt32.toNat_add]
  show (len.toNat + 1) % 2 ^ 32 = len.toNat + 1
  omega

/-- **What is read back** of the buffer. -/
theorem cString_dumpBuffer (hlen : len ≠ 0xffffffff) (hfinal : final ≠ 0xffffffff) :
    cString ((dumpBuffer len final text).set final.toNat 0) =
      (text.take final.toNat).takeWhile (· ≠ 0) := by
  have hroom : final.toNat < (dumpBuffer len final text).length := by
    rw [dumpBuffer, length_resize, toNat_succ hfinal]
    omega
  have hfront : fillFront (List.replicate (len + 1).toNat 0) text =
      text ++ List.replicate (len.toNat + 1 - text.length) 0 := by
    rw [fillFront, toNat_succ hlen, List.drop_replicate]
  have hsize : final.toNat ≤ (final + 1).toNat := by
    rw [toNat_succ hfinal]
    omega
  calc cString ((dumpBuffer len final text).set final.toNat 0)
      = cString ((dumpBuffer len final text).take final.toNat) := cString_set hroom
    _ = cString ((fillFront (List.replicate (len + 1).toNat 0) text).take final.toNat) := by
        rw [dumpBuffer, take_resize 0 _ hsize, cString_append_zeros]
    _ = cString (text.take final.toNat) := by
        rw [hfront, List.take_append, List.take_replicate, cString_append_zeros]

/-- **The two calls of a dump**, and the end that the final length leads to. -/
theorem runs_dumpDebugInfo (h : Runs dumpDebugInfo t debugInfo) :
    ∃ (len final : UInt32) (asked text : List UInt8) (u : List DeviceEvent),
      t = ⟨.dump 0 none, (len, asked)⟩ ::
          ⟨.dump len (some (len + 1).toNat), (final, text)⟩ :: u ∧
        if final.toNat < (final + 1).toNat then
          u = [] ∧ debugInfo = cString ((dumpBuffer len final text).set final.toNat 0)
        else u.map Event.call = [.outOfBounds] := by
  obtain ⟨⟨len, asked⟩, v, rfl, hv⟩ := runs_call_iff.1 h
  have hfill : Runs
      (Program.call (.dump len (some (List.replicate (len + 1).toNat (0 : UInt8)).length)) _)
      v debugInfo := hv
  rw [List.length_replicate] at hfill
  obtain ⟨⟨final, text⟩, u, rfl, hu⟩ := runs_call_iff.1 hfill
  refine ⟨len, final, asked, text, u, rfl, ?_⟩
  change Runs (if final.toNat < (dumpBuffer len final text).length then _ else _) u debugInfo at hu
  rw [dumpBuffer, length_resize] at hu
  split at hu
  case isTrue hroom =>
    rw [if_pos hroom]
    obtain ⟨rfl, rfl⟩ := runs_ret_iff.1 hu
    exact ⟨rfl, rfl⟩
  case isFalse hroom =>
    rw [if_neg hroom]
    obtain ⟨x, w, rfl, hw⟩ := runs_call_iff.1 hu
    obtain ⟨rfl, -⟩ := runs_ret_iff.1 hw
    rfl

/-- A size of `len + 1` is more than `len`, unless it wraps. -/
theorem lt_succ_iff : len.toNat < (len + 1).toNat ↔ len ≠ 0xffffffff := by
  constructor
  · rintro h rfl
    revert h
    decide
  · intro h
    rw [toNat_succ h]
    omega

/-- The second call is the only one that fills a buffer. -/
theorem mem_fill {asked text' : List UInt8} {len' final' : UInt32} {room room' : ℕ}
    (h : ⟨.dump len' (some room'), (final', text')⟩ ∈
      [(⟨.dump 0 none, (len, asked)⟩ : DeviceEvent), ⟨.dump len (some room), (final, text)⟩]) :
    (len' = len ∧ room' = room) ∧ final' = final ∧ text' = text := by
  simpa using h

/-- **Two calls in bounds**, when both lengths fit. -/
theorem inBounds_of_lengthFits {asked : List UInt8} (hlen : len ≠ 0xffffffff)
    (hfinal : final ≠ 0xffffffff) (htext : text.length ≤ len.toNat) :
    DumpInBounds
      [⟨.dump 0 none, (len, asked)⟩, ⟨.dump len (some (len + 1).toNat), (final, text)⟩]
      (cString ((dumpBuffer len final text).set final.toNat 0)) where
  announced := by
    simp only [List.mem_cons, List.not_mem_nil, or_false]
    rintro e (rfl | rfl) len' room ⟨⟩
    exact Nat.le_of_lt (lt_succ_iff.2 hlen)
  written := by
    intro len' room final' text' hmem
    obtain ⟨⟨rfl, rfl⟩, rfl, rfl⟩ := mem_fill hmem
    exact Nat.le_trans htext (Nat.le_of_lt (lt_succ_iff.2 hlen))
  terminated := by
    simp only [List.mem_cons, List.not_mem_nil, or_false]
    rintro e (rfl | rfl) ⟨⟩
  returned := by
    intro len' room final' text' hmem
    obtain ⟨⟨rfl, rfl⟩, rfl, rfl⟩ := mem_fill hmem
    exact cString_dumpBuffer hlen hfinal

/-- **The dump stays in bounds exactly when neither length is 2^32 - 1.** -/
theorem dumpDebugInfo_inBounds_iff (h : Runs dumpDebugInfo t debugInfo)
    (hdevice : ∀ e ∈ t, WritesAnnounced e) :
    DumpInBounds t debugInfo ↔ ∀ e ∈ t, LengthFits e := by
  obtain ⟨len, final, asked, text, u, rfl, hend⟩ := runs_dumpDebugInfo h
  constructor
  · intro hbounds
    have hlen : len ≠ 0xffffffff := by
      have hannounced : len.toNat ≤ (len + 1).toNat :=
        hbounds.announced _ (List.mem_cons_of_mem _ List.mem_cons_self) len _ rfl
      rintro rfl
      revert hannounced
      decide
    have hfinal : final ≠ 0xffffffff := by
      rw [← lt_succ_iff]
      by_contra hroom
      rw [if_neg hroom] at hend
      obtain ⟨e, he, hcall⟩ : ∃ e ∈ u, e.call = .outOfBounds :=
        List.mem_map.1 (hend ▸ List.mem_singleton_self _)
      exact hbounds.terminated e (by simp [he]) hcall
    rw [if_pos (lt_succ_iff.2 hfinal)] at hend
    obtain ⟨rfl, -⟩ := hend
    simp only [List.mem_cons, List.not_mem_nil, or_false]
    rintro e (rfl | rfl)
    · exact hlen
    · exact hfinal
  · intro hfits
    have hlen : len ≠ 0xffffffff := hfits ⟨.dump 0 none, (len, asked)⟩ (by simp)
    have hfinal : final ≠ 0xffffffff :=
      hfits ⟨.dump len (some (len + 1).toNat), (final, text)⟩ (by simp)
    have htext : text.length ≤ len.toNat :=
      hdevice ⟨.dump len (some (len + 1).toNat), (final, text)⟩ (by simp)
    rw [if_pos (lt_succ_iff.2 hfinal)] at hend
    obtain ⟨rfl, rfl⟩ := hend
    exact inBounds_of_lengthFits hlen hfinal htext

/-- A text that grows from three bytes to five while it is dumped. -/
def grownDump : List DeviceEvent :=
  [⟨.dump 0 none, (3, [])⟩, ⟨.dump 3 (some 4), (5, [97, 98, 99])⟩]

theorem runs_grownDump : Runs dumpDebugInfo grownDump [97, 98, 99] := by
  repeat first | exact Steps.refl _ | apply Steps.call

theorem dumpDebugInfo_inBounds_grown :
    DumpInBounds grownDump [97, 98, 99] ↔ ∀ e ∈ grownDump, LengthFits e :=
  dumpDebugInfo_inBounds_iff runs_grownDump (by simp [grownDump, WritesAnnounced])

/-- A text of 2^32 - 1 bytes that is gone when it is to be dumped. -/
def wrappedDump : List DeviceEvent :=
  [⟨.dump 0 none, (0xffffffff, [])⟩, ⟨.dump 0xffffffff (some 0), (0, [])⟩]

/-- **The size wraps**: the device is told of 2^32 - 1 bytes of room in an empty buffer. -/
theorem dumpDebugInfo_announces_too_much :
    Runs dumpDebugInfo wrappedDump [] ∧ (∀ e ∈ wrappedDump, WritesAnnounced e) ∧
      ¬DumpInBounds wrappedDump [] := by
  refine ⟨?_, by simp [wrappedDump, WritesAnnounced], fun h ↦ ?_⟩
  · repeat first | exact Steps.refl _ | apply Steps.call
  · have hroom : (0xffffffff : UInt32).toNat ≤ 0 :=
      h.announced ⟨.dump 0xffffffff (some 0), (0, [])⟩ (by simp [wrappedDump]) _ _ rfl
    revert hroom
    decide

end Gralloc1Hal

end XenvmHal
