import XenvmHal.Health.Mainloop

/-!
# Reading a uevent message

A uevent message is a sequence of strings, each ended by a zero byte. What it says does not
depend on how it is scanned: `ueventStrings` are the strings between its zero bytes, up to the
first empty one.

`uevent_event` looks for its string with two nested pointer loops, in a buffer to which it has
appended two zero bytes. One of them ends the last string of a message that does not end in a zero
byte; the other one stops the outer loop. `ueventScan_eq` says that they are enough for every
message: the scan stays in the buffer, ends, and finds the string exactly when it is one of
`ueventStrings`. The induction is on the strings and not on the bytes, one step of the outer loop
at a time (`ueventScan_append`).
-/

namespace XenvmHal

open Interaction Program

namespace Health

/-- The strings of a message, up to the first empty one. -/
def ueventStrings (msg : List UInt8) : List (List UInt8) :=
  (msg.splitOn 0).takeWhile (· ≠ [])

variable {str literal rest msg : List UInt8}

/-! ### The strings of a message -/

/-- A message that has no zero byte is one string. -/
theorem ueventStrings_of_not_mem (h : 0 ∉ msg) :
    ueventStrings msg = if msg = [] then [] else [msg] := by
  rw [ueventStrings, List.splitOn_eq_singleton h]
  by_cases hnil : msg = [] <;> simp [hnil]

/-- The first string, and the strings after its zero byte. -/
theorem ueventStrings_append (h : 0 ∉ str) :
    ueventStrings (str ++ 0 :: rest) = if str = [] then [] else str :: ueventStrings rest := by
  rw [ueventStrings, List.splitOn_append_cons_self, List.splitOn_eq_singleton h]
  by_cases hnil : str = [] <;> simp [hnil, ueventStrings]

/-! ### The two loops -/

/-- Comparing a string in the buffer. -/
theorem strcmpEqual_append (hstr : 0 ∉ str) (hliteral : 0 ∉ literal) :
    strcmpEqual (str ++ 0 :: rest) literal = some (decide (str = literal)) := by
  induction literal generalizing str with
  | nil =>
    rcases str with - | ⟨c, str⟩
    · rfl
    · have hc : c ≠ 0 := fun h ↦ hstr (by simp [h])
      simp [strcmpEqual, hc]
  | cons l literal ih =>
    have hl : l ≠ 0 := fun h ↦ hliteral (by simp [h])
    rcases str with - | ⟨c, str⟩
    · simp [strcmpEqual, hl.symm]
    · have ih := @ih str (fun h ↦ hstr (by simp [h])) fun h ↦ hliteral (by simp [h])
      rw [List.cons_append, strcmpEqual]
      by_cases hc : c = l
      · rw [if_pos hc, ih]
        simp [hc]
      · rw [if_neg hc]
        simp [hc]

/-- The inner loop stops after the zero byte. -/
theorem skipString_append (h : 0 ∉ str) : skipString (str ++ 0 :: rest) = some rest := by
  induction str with
  | nil => rfl
  | cons c str ih =>
    have hc : c ≠ 0 := fun hc ↦ h (by simp [hc])
    rw [List.cons_append, skipString, if_neg hc]
    exact ih fun hmem ↦ h (by simp [hmem])

theorem not_mem_subsystemPowerSupply : 0 ∉ subsystemPowerSupply := by decide

/-- **One step of the outer loop**, on a string that is not empty. -/
theorem ueventScan_append (h : 0 ∉ str) (hne : str ≠ []) :
    ueventScan (str ++ 0 :: rest) =
      if str = subsystemPowerSupply then some true else ueventScan rest := by
  rcases str with - | ⟨c, str⟩
  · exact absurd rfl hne
  have hc : c ≠ 0 := fun hc ↦ h (by simp [hc])
  have hcompare : strcmpEqual (c :: str ++ 0 :: rest) subsystemPowerSupply =
      some (decide (c :: str = subsystemPowerSupply)) :=
    strcmpEqual_append h not_mem_subsystemPowerSupply
  have hskip : skipString (c :: str ++ 0 :: rest) = some rest := skipString_append h
  rw [List.cons_append] at hcompare hskip ⊢
  rw [ueventScan, if_neg hc, hcompare]
  by_cases heq : c :: str = subsystemPowerSupply
  · simp [heq]
  · rw [if_neg heq, decide_eq_false heq]
    dsimp only
    rw [hskip]

/-- A message is one string without a zero byte, or such a string, a zero byte and a message. -/
@[elab_as_elim]
theorem message_induction {P : List UInt8 → Prop} (last : ∀ str, 0 ∉ str → P str)
    (next : ∀ str rest, 0 ∉ str → P rest → P (str ++ 0 :: rest)) (msg : List UInt8) : P msg := by
  induction hlength : msg.length using Nat.strongRecOn generalizing msg with
  | ind n ih =>
    by_cases hmem : 0 ∈ msg
    · obtain ⟨str, rest, rfl, hstr⟩ := List.eq_append_cons_of_mem hmem
      have hrest : rest.length < n := by
        simp only [List.length_append, List.length_cons] at hlength
        omega
      exact next str rest hstr (ih rest.length hrest rest rfl)
    · exact last msg hmem

theorem ueventScan_zero (rest : List UInt8) : ueventScan (0 :: rest) = some false := by
  rw [ueventScan, if_pos rfl]

/-- **The scan of a message** with two zero bytes appended never leaves the buffer, and finds the
subsystem's string exactly when it is one of the strings of the message. -/
theorem ueventScan_eq (msg : List UInt8) :
    ueventScan (msg ++ [0, 0]) = some (decide (subsystemPowerSupply ∈ ueventStrings msg)) := by
  induction msg using message_induction with
  | last str hstr =>
    rw [ueventStrings_of_not_mem hstr]
    by_cases hnil : str = []
    · simp [hnil, ueventScan_zero]
    · -- the first appended zero ends the string, the second one stops the outer loop
      rw [ueventScan_append hstr hnil, if_neg hnil, ueventScan_zero]
      by_cases heq : str = subsystemPowerSupply
      · simp [heq]
      · simp [heq, Ne.symm heq]
  | next str rest hstr ih =>
    rw [ueventStrings_append hstr, List.append_assoc, List.cons_append]
    by_cases hnil : str = []
    · simp [hnil, ueventScan_zero]
    · rw [ueventScan_append hstr hnil, if_neg hnil, ih]
      by_cases heq : str = subsystemPowerSupply
      · simp [heq]
      · simp [heq, Ne.symm heq]

/-! ### The handler -/

variable {C : Type} (config : HealthdConfig)

/-- The scan as a search. -/
theorem ueventEvent_program (s : Healthd C) :
    ueventEvent config s = Program.call (.ueventRecv s.ueventFd ueventMsgLen) fun x ↦
      if 0 < x.1 ∧ x.1 < 2048 ∧ subsystemPowerSupply ∈ ueventStrings (x.2.take x.1.toNat) then
        healthdBatteryUpdate config s
      else ret s := by
  refine congrArg (Program.call (Sys.ueventRecv s.ueventFd ueventMsgLen)) (funext fun x ↦ ?_)
  obtain ⟨n, received⟩ := x
  show (if n ≤ 0 then _ else if n ≥ (2048 : ℕ) then _ else _) = _
  by_cases hempty : n ≤ 0
  · rw [if_pos hempty, if_neg fun h ↦ by omega]
    rfl
  by_cases hfull : n ≥ (2048 : ℕ)
  · rw [if_neg hempty, if_pos hfull, if_neg fun h ↦ by omega]
    rfl
  rw [if_neg hempty, if_neg hfull]
  dsimp only
  rw [ueventScan_eq]
  have hlow : 0 < n := by omega
  have hhigh : n < 2048 := by omega
  by_cases hfound : subsystemPowerSupply ∈ ueventStrings (received.take n.toNat)
  · rw [if_pos ⟨hlow, hhigh, hfound⟩, decide_eq_true hfound]
  · rw [if_neg fun h ↦ hfound h.2.2, decide_eq_false hfound]
    rfl

end Health

end XenvmHal
