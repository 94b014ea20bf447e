import XenvmHal.Interaction.Monitor
import Mathlib.Logic.Function.Basic

/-!
# Interleaved programs

Any number of programs run against one environment, one call at a time, in any order: the index
type is arbitrary, a program that has not been scheduled yet is one that has not arrived yet, and
a scheduled program may be left unfinished for ever.

Two facts carry everything else.

* `Interleaved.own`: what the trace records of one program is a partial run of that program.
  So a result about one program at a time holds of each program of a pool.
* `Interleaved.invariant`: the **thread-modular rule**. Each program is safe over its own ghost
  state; a global invariant relates the whole history to the ghost states; the environment's
  assumption, stated on the history, must give each program's assumption and keep the invariant
  over one event. Then the invariant holds after every interleaved run, and what is left of each
  program is still safe.

`runSchedule` makes such runs: it lets the programs of a pool take turns against a handler.
-/

namespace Interaction

open Program

universe u v w x y

variable {ι : Type y} [DecidableEq ι] {C : Type u} {A : C → Type v} {α : Type w}

/-- **An interleaved run** of the pool `p`, leaving the pool `q`. -/
inductive Interleaved (p : ι → Program C A α) :
    List (ι × Event C A) → (ι → Program C A α) → Prop
  | nil : Interleaved p [] p
  | snoc {t : List (ι × Event C A)} {q : ι → Program C A α} {i : ι} {c : C}
      {k : A c → Program C A α} (h : Interleaved p t q) (hq : q i = Program.call c k) (x : A c) :
      Interleaved p (t ++ [(i, ⟨c, x⟩)]) (Function.update q i (k x))

/-- What a trace records of one program. -/
def own (i : ι) (t : List (ι × Event C A)) : List (Event C A) :=
  t.filterMap fun e ↦ if e.1 = i then some e.2 else none

theorem own_snoc (i : ι) (t : List (ι × Event C A)) (e : ι × Event C A) :
    own i (t ++ [e]) = own i t ++ if e.1 = i then [e.2] else [] := by
  by_cases h : e.1 = i <;> simp [own, h]

theorem mem_own_iff {i : ι} {t : List (ι × Event C A)} {e : Event C A} :
    e ∈ own i t ↔ (i, e) ∈ t := by
  simp only [own, List.mem_filterMap, Option.ite_none_right_eq_some, Option.some.injEq]
  constructor
  · rintro ⟨⟨j, d⟩, hd, rfl, rfl⟩
    exact hd
  · intro h
    exact ⟨(i, e), h, rfl, rfl⟩

theorem own_append (i : ι) (t u : List (ι × Event C A)) :
    own i (t ++ u) = own i t ++ own i u := by
  simp [own]

/-- What comes before an event, for the program that makes it. -/
theorem own_split (i : ι) (u v : List (ι × Event C A)) (e : Event C A) :
    own i (u ++ (i, e) :: v) = own i u ++ e :: own i v := by
  rw [own_append]
  simp [own]

namespace Interleaved

variable {p q : ι → Program C A α} {t : List (ι × Event C A)}

/-- **What comes before an event** is an interleaved run that has left the event's call to do. -/
theorem split {u v : List (ι × Event C A)} {e : ι × Event C A}
    (h : Interleaved p (u ++ e :: v) q) :
    ∃ (q' : ι → Program C A α) (k : A e.2.call → Program C A α),
      Interleaved p u q' ∧ q' e.1 = Program.call e.2.call k := by
  generalize ht : u ++ e :: v = t at h
  induction h generalizing v with
  | nil => exact absurd ht (by simp)
  | @snoc t q i c k h hq x ih =>
    rcases List.eq_nil_or_concat v with rfl | ⟨v', d, rfl⟩
    · obtain ⟨rfl, hlast⟩ := List.append_inj' ht rfl
      obtain rfl := List.singleton_injective hlast
      exact ⟨q, k, h, hq⟩
    · have hsplit : (u ++ e :: v') ++ [d] = t ++ [(i, ⟨c, x⟩)] := by simpa using ht
      exact ih (List.append_inj' hsplit rfl).1

/-- **Non-interference**: one program's part of an interleaved run is a run of that program. -/
theorem own (h : Interleaved p t q) (i : ι) : Steps (p i) (own i t) (q i) := by
  induction h with
  | nil => exact Steps.refl _
  | @snoc t q j c k _ hq x ih =>
    rw [own_snoc]
    by_cases hj : j = i
    · subst hj
      simp only [if_true, Function.update_self]
      exact (hq ▸ ih).snoc x
    · simp only [if_neg hj, List.append_nil, Function.update_of_ne (Ne.symm hj)]
      exact ih

/-- **One more call at the front.** -/
theorem cons {i : ι} {c : C} {k : A c → Program C A α} (hp : p i = Program.call c k) (x : A c)
    (h : Interleaved (Function.update p i (k x)) t q) : Interleaved p ((i, ⟨c, x⟩) :: t) q := by
  induction h with
  | nil => exact Interleaved.nil.snoc hp x
  | snoc _ hq y ih => exact ih.snoc hq y

/-- A pool in which only one program moves. -/
theorem solo {i : ι} {r : Program C A α} {u : List (Event C A)} (h : Steps (p i) u r) :
    Interleaved p (u.map (i, ·)) (Function.update p i r) := by
  have key : ∀ {p' r : Program C A α} {u : List (Event C A)}, Steps p' u r →
      ∀ {t : List (ι × Event C A)} {q : ι → Program C A α}, Interleaved p t q → q i = p' →
        Interleaved p (t ++ u.map (i, ·)) (Function.update q i r) := by
    intro p' r u hu
    induction hu with
    | refl =>
      intro t q ht hq
      simpa [← hq] using ht
    | call _ ih =>
      intro t q ht hq
      simpa using ih (ht.snoc hq _) (Function.update_self ..)
  simpa using key h Interleaved.nil rfl

variable {σ : Type x} {M : Monitor C A σ} {Q : α → σ → Prop}

/-- **The thread-modular rule.** `G` is what is assumed of the environment, given the history;
`I` relates the history to the ghost states of the programs. -/
theorem invariant {G : List (ι × Event C A) → ι × Event C A → Prop}
    {I : List (ι × Event C A) → (ι → σ) → Prop} {s₀ : ι → σ}
    (hsafe : ∀ i, Safe M Q (s₀ i) (p i)) (h₀ : I [] s₀)
    (hstep : ∀ (t : List (ι × Event C A)) (s : ι → σ) (i : ι) (e : Event C A), I t s →
      M.pre (s i) e.call → G t (i, e) →
        M.assume (s i) e ∧ I (t ++ [(i, e)]) (Function.update s i (M.next (s i) e)))
    (h : Interleaved p t q) (hG : Throughout G t) :
    ∃ s : ι → σ, I t s ∧ ∀ i, Safe M Q (s i) (q i) := by
  induction h with
  | nil => exact ⟨s₀, h₀, hsafe⟩
  | @snoc t q i c k _ hq x ih =>
    obtain ⟨hG', hlast⟩ := throughout_snoc_iff.1 hG
    obtain ⟨s, hI, hs⟩ := ih hG'
    have hcall : Safe M Q (s i) (Program.call c k) := hq ▸ hs i
    obtain ⟨hassume, hI'⟩ := hstep t s i ⟨c, x⟩ hI hcall.1 hlast
    refine ⟨_, hI', fun j ↦ ?_⟩
    by_cases hj : j = i
    · subst hj
      simpa using hcall.2 x hassume
    · simpa [Function.update_of_ne hj] using hs j

end Interleaved

/-! ### Running a schedule -/

/-- Run a pool against a handler, one call for each turn of the schedule: the trace, and what is
left of the pool. A program that has finished lets its turn pass. -/
def runSchedule {σ : Type w} (H : Handler C A σ) (s : σ) (p : ι → Program C A α) :
    List ι → List (ι × Event C A) × (ι → Program C A α)
  | [] => ([], p)
  | i :: schedule =>
    match p i with
    | .ret _ => runSchedule H s p schedule
    | .call c k =>
      let o := runSchedule H (H.next s c) (Function.update p i (k (H.answer s c))) schedule
      ((i, ⟨c, H.answer s c⟩) :: o.1, o.2)

/-- **A schedule that was run is an interleaved run.** -/
theorem interleaved_runSchedule {σ : Type w} (H : Handler C A σ) (s : σ) (p : ι → Program C A α)
    (schedule : List ι) :
    Interleaved p (runSchedule H s p schedule).1 (runSchedule H s p schedule).2 := by
  induction schedule generalizing s p with
  | nil => exact .nil
  | cons i schedule ih =>
    rw [runSchedule]
    split
    · exact ih s p
    · rename_i c k hp
      exact Interleaved.cons hp _ (ih _ _)

/-- What a handler answers from every state holds of every event of a schedule run against it. -/
theorem forall_mem_runSchedule {σ : Type w} {H : Handler C A σ} {P : Event C A → Prop}
    (h : ∀ s c, P ⟨c, H.answer s c⟩) (s : σ) (p : ι → Program C A α) (schedule : List ι) :
    ∀ e ∈ (runSchedule H s p schedule).1, P e.2 := by
  induction schedule generalizing s p with
  | nil => exact List.forall_mem_nil _
  | cons i schedule ih =>
    rw [runSchedule]
    split
    · exact ih s p
    · rename_i c k hp
      exact List.forall_mem_cons.2 ⟨h s c, ih _ _⟩

end Interaction
