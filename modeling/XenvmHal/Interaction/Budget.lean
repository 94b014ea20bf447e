import XenvmHal.Interaction.Ownership
import Mathlib.Algebra.BigOperators.Group.Finset.Basic
import Mathlib.Algebra.GroupWithZero.Nat
import Mathlib.Algebra.Order.BigOperators.Group.Finset

/-!
# Budgets

How much a program may spend. A `cost` puts a price on every call, and `budget cost limit` is the
monitor that counts what was spent and permits a call only if the limit is kept. A program that is
safe over it stays within the limit along every partial run (`Safe.spent_le`).

Budgets bound what is outstanding as well. If every call that can hand a resource out costs
something, a program holds no more than it has spent (`Discipline.length_holding_le`), and
`Interleaved.length_held_le` adds this up over a pool: what the environment has handed out and not
got back is at most the sum of the limits of the programs in flight. A pool in which nothing is in
flight has given everything back, which is the case of the empty sum.
-/

namespace Interaction

open Program

universe u v w x y

variable {C : Type u} {A : C → Type v} {α : Type w}

/-- What a trace has cost. -/
def spent (cost : C → ℕ) (t : List (Event C A)) : ℕ :=
  (t.map fun e ↦ cost e.call).sum

section Spent

variable {cost : C → ℕ} {t u : List (Event C A)} {e : Event C A}

@[simp] theorem spent_nil : spent cost ([] : List (Event C A)) = 0 := rfl

@[simp] theorem spent_cons : spent cost (e :: t) = cost e.call + spent cost t := by
  simp [spent]

@[simp] theorem spent_append : spent cost (t ++ u) = spent cost t + spent cost u := by
  simp [spent]

end Spent

/-- The monitor that counts what is spent; `trusted` is what is assumed of the answers. -/
def budget (cost : C → ℕ) (limit : ℕ) (trusted : Event C A → Prop) : Monitor C A ℕ where
  pre n c := n + cost c ≤ limit
  assume _ e := trusted e
  next n e := n + cost e.call

section Budget

variable {cost : C → ℕ} {limit n : ℕ} {trusted : Event C A → Prop} {Q : α → ℕ → Prop}

theorem spent_le_of_accepts {t : List (Event C A)}
    (h : (budget cost limit trusted).Accepts n t) (hn : n ≤ limit) :
    n + spent cost t ≤ limit := by
  induction t generalizing n with
  | nil => exact hn
  | cons e t ih =>
    rw [spent_cons, ← Nat.add_assoc]
    exact ih h.2 h.1

/-- **A program within its budget** stays within it along every partial run. -/
theorem Program.Safe.spent_le {p q : Program C A α} {t : List (Event C A)}
    (h : Safe (budget cost limit trusted) Q n p) (hn : n ≤ limit) (hr : Steps p t q)
    (ht : ∀ e ∈ t, trusted e) : n + spent cost t ≤ limit :=
  spent_le_of_accepts (h.steps hr (Monitor.assumes_of_forall _ fun _ ↦ ht)).1 hn

/-- The limit is kept to the end. -/
theorem Program.Safe.within {p : Program C A α} (h : Safe (budget cost limit trusted) Q n p)
    (hn : n ≤ limit) : Safe (budget cost limit trusted) (fun a n' ↦ Q a n' ∧ n' ≤ limit) n p := by
  induction p generalizing n with
  | ret a => exact ⟨h, hn⟩
  | call c k ih => exact ⟨h.1, fun x hx ↦ ih x (h.2 x hx) h.1⟩

/-- A call that is paid for. -/
theorem safe_spend {c : C} {k : A c → Program C A α} (hn : n + cost c ≤ limit)
    (hk : ∀ x, trusted ⟨c, x⟩ → Safe (budget cost limit trusted) Q (n + cost c) (k x)) :
    Safe (budget cost limit trusted) Q n (Program.call c k) :=
  ⟨hn, hk⟩

/-- **What is free costs nothing.** -/
theorem safe_of_free {p : Program C A α} (h : Only (fun c ↦ cost c = 0) p) (hn : n ≤ limit) :
    Safe (budget cost limit trusted) (fun _ n' ↦ n' = n) n p := by
  refine h.safe (fun c hc ↦ ?_) fun c x hc ↦ ?_
  · exact (congrArg (n + ·) hc).trans_le hn
  · exact congrArg (n + ·) hc

end Budget

/-! ### Budgets and ownership -/

namespace Discipline

variable {R : Type x} [DecidableEq R] {D : Discipline C A R} {cost : C → ℕ}
  {t u : List (Event C A)} {r : R}

theorem length_next_le (s : List R) (e : Event C A) :
    (D.next s e).length ≤ s.length + if (D.acquires e).isSome then 1 else 0 := by
  rcases ha : D.acquires e with - | r
  · rcases hrel : D.releases e.call with - | r
    · simp [D.next_of_neither ha hrel]
    · simpa [D.next_of_releases ha hrel] using List.length_erase_le
  · simp [D.next_of_acquires ha]

/-- **A program holds no more than it has paid for**, if handing out has a price. -/
theorem length_holding_le (hcost : ∀ e, (D.acquires e).isSome → 1 ≤ cost e.call) :
    (D.holding t).length ≤ spent cost t := by
  induction t using List.reverseRecOn with
  | nil => exact Nat.le_refl 0
  | append_singleton t e ih =>
    rw [D.holding_snoc, spent_append, spent_cons, spent_nil, Nat.add_zero]
    refine (length_next_le _ e).trans (Nat.add_le_add ih ?_)
    split
    · exact hcost e ‹_›
    · exact Nat.zero_le _

/-- What is held stays held until it is given back. -/
theorem mem_holding_append (hr : r ∈ D.holding t)
    (hkept : ∀ e ∈ u, D.releases e.call ≠ some r) : r ∈ D.holding (t ++ u) := by
  induction u using List.reverseRecOn with
  | nil => simpa using hr
  | append_singleton u e ih =>
    rw [← List.append_assoc, D.holding_snoc]
    have hmem := ih fun e he ↦ hkept e (List.mem_append_left _ he)
    rcases ha : D.acquires e with - | r'
    · rcases hrel : D.releases e.call with - | r'
      · rwa [D.next_of_neither ha hrel]
      · rw [D.next_of_releases ha hrel]
        refine (List.mem_erase_of_ne fun heq ↦ ?_).2 hmem
        exact hkept e (by simp) (heq ▸ hrel)
    · rw [D.next_of_acquires ha]
      exact List.mem_append_left _ hmem

variable {ι : Type y} [DecidableEq ι] {L : Ledger ι R} {s : ι → List R}

/-- **Adding up**: the ledger is no longer than what its owners hold. -/
theorem Agrees.length_held_le (h : Agrees L s) {F : Finset ι} (hF : ∀ i ∉ F, s i = []) :
    L.held.length ≤ ∑ i ∈ F, (s i).length := by
  have hnodup : L.held.Nodup := List.Nodup.of_map _ h.distinct
  have hmaps : ∀ x ∈ L.held.toFinset, x.2 ∈ F := by
    rintro ⟨r, i⟩ hx
    by_contra hi
    have hr := (h.held_iff i r).1 (List.mem_toFinset.1 hx)
    simp [hF i hi] at hr
  rw [← List.toFinset_card_of_nodup hnodup, Finset.card_eq_sum_card_fiberwise hmaps]
  refine Finset.sum_le_sum fun i _ ↦ ?_
  -- the entries of one owner are told apart by their resources, which the owner holds
  refine (Finset.card_le_card_of_injOn Prod.fst (t := (s i).toFinset) ?_ ?_).trans
    (List.toFinset_card_le _)
  · rintro ⟨r, j⟩ hx
    obtain ⟨hmem, rfl⟩ := Finset.mem_filter.1 hx
    exact List.mem_toFinset.2 ((h.held_iff j r).1 (List.mem_toFinset.1 hmem))
  · rintro x hx x' hx' hfst
    have hsnd : x.2 = x'.2 :=
      (Finset.mem_filter.1 hx).2.trans (Finset.mem_filter.1 hx').2.symm
    exact Prod.ext hfst hsnd

end Discipline

/-- The programs in flight: they have made a call and have more to do. -/
def InFlight {ι : Type y} [DecidableEq ι] (t : List (ι × Event C A)) (q : ι → Program C A α)
    (i : ι) : Prop :=
  own i t ≠ [] ∧ ∀ a, q i ≠ ret a

section Pool

variable {ι : Type y} [DecidableEq ι] {R : Type x} [DecidableEq R] {D : Discipline C A R}
  {p q : ι → Program C A α} {t : List (ι × Event C A)}

/-- **What is outstanding** in a pool of disciplined programs is covered by the limits of those in
flight. -/
theorem Interleaved.length_held_le {cost : C → ℕ} {limit : ι → ℕ} {trusted : Event C A → Prop}
    (hp : ∀ i, Safe (D.monitor (D.TrustedFresh trusted)) (fun _ s ↦ s = []) [] (p i))
    (hlimit : ∀ i, Safe (budget cost (limit i) trusted) (fun _ _ ↦ True) 0 (p i))
    (hcost : ∀ e, (D.acquires e).isSome → 1 ≤ cost e.call)
    (h : Interleaved p t q) (hfresh : Throughout D.Fresh t) (htrusted : ∀ e ∈ t, trusted e.2)
    {F : Finset ι} (hF : ∀ i, InFlight t q i → i ∈ F) :
    (D.ledger t).held.length ≤ ∑ i ∈ F, limit i := by
  obtain ⟨hagree, hsafe⟩ := h.agrees hp hfresh htrusted
  refine (hagree.length_held_le fun i hi ↦ ?_).trans (Finset.sum_le_sum fun i _ ↦ ?_)
  · -- a program that is not in flight has not started, or has finished
    by_contra hne
    refine hi (hF i ⟨fun hown ↦ hne (by rw [hown]; rfl), fun a ha ↦ hne ?_⟩)
    simpa [ha] using hsafe i
  · refine (D.length_holding_le hcost).trans ?_
    have hspent := (hlimit i).spent_le (Nat.zero_le _) (h.own i) fun e he ↦
      htrusted _ (mem_own_iff.1 he)
    rwa [Nat.zero_add] at hspent

/-- **Nobody is given what another still holds.** If two programs of the pool pass on the same
resource, the first has given it back in between. -/
theorem Interleaved.released_between {trusted : Event C A → Prop} {Q : α → List R → Prop}
    (hp : ∀ i, Safe (D.monitor (D.TrustedFresh trusted)) Q [] (p i)) (h : Interleaved p t q)
    (hfresh : Throughout D.Fresh t) (htrusted : ∀ e ∈ t, trusted e.2)
    {u v w : List (ι × Event C A)} {i j : ι} {c d : Event C A} (hij : i ≠ j)
    (ht : t = u ++ (i, c) :: (v ++ (j, d) :: w)) {r : R} (hc : r ∈ D.uses c.call)
    (hd : r ∈ D.uses d.call) :
    ∃ e ∈ (i, c) :: v, e.1 = i ∧ D.releases e.2.call = some r := by
  by_contra hkept
  push Not at hkept
  have ht' : t = (u ++ (i, c) :: v) ++ (j, d) :: w := by simpa using ht
  have hpermitted := h.permitted hp hfresh htrusted
  have hheld : r ∈ D.holding (Interaction.own i (u ++ (i, c) :: v)) := by
    rw [own_append]
    refine D.mem_holding_append ((hpermitted u (i, c) _ ht).2 r hc) fun e he ↦ ?_
    exact hkept _ (mem_own_iff.1 he) rfl
  have hheld' : r ∈ D.holding (Interaction.own j (u ++ (i, c) :: v)) :=
    (hpermitted _ (j, d) w ht').2 r hd
  subst ht'
  obtain ⟨q', k, hu, -⟩ := h.split
  have hagree := (hu.agrees hp (throughout_append_iff.1 hfresh).1 fun e he ↦
    htrusted e (List.mem_append_left _ he)).1
  exact hij (hagree.owner_unique ((hagree.held_iff i r).2 hheld) ((hagree.held_iff j r).2 hheld'))

end Pool

end Interaction
