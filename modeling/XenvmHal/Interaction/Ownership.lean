import XenvmHal.Interaction.Interleaving
import Mathlib.Data.List.Nodup

/-!
# Ownership of resources handed out by the environment

An environment hands out resources one at a time and takes them back on request. A `Discipline`
says which events hand one out (`acquires`), which calls give one back (`releases`) and which
calls pass resources on and so must still own them (`uses`).

Over a whole interleaved history the `Ledger` keeps the account: what is held and by whom, what
was given back and by whom, and which give-back calls named nothing that was held (`stray`). The
statement of good behaviour is `Owned`: no stray call, every resource given back by its owner,
nothing held by a finished program, and nothing passed on that its user does not hold.

The rule `Interleaved.owned` reduces it to one program at a time: if each program, alone, is safe
over the monitor `Discipline.monitor`, whose ghost state is the list of the resources that this
program holds, and the environment never hands out a resource that somebody holds, then every
interleaving is `Owned`. The ghost lists never meet, which is the whole of non-interference.
-/

namespace Interaction

open Program

universe u v w x y

/-- Which events hand out, give back and use resources of type `R`. -/
structure Discipline (C : Type u) (A : C → Type v) (R : Type x) where
  /-- The resource an event hands out. -/
  acquires : Event C A → Option R
  /-- The resource a call gives back. -/
  releases : C → Option R
  /-- The resources a call passes on. -/
  uses : C → List R

/-- A resource given back: whose it was and who gave it back. -/
structure Return (ι : Type y) (R : Type x) where
  resource : R
  owner : ι
  issuer : ι

/-- The account of an interleaved history. -/
structure Ledger (ι : Type y) (R : Type x) where
  /-- Handed out and not given back, with the program it was handed to. -/
  held : List (R × ι)
  /-- Given back. -/
  returned : List (Return ι R)
  /-- Give-back calls that named nothing held. -/
  stray : List (ι × R)

namespace Discipline

variable {C : Type u} {A : C → Type v} {R : Type x} [DecidableEq R] (D : Discipline C A R)

/-- The resources one program holds, after one event of its own. -/
def next (s : List R) (e : Event C A) : List R :=
  match D.acquires e with
  | some r => s ++ [r]
  | none =>
    match D.releases e.call with
    | some r => s.erase r
    | none => s

/-- The monitor of one program: it may give back and pass on only what it holds. -/
def monitor (trusted : List R → Event C A → Prop) : Monitor C A (List R) where
  pre s c := (∀ r, D.releases c = some r → r ∈ s) ∧ ∀ r ∈ D.uses c, r ∈ s
  assume := trusted
  next := D.next

/-- Answers that are trusted, and hand out only what is new to the program. -/
def TrustedFresh (trusted : Event C A → Prop) (s : List R) (e : Event C A) : Prop :=
  trusted e ∧ ∀ r ∈ D.acquires e, r ∉ s

/-- Whether what an event hands out is new is decidable, however many resources there are. -/
instance (s : List R) (e : Event C A) : Decidable (∀ r ∈ D.acquires e, r ∉ s) :=
  decidable_of_iff ((D.acquires e).all fun r ↦ decide (r ∉ s)) (by simp [Option.all_eq_true])

theorem monitor_next (trusted : List R → Event C A → Prop) (s : List R) (e : Event C A) :
    (D.monitor trusted).next s e = D.next s e :=
  rfl

theorem next_of_acquires {s : List R} {e : Event C A} {r : R} (h : D.acquires e = some r) :
    D.next s e = s ++ [r] := by
  simp [next, h]

theorem next_of_releases {s : List R} {e : Event C A} {r : R} (ha : D.acquires e = none)
    (h : D.releases e.call = some r) : D.next s e = s.erase r := by
  simp [next, ha, h]

theorem next_of_neither {s : List R} {e : Event C A} (ha : D.acquires e = none)
    (h : D.releases e.call = none) : D.next s e = s := by
  simp [next, ha, h]

/-- What a program holds stays free of duplicates when only new resources are handed out. -/
theorem next_nodup {s : List R} {e : Event C A} (hs : s.Nodup) (hnew : ∀ r ∈ D.acquires e, r ∉ s) :
    (D.next s e).Nodup := by
  rcases ha : D.acquires e with - | r
  · rcases hrel : D.releases e.call with - | r
    · rwa [D.next_of_neither ha hrel]
    · rw [D.next_of_releases ha hrel]
      exact hs.erase r
  · rw [D.next_of_acquires ha]
    refine hs.append (List.nodup_singleton r) fun a ha' hr ↦ ?_
    exact hnew r ha (List.mem_singleton.1 hr ▸ ha')

theorem nodup_after {trusted : Event C A → Prop} {s : List R} {t : List (Event C A)}
    (hs : s.Nodup) (h : (D.monitor (D.TrustedFresh trusted)).Assumes s t) :
    ((D.monitor (D.TrustedFresh trusted)).after s t).Nodup := by
  induction t generalizing s with
  | nil => exact hs
  | cons e t ih => exact ih (D.next_nodup hs h.1.2) h.2

/-- What a program holds by its own account. -/
def holding (t : List (Event C A)) : List R :=
  t.foldl D.next []

theorem holding_snoc (t : List (Event C A)) (e : Event C A) :
    D.holding (t ++ [e]) = D.next (D.holding t) e := by
  simp [holding]

/-! ### The rules for one call -/

section Rules

variable {D} {α : Type w} {trusted : List R → Event C A → Prop} {Q : α → List R → Prop}
  {s : List R} {c : C} {k : A c → Program C A α} {r : R}

/-- A call that may hand a resource out. -/
theorem safe_acquire (hrel : D.releases c = none) (huse : D.uses c = [])
    (hnone : ∀ x, trusted s ⟨c, x⟩ → D.acquires ⟨c, x⟩ = none → Safe (D.monitor trusted) Q s (k x))
    (hsome : ∀ x r, trusted s ⟨c, x⟩ → D.acquires ⟨c, x⟩ = some r →
      Safe (D.monitor trusted) Q (s ++ [r]) (k x)) :
    Safe (D.monitor trusted) Q s (Program.call c k) := by
  refine ⟨by simp [monitor, hrel, huse], fun x hx ↦ ?_⟩
  rcases ha : D.acquires ⟨c, x⟩ with - | r
  · rw [monitor_next, next_of_neither D ha hrel]
    exact hnone x hx ha
  · rw [monitor_next, next_of_acquires D ha]
    exact hsome x r hx ha

/-- A call that gives a resource back. -/
theorem safe_release (hrel : D.releases c = some r) (hacq : ∀ x, D.acquires ⟨c, x⟩ = none)
    (huse : D.uses c = []) (hr : r ∈ s)
    (hk : ∀ x, trusted s ⟨c, x⟩ → Safe (D.monitor trusted) Q (s.erase r) (k x)) :
    Safe (D.monitor trusted) Q s (Program.call c k) := by
  refine ⟨by simp [monitor, hrel, huse, hr], fun x hx ↦ ?_⟩
  rw [monitor_next, next_of_releases D (hacq x) hrel]
  exact hk x hx

/-- A call that passes resources on, or does nothing with them. -/
theorem safe_use (hrel : D.releases c = none) (hacq : ∀ x, D.acquires ⟨c, x⟩ = none)
    (huse : ∀ r ∈ D.uses c, r ∈ s)
    (hk : ∀ x, trusted s ⟨c, x⟩ → Safe (D.monitor trusted) Q s (k x)) :
    Safe (D.monitor trusted) Q s (Program.call c k) := by
  refine ⟨⟨by simp [hrel], huse⟩, fun x hx ↦ ?_⟩
  rw [monitor_next, next_of_neither D (hacq x) hrel]
  exact hk x hx

/-- A call that neither hands out, gives back nor passes on a resource. -/
structure Neutral (D : Discipline C A R) (c : C) : Prop where
  acquires : ∀ x, D.acquires ⟨c, x⟩ = none
  releases : D.releases c = none
  uses : D.uses c = []

/-- A program of neutral calls leaves what is held alone. -/
theorem safe_of_neutral {p : Program C A α} (h : Only (Neutral D) p) (s : List R) :
    Safe (D.monitor trusted) (fun _ s' ↦ s' = s) s p := by
  refine h.safe (fun c hc ↦ ?_) fun c x hc ↦ next_of_neither D (hc.acquires x) hc.releases
  simp [monitor, hc.releases, hc.uses]

end Rules

/-! ### The ledger -/

variable {ι : Type y} [DecidableEq ι]

/-- Enter one event into the ledger. -/
def record (L : Ledger ι R) (e : ι × Event C A) : Ledger ι R :=
  match D.acquires e.2 with
  | some r => { L with held := (r, e.1) :: L.held }
  | none =>
    match D.releases e.2.call with
    | none => L
    | some r =>
      match L.held.find? fun x ↦ decide (x.1 = r) with
      | some x =>
        { L with held := L.held.erase x, returned := ⟨r, x.2, e.1⟩ :: L.returned }
      | none => { L with stray := (e.1, r) :: L.stray }

/-- The ledger of a history. -/
def ledger (t : List (ι × Event C A)) : Ledger ι R :=
  t.foldl D.record ⟨[], [], []⟩

theorem ledger_snoc (t : List (ι × Event C A)) (e : ι × Event C A) :
    D.ledger (t ++ [e]) = D.record (D.ledger t) e := by
  simp [ledger]

/-- What is assumed of the environment: it hands out only what nobody holds. -/
def Fresh (t : List (ι × Event C A)) (e : ι × Event C A) : Prop :=
  ∀ r ∈ D.acquires e.2, r ∉ (D.ledger t).held.map Prod.fst

instance (t : List (ι × Event C A)) (e : ι × Event C A) : Decidable (D.Fresh t e) :=
  inferInstanceAs (Decidable (∀ r ∈ D.acquires e.2, r ∉ (D.ledger t).held.map Prod.fst))

/-- **Good behaviour** of a history that leaves the programs `q`. -/
structure Owned {α : Type w} (t : List (ι × Event C A)) (q : ι → Program C A α) : Prop where
  /-- Every give-back call names a resource that is held. -/
  no_stray : (D.ledger t).stray = []
  /-- And it is made by the program that holds it. -/
  own : ∀ x ∈ (D.ledger t).returned, x.issuer = x.owner
  /-- A finished program holds nothing. -/
  none_left : ∀ i a, q i = ret a → ∀ r, (r, i) ∉ (D.ledger t).held
  /-- What is passed on is held at that moment. -/
  uses_held : Throughout (fun u e ↦ ∀ r ∈ D.uses e.2.call, (r, e.1) ∈ (D.ledger u).held) t

/-! ### The ledger agrees with what each program holds -/

/-- The ledger is in order and records exactly the ghost lists `s`. -/
structure Agrees (L : Ledger ι R) (s : ι → List R) : Prop where
  no_stray : L.stray = []
  own : ∀ x ∈ L.returned, x.issuer = x.owner
  distinct : (L.held.map Prod.fst).Nodup
  held_iff : ∀ i r, (r, i) ∈ L.held ↔ r ∈ s i
  nodup : ∀ i, (s i).Nodup

omit [DecidableEq R] [DecidableEq ι] in
theorem agrees_nil : Agrees (⟨[], [], []⟩ : Ledger ι R) fun _ ↦ [] where
  no_stray := rfl
  own := by simp
  distinct := List.nodup_nil
  held_iff := by simp
  nodup := by simp

variable {L : Ledger ι R} {s : ι → List R} {i : ι} {e : Event C A} {r : R} {D}

omit [DecidableEq R] [DecidableEq ι] in
/-- Resources are held by one program at most. -/
theorem Agrees.owner_unique (h : Agrees L s) {j : ι} (hi : (r, i) ∈ L.held)
    (hj : (r, j) ∈ L.held) : i = j := by
  have := List.inj_on_of_nodup_map h.distinct hi hj rfl
  exact congrArg Prod.snd this

theorem Agrees.acquire (h : Agrees L s) (ha : D.acquires e = some r)
    (hfresh : r ∉ L.held.map Prod.fst) :
    Agrees (D.record L (i, e)) (Function.update s i (D.next (s i) e)) := by
  rw [next_of_acquires D ha]
  have hrec : D.record L (i, e) = { L with held := (r, i) :: L.held } := by
    simp [record, ha]
  have hnot : r ∉ s i := fun hr ↦ hfresh (List.mem_map_of_mem ((h.held_iff i r).2 hr))
  rw [hrec]
  refine ⟨h.no_stray, h.own, ?_, fun j r' ↦ ?_, fun j ↦ ?_⟩
  · exact List.nodup_cons.2 ⟨hfresh, h.distinct⟩
  · by_cases hj : j = i
    · subst hj
      simp [h.held_iff, or_comm]
    · simp [hj, h.held_iff]
  · by_cases hj : j = i
    · subst hj
      rw [Function.update_self, ← next_of_acquires D ha]
      exact D.next_nodup (h.nodup j) (by simpa [ha] using hnot)
    · simpa [hj] using h.nodup j

theorem Agrees.release (h : Agrees L s) (ha : D.acquires e = none)
    (hrel : D.releases e.call = some r) (hr : r ∈ s i) :
    Agrees (D.record L (i, e)) (Function.update s i (D.next (s i) e)) := by
  rw [next_of_releases D ha hrel]
  have hmem : (r, i) ∈ L.held := (h.held_iff i r).2 hr
  -- the entry found is the caller's own, because resources are held by one program at most
  have hfind : (L.held.find? fun x ↦ decide (x.1 = r)) = some (r, i) := by
    rcases hf : L.held.find? fun x ↦ decide (x.1 = r) with - | ⟨r', j⟩
    · exact absurd (List.find?_eq_none.1 hf (r, i) hmem) (by simp)
    · obtain rfl : r' = r := by simpa using List.find?_some hf
      rw [hf, h.owner_unique hmem (List.mem_of_find?_eq_some hf)]
  have hrec : D.record L (i, e) =
      { L with held := L.held.erase (r, i), returned := ⟨r, i, i⟩ :: L.returned } := by
    simp [record, ha, hrel, hfind]
  have hnodup : L.held.Nodup := List.Nodup.of_map _ h.distinct
  rw [hrec]
  refine ⟨h.no_stray, ?_, h.distinct.sublist (List.erase_sublist.map _), fun j r' ↦ ?_,
    fun j ↦ ?_⟩
  · rintro x hx
    rcases List.mem_cons.1 hx with rfl | hx
    · rfl
    · exact h.own x hx
  · rw [hnodup.mem_erase_iff, h.held_iff]
    by_cases hj : j = i
    · subst hj
      rw [Function.update_self, (h.nodup j).mem_erase_iff]
      simp
    · simp [hj]
  · by_cases hj : j = i
    · subst hj
      simpa using (h.nodup j).erase r
    · simpa [hj] using h.nodup j

theorem Agrees.neither (h : Agrees L s) (ha : D.acquires e = none)
    (hrel : D.releases e.call = none) :
    Agrees (D.record L (i, e)) (Function.update s i (D.next (s i) e)) := by
  rw [next_of_neither D ha hrel, Function.update_eq_self]
  simpa [record, ha, hrel] using h

/-- **One event** keeps the agreement. -/
theorem Agrees.step (h : Agrees L s) (hpre : ∀ r, D.releases e.call = some r → r ∈ s i)
    (hfresh : ∀ r ∈ D.acquires e, r ∉ L.held.map Prod.fst) :
    Agrees (D.record L (i, e)) (Function.update s i (D.next (s i) e)) := by
  rcases ha : D.acquires e with - | r
  · rcases hrel : D.releases e.call with - | r
    · exact h.neither ha hrel
    · exact h.release ha hrel (hpre r hrel)
  · exact h.acquire ha (hfresh r ha)

end Discipline

variable {ι : Type y} [DecidableEq ι] {C : Type u} {A : C → Type v} {R : Type x} [DecidableEq R]
  {D : Discipline C A R} {α : Type w} {p q : ι → Program C A α} {t : List (ι × Event C A)}

/-- **The ledger is made of the programs' own accounts.** What an interleaved history has handed
out to a program is what the program holds by its own account, and the rest of the program is safe
from there. -/
theorem Interleaved.agrees {trusted : Event C A → Prop} {Q : α → List R → Prop}
    (hp : ∀ i, Safe (D.monitor (D.TrustedFresh trusted)) Q [] (p i)) (h : Interleaved p t q)
    (hfresh : Throughout D.Fresh t) (htrusted : ∀ e ∈ t, trusted e.2) :
    Discipline.Agrees (D.ledger t) (fun i ↦ D.holding (Interaction.own i t)) ∧
      ∀ i, Safe (D.monitor (D.TrustedFresh trusted)) Q (D.holding (Interaction.own i t)) (q i) := by
  have hG : Throughout (fun u e ↦ trusted e.2 ∧ D.Fresh u e) t :=
    fun u e v hu ↦ ⟨htrusted e (by rw [hu]; simp), hfresh u e v hu⟩
  let I : List (ι × Event C A) → (ι → List R) → Prop := fun t s ↦
    Discipline.Agrees (D.ledger t) s ∧ s = fun i ↦ D.holding (Interaction.own i t)
  have hI : ∃ s, I t s ∧ ∀ i, Safe (D.monitor (D.TrustedFresh trusted)) Q (s i) (q i) := by
    refine h.invariant hp ⟨Discipline.agrees_nil, rfl⟩ ?_ hG
    rintro t s i e ⟨hagree, hs⟩ hpre ⟨htr, hfr⟩
    refine ⟨⟨htr, fun r hr hmem ↦
      hfr r hr (List.mem_map_of_mem ((hagree.held_iff i r).2 hmem))⟩, ?_, ?_⟩
    · rw [D.ledger_snoc]
      exact hagree.step hpre.1 hfr
    · funext j
      rw [own_snoc]
      by_cases hj : i = j
      · subst hj
        rw [Function.update_self, if_pos rfl, D.holding_snoc, hs]
        rfl
      · rw [Function.update_of_ne (Ne.symm hj), if_neg hj, List.append_nil, hs]
  obtain ⟨s, ⟨hagree, rfl⟩, hsafe⟩ := hI
  exact ⟨hagree, hsafe⟩

/-- **A call of an interleaved history** gives back and passes on only what its program holds. -/
theorem Interleaved.permitted {trusted : Event C A → Prop} {Q : α → List R → Prop}
    (hp : ∀ i, Safe (D.monitor (D.TrustedFresh trusted)) Q [] (p i)) (h : Interleaved p t q)
    (hfresh : Throughout D.Fresh t) (htrusted : ∀ e ∈ t, trusted e.2) :
    Throughout
      (fun u e ↦ (D.monitor (D.TrustedFresh trusted)).pre (D.holding (Interaction.own e.1 u))
        e.2.call) t := by
  rintro u e v rfl
  obtain ⟨q', k, hu, hq'⟩ := h.split
  have hsafe := (hu.agrees hp (throughout_append_iff.1 hfresh).1 fun d hd ↦
    htrusted d (List.mem_append_left _ hd)).2 e.1
  rw [hq'] at hsafe
  exact hsafe.1

/-- **Ownership is thread-modular.** Programs that are disciplined alone are disciplined
together. -/
theorem Interleaved.owned {trusted : Event C A → Prop}
    (hp : ∀ i, Safe (D.monitor (D.TrustedFresh trusted)) (fun _ s ↦ s = []) [] (p i))
    (h : Interleaved p t q) (hfresh : Throughout D.Fresh t) (htrusted : ∀ e ∈ t, trusted e.2) :
    D.Owned t q := by
  obtain ⟨hagree, hsafe⟩ := h.agrees hp hfresh htrusted
  refine ⟨hagree.no_stray, hagree.own, fun i a hi r hr ↦ ?_, ?_⟩
  · have hnil : D.holding (Interaction.own i t) = [] := by simpa [hi] using hsafe i
    simpa [hnil] using (hagree.held_iff i r).1 hr
  · rintro u e v rfl r hr
    have hu : Interleaved p u _ := h.split.choose_spec.choose_spec.1
    have hagree := (hu.agrees hp (throughout_append_iff.1 hfresh).1 fun d hd ↦
      htrusted d (List.mem_append_left _ hd)).1
    exact (hagree.held_iff e.1 r).2 ((h.permitted hp hfresh htrusted u e v rfl).2 r hr)

end Interaction
