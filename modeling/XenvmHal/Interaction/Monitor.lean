import XenvmHal.Interaction.Program
import Mathlib.Data.List.Induction

/-!
# Monitors: pre- and postconditions for interacting programs

A **monitor** watches the calls of a program from a ghost state. It says which calls may be made
in a state (`pre`), which answers are assumed of the environment (`assume`), and how the state
moves on an event (`next`). `Safe M Q s p` is the weakest precondition of `p` over such a
monitor: from ghost state `s` every call of `p` is permitted, whatever the assumed answers are,
and a finished run returns a value and a ghost state related by `Q`.

`Safe` is defined on the program tree, not on runs, so its rules (`safe_ret`, `safe_call`,
`safe_bind`, `Safe.mono`) follow the program text. `Safe.steps` is the one place where it meets a
run: along any partial run whose answers are as assumed, every call was permitted and what is
left of the program is again safe.

`Throughout P t` is the matching vocabulary for traces: `P` holds of each event of `t` together
with the history before it.
-/

namespace Interaction

universe u v w x y

/-! ### Properties of an event and its history -/

section Throughout

variable {ε : Type u} {P Q : List ε → ε → Prop} {t : List ε} {e : ε}

/-- `P` holds of every event of the trace, together with the history before that event. -/
def Throughout (P : List ε → ε → Prop) (t : List ε) : Prop :=
  ∀ (u : List ε) (e : ε) (v : List ε), t = u ++ e :: v → P u e

@[simp] theorem throughout_nil : Throughout P [] := by
  intro u e v h
  simp at h

/-- One more event at the end. -/
theorem throughout_snoc_iff : Throughout P (t ++ [e]) ↔ Throughout P t ∧ P t e := by
  constructor
  · intro h
    refine ⟨fun u e' v hu ↦ h u e' (v ++ [e]) (by rw [hu]; simp), h t e [] rfl⟩
  · rintro ⟨ht, he⟩ u e' v huv
    rcases List.eq_nil_or_concat v with rfl | ⟨v', d, rfl⟩
    · obtain ⟨rfl, h⟩ := List.append_inj' huv rfl
      obtain rfl : e = e' := by simpa using h
      exact he
    · have h : t ++ [e] = (u ++ e' :: v') ++ [d] := by simpa using huv
      exact ht u e' v' (List.append_inj' h rfl).1

theorem throughout_append_iff {u : List ε} :
    Throughout P (t ++ u) ↔ Throughout P t ∧ Throughout (fun v e ↦ P (t ++ v) e) u := by
  induction u using List.reverseRecOn with
  | nil => simp
  | append_singleton u e ih =>
    rw [← List.append_assoc, throughout_snoc_iff, ih, throughout_snoc_iff, and_assoc]

/-- The same by position, which makes it decidable. -/
theorem throughout_iff_getElem :
    Throughout P t ↔ ∀ i : Fin t.length, P (t.take i) t[i] := by
  constructor
  · intro h i
    exact h _ _ (t.drop (i + 1)) (by simp)
  · rintro h u e v rfl
    simpa using h ⟨u.length, by simp⟩

instance [∀ u e, Decidable (P u e)] : Decidable (Throughout P t) :=
  decidable_of_iff _ throughout_iff_getElem.symm

theorem Throughout.mono (h : Throughout P t) (hPQ : ∀ u e, P u e → Q u e) : Throughout Q t :=
  fun u e v hu ↦ hPQ u e (h u e v hu)

theorem throughout_const_iff {R : ε → Prop} : Throughout (fun _ e ↦ R e) t ↔ ∀ e ∈ t, R e := by
  constructor
  · intro h e he
    obtain ⟨u, v, rfl⟩ := List.append_of_mem he
    exact h u e v rfl
  · rintro h u e v rfl
    exact h e (by simp)

/-- `Enters` held of some event of the trace, and `Leaves` of none after it. -/
def Since (Enters Leaves : ε → Prop) (t : List ε) : Prop :=
  ∃ u e v, t = u ++ e :: v ∧ Enters e ∧ ∀ d ∈ v, ¬Leaves d

section Since

variable {Enters Leaves : ε → Prop}

@[simp] theorem not_since_nil : ¬Since Enters Leaves ([] : List ε) := by
  rintro ⟨u, e, v, h, -⟩
  simp at h

/-- **One more event** enters, or it does not leave. -/
theorem since_snoc_iff :
    Since Enters Leaves (t ++ [e]) ↔ Enters e ∨ (Since Enters Leaves t ∧ ¬Leaves e) := by
  constructor
  · rintro ⟨u, d, v, huv, hd, hv⟩
    rcases List.eq_nil_or_concat' v with rfl | ⟨v, c, rfl⟩
    · obtain ⟨-, h⟩ := List.append_inj' huv rfl
      obtain rfl : e = d := by simpa using h
      exact Or.inl hd
    · rw [List.forall_mem_append, List.forall_mem_singleton] at hv
      have h : t ++ [e] = (u ++ d :: v) ++ [c] := by simpa using huv
      obtain ⟨rfl, hlast⟩ := List.append_inj' h rfl
      obtain rfl : e = c := by simpa using hlast
      exact Or.inr ⟨⟨u, d, v, rfl, hd, hv.1⟩, hv.2⟩
  · rintro (he | ⟨⟨u, d, v, rfl, hd, hv⟩, he⟩)
    · exact ⟨t, e, [], rfl, he, List.forall_mem_nil _⟩
    · refine ⟨u, d, v ++ [e], by simp, hd, ?_⟩
      rw [List.forall_mem_append, List.forall_mem_singleton]
      exact ⟨hv, he⟩

end Since

/-- The first value that `f` takes on an event and its history. -/
def firstSome {β : Type v} (f : List ε → ε → Option β) (t : List ε) : Option β :=
  (t.foldl (fun s e ↦ (s.1 ++ [e], s.2.or (f s.1 e))) ([], none)).2

section FirstSome

variable {β : Type v} {f : List ε → ε → Option β}

@[simp] theorem firstSome_nil : firstSome f [] = none := rfl

@[simp] theorem firstSome_snoc : firstSome f (t ++ [e]) = (firstSome f t).or (f t e) := by
  have hfst : ∀ t : List ε,
      (t.foldl (fun (s : List ε × Option β) e ↦ (s.1 ++ [e], s.2.or (f s.1 e)))
        ([], none)).1 = t := by
    intro t
    induction t using List.reverseRecOn with
    | nil => rfl
    | append_singleton t e ih => simp [ih]
  simp [firstSome, hfst]

end FirstSome

end Throughout

/-! ### Monitors -/

/-- A monitor over calls `C` with answers `A`, with ghost state `σ`. -/
structure Monitor (C : Type u) (A : C → Type v) (σ : Type x) where
  /-- The calls permitted in a state. -/
  pre : σ → C → Prop
  /-- The answers assumed of the environment. -/
  assume : σ → Event C A → Prop
  /-- The ghost state after an event. -/
  next : σ → Event C A → σ

namespace Monitor

variable {C : Type u} {A : C → Type v} {σ : Type x} (M : Monitor C A σ)

/-- The ghost state after a trace. -/
def after (s : σ) (t : List (Event C A)) : σ :=
  t.foldl M.next s

/-- Every call of the trace was permitted when it was made. -/
def Accepts : σ → List (Event C A) → Prop
  | _, [] => True
  | s, e :: t => M.pre s e.call ∧ Accepts (M.next s e) t

/-- Every answer of the trace was as assumed. -/
def Assumes : σ → List (Event C A) → Prop
  | _, [] => True
  | s, e :: t => M.assume s e ∧ Assumes (M.next s e) t

variable {s : σ} {e : Event C A} {t u : List (Event C A)}

@[simp] theorem after_nil : M.after s [] = s := rfl

@[simp] theorem after_cons : M.after s (e :: t) = M.after (M.next s e) t := rfl

@[simp] theorem accepts_nil : M.Accepts s [] := trivial

@[simp] theorem accepts_cons : M.Accepts s (e :: t) ↔ M.pre s e.call ∧ M.Accepts (M.next s e) t :=
  Iff.rfl

theorem accepts_append : M.Accepts s (t ++ u) ↔ M.Accepts s t ∧ M.Accepts (M.after s t) u := by
  induction t generalizing s with
  | nil => simp
  | cons e t ih => simp [ih, and_assoc]

@[simp] theorem assumes_nil : M.Assumes s [] := trivial

@[simp] theorem assumes_cons :
    M.Assumes s (e :: t) ↔ M.assume s e ∧ M.Assumes (M.next s e) t :=
  Iff.rfl

theorem assumes_append : M.Assumes s (t ++ u) ↔ M.Assumes s t ∧ M.Assumes (M.after s t) u := by
  induction t generalizing s with
  | nil => simp
  | cons e t ih => simp [ih, and_assoc]

/-- Acceptance, event by event. -/
theorem accepts_iff_throughout :
    M.Accepts s t ↔ Throughout (fun u e ↦ M.pre (M.after s u) e.call) t := by
  induction t using List.reverseRecOn with
  | nil => simp
  | append_singleton t e ih => simp [accepts_append, throughout_snoc_iff, ih]

theorem assumes_iff_throughout :
    M.Assumes s t ↔ Throughout (fun u e ↦ M.assume (M.after s u) e) t := by
  induction t using List.reverseRecOn with
  | nil => simp
  | append_singleton t e ih => simp [assumes_append, throughout_snoc_iff, ih]

/-- A monitor that assumes the same of every state assumes it of every event. -/
theorem assumes_of_forall (h : ∀ s, ∀ e ∈ t, M.assume s e) : M.Assumes s t := by
  induction t generalizing s with
  | nil => trivial
  | cons e t ih =>
    exact ⟨h s e List.mem_cons_self, ih fun s' e' he ↦ h s' e' (List.mem_cons_of_mem _ he)⟩

/-- The monitor that remembers every event. -/
def history (pre : List (Event C A) → C → Prop) (assume : List (Event C A) → Event C A → Prop) :
    Monitor C A (List (Event C A)) where
  pre := pre
  assume := assume
  next s e := s ++ [e]

theorem history_after {pre : List (Event C A) → C → Prop}
    {assume : List (Event C A) → Event C A → Prop} {u : List (Event C A)} :
    (history pre assume).after u t = u ++ t := by
  induction t generalizing u with
  | nil => simp
  | cons e t ih =>
    rw [after_cons, ih]
    simp [history]

end Monitor

/-! ### Safe programs -/

namespace Program

variable {C : Type u} {A : C → Type v} {σ : Type x} {M : Monitor C A σ} {α β : Type w}
  {Q R : α → σ → Prop} {s : σ}

/-- **Weakest precondition** of a program over a monitor. -/
def Safe (M : Monitor C A σ) (Q : α → σ → Prop) : σ → Program C A α → Prop
  | s, ret a => Q a s
  | s, call c k => M.pre s c ∧ ∀ x, M.assume s ⟨c, x⟩ → Safe M Q (M.next s ⟨c, x⟩) (k x)

@[simp] theorem safe_ret {a : α} : Safe M Q s (ret a) ↔ Q a s := Iff.rfl

@[simp] theorem safe_call {c : C} {k : A c → Program C A α} :
    Safe M Q s (call c k) ↔
      M.pre s c ∧ ∀ x, M.assume s ⟨c, x⟩ → Safe M Q (M.next s ⟨c, x⟩) (k x) :=
  Iff.rfl

/-- The rule of consequence. -/
theorem Safe.mono {p : Program C A α} (h : Safe M Q s p) (hQR : ∀ a s, Q a s → R a s) :
    Safe M R s p := by
  induction p generalizing s with
  | ret a => exact hQR a s h
  | call c k ih => exact ⟨h.1, fun x hx ↦ ih x (h.2 x hx)⟩

/-- **The rule of abstraction**: a program that is safe is safe for a monitor that forgets some of
the ghost state, permits as much and assumes more. -/
theorem Safe.map {τ : Type y} {M' : Monitor C A τ} {f : σ → τ} {p : Program C A α}
    (h : Safe M Q s p) (hpre : ∀ s c, M.pre s c → M'.pre (f s) c)
    (hassume : ∀ s e, M'.assume (f s) e → M.assume s e)
    (hnext : ∀ s e, M'.next (f s) e = f (M.next s e)) :
    Safe M' (fun a s' ↦ ∃ s, f s = s' ∧ Q a s) (f s) p := by
  induction p generalizing s with
  | ret a => exact ⟨s, rfl, h⟩
  | call c k ih =>
    refine ⟨hpre s c h.1, fun x hx ↦ ?_⟩
    rw [hnext]
    exact ih x (h.2 x (hassume s _ hx))

/-- **The rule of refinement**: a program that is safe is safe for a monitor that keeps more in its
ghost state, permits as much and assumes more. -/
theorem Safe.comap {τ : Type y} {M' : Monitor C A τ} {f : τ → σ} {s : τ} {p : Program C A α}
    (h : Safe M Q (f s) p) (hpre : ∀ s c, M.pre (f s) c → M'.pre s c)
    (hassume : ∀ s e, M'.assume s e → M.assume (f s) e)
    (hnext : ∀ s e, f (M'.next s e) = M.next (f s) e) :
    Safe M' (fun a s ↦ Q a (f s)) s p := by
  induction p generalizing s with
  | ret a => exact h
  | call c k ih =>
    refine ⟨hpre s c h.1, fun x hx ↦ ih x ?_⟩
    rw [hnext]
    exact h.2 x (hassume s _ hx)

/-- The same ghost state, with as much permitted and more assumed. -/
theorem Safe.weaken {M' : Monitor C A σ} {p : Program C A α} (h : Safe M Q s p)
    (hpre : ∀ s c, M.pre s c → M'.pre s c) (hassume : ∀ s e, M'.assume s e → M.assume s e)
    (hnext : ∀ s e, M'.next s e = M.next s e) : Safe M' Q s p := by
  refine (h.map (f := fun s ↦ s) hpre hassume hnext).mono ?_
  rintro a _ ⟨s, rfl, hs⟩
  exact hs

/-- **The rule of conjunction**, for monitors with the same ghost state. -/
theorem Safe.and {M' : Monitor C A σ} {p : Program C A α} (h : Safe M Q s p) (h' : Safe M' R s p)
    (hnext : ∀ s e, M'.next s e = M.next s e) :
    Safe ⟨fun s c ↦ M.pre s c ∧ M'.pre s c, fun s e ↦ M.assume s e ∧ M'.assume s e, M.next⟩
      (fun a s ↦ Q a s ∧ R a s) s p := by
  induction p generalizing s with
  | ret a => exact ⟨h, h'⟩
  | call c k ih =>
    refine ⟨⟨h.1, h'.1⟩, fun x hx ↦ ih x (h.2 x hx.1) ?_⟩
    rw [← hnext]
    exact h'.2 x hx.2

/-- **The rule of sequence**: a postcondition of the first part that makes the second part safe. -/
theorem Safe.bind {R : β → σ → Prop} {p : Program C A α} {f : α → Program C A β}
    (h : Safe M Q s p) (hf : ∀ a s, Q a s → Safe M R s (f a)) : Safe M R s (p >>= f) := by
  induction p generalizing s with
  | ret a => exact hf a s h
  | call c k ih => exact ⟨h.1, fun x hx ↦ ih x (h.2 x hx)⟩

/-- What holds of the value of every run may be used as well. -/
theorem Safe.and_of_runs {P : α → Prop} {p : Program C A α} (h : Safe M Q s p)
    (hr : ∀ t a, Runs p t a → P a) : Safe M (fun a s' ↦ Q a s' ∧ P a) s p := by
  induction p generalizing s with
  | ret a => exact ⟨h, hr [] a (Steps.refl _)⟩
  | call c k ih =>
    exact ⟨h.1, fun x hx ↦ ih x (h.2 x hx) fun t a ht ↦ hr (⟨c, x⟩ :: t) a (Steps.call ht)⟩

/-! ### Programs confined to some calls -/

/-- Every call the program can make satisfies `P`. -/
def Only (P : C → Prop) : Program C A α → Prop
  | ret _ => True
  | call c k => P c ∧ ∀ x, Only P (k x)

@[simp] theorem only_call {P : C → Prop} {c : C} {k : A c → Program C A α} :
    Only P (call c k) ↔ P c ∧ ∀ x, Only P (k x) :=
  Iff.rfl

theorem Only.mono {P P' : C → Prop} {p : Program C A α} (h : Only P p) (hP : ∀ c, P c → P' c) :
    Only P' p := by
  induction p with
  | ret a => trivial
  | call c k ih => exact ⟨hP c h.1, fun x ↦ ih x (h.2 x)⟩

theorem Only.bind {P : C → Prop} {p : Program C A α} {f : α → Program C A β} (h : Only P p)
    (hf : ∀ a, Only P (f a)) : Only P (p >>= f) := by
  induction p with
  | ret a => exact hf a
  | call c k ih => exact ⟨h.1, fun x ↦ ih x (h.2 x)⟩

/-- A run makes only such calls. -/
theorem Only.steps {P : C → Prop} {p q : Program C A α} {t : List (Event C A)} (h : Only P p)
    (hr : Steps p t q) : (∀ e ∈ t, P e.call) ∧ Only P q := by
  induction hr with
  | refl => exact ⟨by simp, h⟩
  | call _ ih =>
    obtain ⟨ht, hq⟩ := ih (h.2 _)
    exact ⟨by simpa using ⟨h.1, ht⟩, hq⟩

/-- A program whose calls are all answered can be run to its end. -/
theorem Only.exists_runs {p : Program C A α} (h : Only (fun c ↦ Nonempty (A c)) p) :
    ∃ t a, Runs p t a := by
  induction p with
  | ret a => exact ⟨[], a, Steps.refl _⟩
  | call c k ih =>
    obtain ⟨x⟩ := h.1
    obtain ⟨t, a, hr⟩ := ih x (h.2 x)
    exact ⟨⟨c, x⟩ :: t, a, Steps.call hr⟩

/-- **The invariant rule**: a program confined to calls that are permitted and preserved by an
invariant of the ghost state. -/
theorem Only.safe_of_invariant {P : C → Prop} {I : σ → Prop} {p : Program C A α} (h : Only P p)
    (hpre : ∀ s c, I s → P c → M.pre s c)
    (hnext : ∀ s c x, I s → P c → M.assume s ⟨c, x⟩ → I (M.next s ⟨c, x⟩)) (hs : I s) :
    Safe M (fun _ s' ↦ I s') s p := by
  induction p generalizing s with
  | ret a => exact hs
  | call c k ih =>
    exact ⟨hpre s c hs h.1, fun x hx ↦ ih x (h.2 x) (hnext s c x hs h.1 hx)⟩

/-- **The frame rule**: a program confined to calls that are permitted and leave the ghost state
alone leaves it alone. -/
theorem Only.safe {P : C → Prop} {p : Program C A α} (h : Only P p) (hpre : ∀ c, P c → M.pre s c)
    (hnext : ∀ c x, P c → M.next s ⟨c, x⟩ = s) : Safe M (fun _ s' ↦ s' = s) s p := by
  refine h.safe_of_invariant (fun s' c hs' hc ↦ ?_) (fun s' c x hs' hc _ ↦ ?_) rfl
  · exact hs' ▸ hpre c hc
  · exact hs' ▸ hnext c x hc

/-- A safe program makes only the calls that its monitor permits. -/
theorem Safe.only {P : C → Prop} {p : Program C A α} (h : Safe M Q s p)
    (hpre : ∀ s c, M.pre s c → P c) (hassume : ∀ s e, M.assume s e) : Only P p := by
  induction p generalizing s with
  | ret a => trivial
  | call c k ih => exact ⟨hpre s c h.1, fun x ↦ ih x (h.2 x (hassume s _))⟩

/-! ### Runs of safe programs -/

/-- **A run of a safe program**: every call was permitted and the rest is safe. -/
theorem Safe.steps {p q : Program C A α} {t : List (Event C A)} (h : Safe M Q s p)
    (hr : Steps p t q) (ha : M.Assumes s t) : M.Accepts s t ∧ Safe M Q (M.after s t) q := by
  induction hr generalizing s with
  | refl => exact ⟨trivial, h⟩
  | call _ ih =>
    obtain ⟨hacc, hq⟩ := ih (h.2 _ ha.1) ha.2
    exact ⟨⟨h.1, hacc⟩, hq⟩

/-- A complete run of a safe program ends in its postcondition. -/
theorem Safe.runs {p : Program C A α} {t : List (Event C A)} {a : α} (h : Safe M Q s p)
    (hr : Runs p t a) (ha : M.Assumes s t) : M.Accepts s t ∧ Q a (M.after s t) :=
  h.steps hr ha

/-- **A run of a program that is safe whatever is answered**: each call was permitted after what had
come before it. -/
theorem Safe.throughout {pre : List (Event C A) → C → Prop} {Q : α → List (Event C A) → Prop}
    {p q : Program C A α} {t : List (Event C A)}
    (h : Safe (Monitor.history pre fun _ _ ↦ True) Q [] p) (hr : Steps p t q) :
    Throughout (fun u e ↦ pre u e.call) t ∧ Safe (Monitor.history pre fun _ _ ↦ True) Q t q := by
  obtain ⟨haccepts, hrest⟩ := h.steps hr (Monitor.assumes_of_forall _ fun _ _ _ ↦ trivial)
  rw [Monitor.accepts_iff_throughout] at haccepts
  rw [Monitor.history_after] at hrest
  refine ⟨haccepts.mono fun u e he ↦ ?_, hrest⟩
  rwa [Monitor.history_after] at he

end Program

end Interaction
