import XenvmHal.Interaction.Interleaving

/-!
# Programs over a shared state, section by section

Some programs share a state, which they only touch in **sections** that run without interruption.
A program is then a program over sections: it calls one, gets its result, and continues; what a
section does to the state and to the environment is `proc`.

* `Execution` is a sequence of sections run on the shared state one after the other. Each is
  recorded with the state it found, its result and its own calls (`Executed`).
* `SharedRun` is any number of programs interleaved, section by section, over one execution.
* `inline` runs one program alone. When the programs model methods, this is the method's body.

The two rules are about executions, so they hold of every interleaving: `Execution.invariant`
carries an invariant from section to section, `Execution.refines` carries an abstraction of the
state, whose own transitions may depend on what a section did.
-/

namespace Interaction

open Program

universe u v w x y z

variable {S : Type x} {B : S → Type w} {C : Type u} {A : C → Type v} {σ : Type w}

/-- A section that was run: the state it found, its result and its calls. -/
structure Executed (S : Type x) (B : S → Type w) (C : Type u) (A : C → Type v) (σ : Type w) where
  /-- The shared state before. -/
  before : σ
  /-- The section, with its result. -/
  event : Event S B
  /-- What it called. -/
  trace : List (Event C A)

variable (proc : (x : S) → σ → Program C A (B x × σ))

/-- The record describes a complete run of the section, which leaves the state `s`. -/
def Executed.IsRun (e : Executed S B C A σ) (s : σ) : Prop :=
  Runs (proc e.event.call e.before) e.trace (e.event.answer, s)

/-- **Sections one after the other**, from `s₀`. -/
inductive Execution (s₀ : σ) : List (Executed S B C A σ) → σ → Prop
  | nil : Execution s₀ [] s₀
  | snoc {l : List (Executed S B C A σ)} {e : Executed S B C A σ} {s : σ}
      (h : Execution s₀ l e.before) (he : e.IsRun proc s) : Execution s₀ (l ++ [e]) s

/-- Run one program on the state, without interruption. -/
def inline {α : Type w} : Program S B α → σ → Program C A (α × σ)
  | .ret a, s => .ret (a, s)
  | .call x k, s => proc x s >>= fun r ↦ inline (k r.1) r.2

variable {proc}

namespace Execution

variable {s₀ s : σ} {l l' : List (Executed S B C A σ)} {e : Executed S B C A σ}

theorem snoc_iff :
    Execution proc s₀ (l ++ [e]) s ↔ Execution proc s₀ l e.before ∧ e.IsRun proc s := by
  constructor
  · intro h
    generalize hl : l ++ [e] = m at h
    cases h with
    | nil => exact absurd hl (by simp)
    | snoc h he =>
      obtain ⟨rfl, hlast⟩ := List.append_inj' hl rfl
      obtain rfl := List.singleton_injective hlast
      exact ⟨h, he⟩
  · rintro ⟨h, he⟩
    exact h.snoc he

/-- One section, run alone. -/
theorem single (he : e.IsRun proc s) : Execution proc e.before [e] s :=
  Execution.nil.snoc he

theorem trans {s₁ : σ} (h₁ : Execution proc s₀ l s₁) (h₂ : Execution proc s₁ l' s) :
    Execution proc s₀ (l ++ l') s := by
  induction h₂ with
  | nil => simpa using h₁
  | snoc _ he ih => simpa using ih.snoc he

/-- **What comes before a section** is an execution up to the state the section found, and the
section takes it on. -/
theorem split (h : Execution proc s₀ (l ++ e :: l') s) :
    ∃ s₁, e.IsRun proc s₁ ∧ Execution proc s₀ l e.before ∧ Execution proc s₀ (l ++ [e]) s₁ := by
  induction l' using List.reverseRecOn generalizing s with
  | nil =>
    obtain ⟨hl, he⟩ := snoc_iff.1 h
    exact ⟨s, he, hl, hl.snoc he⟩
  | append_singleton l' d ih =>
    rw [← List.cons_append, ← List.append_assoc] at h
    exact ih (snoc_iff.1 h).1

/-- **The invariant rule.** `G` is what is assumed of each section, given what came before it. -/
theorem invariant {G : List (Executed S B C A σ) → Executed S B C A σ → Prop}
    {I : List (Executed S B C A σ) → σ → Prop} (h₀ : I [] s₀)
    (hstep : ∀ (l : List (Executed S B C A σ)) (e : Executed S B C A σ) (s : σ), I l e.before →
      G l e → e.IsRun proc s → I (l ++ [e]) s)
    (h : Execution proc s₀ l s) (hG : Throughout G l) : I l s := by
  induction h with
  | nil => exact h₀
  | snoc _ he ih =>
    obtain ⟨hG', hlast⟩ := throughout_snoc_iff.1 hG
    exact hstep _ _ _ (ih hG') hlast he

/-- **The refinement rule.** Every section takes the abstract state `f s` where `next` says, and
does what `Agrees` says of the abstract state it starts from. Then so does every execution. -/
theorem refines {τ : Type y} {f : σ → τ} {next : τ → Executed S B C A σ → τ}
    {Agrees : τ → Executed S B C A σ → Prop}
    (hstep : ∀ (e : Executed S B C A σ) (s : σ), e.IsRun proc s →
      f s = next (f e.before) e ∧ Agrees (f e.before) e)
    (h : Execution proc s₀ l s) :
    f s = l.foldl next (f s₀) ∧
      Throughout (fun u e ↦ Agrees (u.foldl next (f s₀)) e) l := by
  induction h with
  | nil => exact ⟨rfl, throughout_nil⟩
  | @snoc l e s _ he ih =>
    obtain ⟨hbefore, hagrees⟩ := ih
    obtain ⟨hs, he⟩ := hstep e s he
    constructor
    · rw [List.foldl_append, ← hbefore]
      exact hs
    · rw [throughout_snoc_iff, ← hbefore]
      exact ⟨hagrees, he⟩

end Execution

/-! ### Programs over sections -/

section Inline

variable {α : Type w} (proc)

@[simp] theorem inline_ret (a : α) (s : σ) : inline proc (.ret a) s = .ret (a, s) := rfl

@[simp] theorem inline_call (x : S) (k : B x → Program S B α) (s : σ) :
    inline proc (.call x k) s = proc x s >>= fun r ↦ inline proc (k r.1) r.2 :=
  rfl

variable {proc}

/-- **A program run alone** is an execution of its sections. -/
theorem execution_of_inline {p : Program S B α} {s s' : σ} {t : List (Event C A)} {a : α}
    (h : Runs (inline proc p s) t (a, s')) :
    ∃ l, Execution proc s l s' ∧ Runs p (l.map Executed.event) a ∧
      t = l.flatMap Executed.trace := by
  induction p generalizing s t with
  | ret b =>
    obtain ⟨rfl, hb⟩ := runs_ret_iff.1 h
    obtain ⟨rfl, rfl⟩ := Prod.mk.inj hb
    exact ⟨[], .nil, Steps.refl _, rfl⟩
  | call x k ih =>
    obtain ⟨u, v, ⟨r, s₁⟩, rfl, hu, hv⟩ := runs_bind_iff.1 h
    obtain ⟨l, hl, hp, rfl⟩ := ih r hv
    have hfirst : Executed.IsRun proc ⟨s, ⟨x, r⟩, u⟩ s₁ := hu
    exact ⟨⟨s, ⟨x, r⟩, u⟩ :: l, (Execution.single hfirst).trans hl, Steps.call hp, rfl⟩

end Inline

variable (proc) in
/-- **Programs interleaved section by section** over one shared state. -/
structure SharedRun {ι : Type z} [DecidableEq ι] {α : Type w} (p : ι → Program S B α) (s₀ : σ)
    (t : List (ι × Executed S B C A σ)) (q : ι → Program S B α) (s : σ) : Prop where
  interleaved : Interleaved p (t.map fun e ↦ (e.1, e.2.event)) q
  execution : Execution proc s₀ (t.map Prod.snd) s

section SharedRun

variable {ι : Type z} [DecidableEq ι] {α : Type w} {p q : ι → Program S B α}
  {t : List (ι × Executed S B C A σ)} {s₀ s : σ}

/-- What one program did, by its own account. -/
def ownSections (i : ι) (t : List (ι × Executed S B C A σ)) : List (Event S B) :=
  own i (t.map fun e ↦ (e.1, e.2.event))

/-- Each program's part is a run of that program. -/
theorem SharedRun.own (h : SharedRun proc p s₀ t q s) (i : ι) :
    Steps (p i) (ownSections i t) (q i) :=
  h.interleaved.own i

/-- A program's section was run at some point. -/
theorem exists_of_mem_ownSections {i : ι} {d : Event S B} (h : d ∈ ownSections i t) :
    ∃ u e v, t = u ++ (i, e) :: v ∧ e.event = d := by
  obtain ⟨⟨j, e⟩, he, heq⟩ := List.mem_map.1 (mem_own_iff.1 h)
  obtain ⟨rfl, rfl⟩ := Prod.mk.inj heq
  obtain ⟨u, v, rfl⟩ := List.append_of_mem he
  exact ⟨u, e, v, rfl, rfl⟩

end SharedRun

end Interaction
