import XenvmHal.Interaction.Ownership

/-!
# What the environment keeps for each resource

An environment may keep a value for each resource it has handed out: a configuration, a mapping, a
reference count. `Cells` describes such an environment by its events: the one cell an event changes,
and how. After a trace the cells are `Cells.after`, over the trace as a whole, whoever made the
calls.

`Cells.GuardedBy` ties the cells to a discipline of ownership: only an event that hands the
resource out, or a call that gives it back or passes it on, changes its cell, and handing it out
sets the cell anew. Then programs that respect the discipline do not disturb each other:
`Interleaved.isolated` says that the cell of a resource is what its holder alone has made of it,
however many other programs ran in between. What is proved of the cells along one program's own
calls therefore holds of the environment's actual cells in every interleaving.
-/

namespace Interaction

open Program

universe u v w x y z

/-- An environment with a cell for each resource of type `R`. -/
structure Cells (C : Type u) (A : C → Type v) (R : Type x) (V : Type z) where
  /-- The cell an event changes. -/
  cell : Event C A → Option R
  /-- What it changes the contents to. -/
  change : Event C A → V → V

namespace Cells

variable {C : Type u} {A : C → Type v} {R : Type x} {V : Type z} [DecidableEq R]
  (T : Cells C A R V) {s : R → V} {t : List (Event C A)} {e : Event C A} {r : R}

/-- The cells after one event. -/
def record (s : R → V) (e : Event C A) : R → V :=
  match T.cell e with
  | some r => Function.update s r (T.change e (s r))
  | none => s

/-- The cells after a trace. -/
def after (s : R → V) (t : List (Event C A)) : R → V :=
  t.foldl T.record s

theorem after_snoc (s : R → V) (t : List (Event C A)) (e : Event C A) :
    T.after s (t ++ [e]) = T.record (T.after s t) e := by
  simp [after]

/-- The cell an event is about. -/
theorem record_of_cell (h : T.cell e = some r) : T.record s e r = T.change e (s r) := by
  simp [record, h]

/-- **The frame**: no event changes another cell than its own. -/
theorem record_of_ne (h : T.cell e ≠ some r) : T.record s e r = s r := by
  rcases hcell : T.cell e with - | r'
  · simp [record, hcell]
  · have hne : r ≠ r' := fun heq ↦ h (heq ▸ hcell)
    simp [record, hcell, Function.update_of_ne hne]

/-- **Guarded cells**: only the holder of a resource changes its cell. -/
structure GuardedBy (T : Cells C A R V) (D : Discipline C A R) : Prop where
  /-- A cell changes when its resource is handed out, given back or passed on. -/
  changes : ∀ e r, T.cell e = some r →
    D.acquires e = some r ∨ D.releases e.call = some r ∨ r ∈ D.uses e.call
  /-- A resource that is handed out comes with a cell whose contents do not depend on the past. -/
  resets : ∀ e r, D.acquires e = some r → T.cell e = some r ∧ ∀ v v', T.change e v = T.change e v'

variable {T} {D : Discipline C A R} {trusted : List R → Event C A → Prop} {held : List R}

/-- A permitted call that changes a cell hands the resource out or is made by its holder. -/
theorem GuardedBy.acquires_or_mem (h : T.GuardedBy D) (hpre : (D.monitor trusted).pre held e.call)
    (hcell : T.cell e = some r) : D.acquires e = some r ∨ r ∈ held := by
  rcases h.changes e r hcell with hacquires | hreleases | huses
  · exact .inl hacquires
  · exact .inr (hpre.1 r hreleases)
  · exact .inr (hpre.2 r huses)

/-- A resource held after an event that does not change its cell was held before. -/
theorem GuardedBy.mem_of_next (h : T.GuardedBy D) (hcell : T.cell e ≠ some r)
    (hr : r ∈ D.next held e) : r ∈ held := by
  rcases hacquires : D.acquires e with - | r'
  · rcases hreleases : D.releases e.call with - | r'
    · rwa [D.next_of_neither hacquires hreleases] at hr
    · rw [D.next_of_releases hacquires hreleases] at hr
      exact List.mem_of_mem_erase hr
  · rw [D.next_of_acquires hacquires] at hr
    rcases List.mem_append.1 hr with hr | hr
    · exact hr
    · obtain rfl := List.mem_singleton.1 hr
      exact absurd (h.resets e r hacquires).1 hcell

end Cells

variable {ι : Type y} [DecidableEq ι] {C : Type u} {A : C → Type v} {R : Type x} [DecidableEq R]
  {V : Type z} {T : Cells C A R V} {D : Discipline C A R} {α : Type w} {p q : ι → Program C A α}
  {t : List (ι × Event C A)}

/-- **Isolation.** In an interleaved history of disciplined programs, the cell of a resource is what
its holder, alone, has made of it. -/
theorem Interleaved.isolated {trusted : Event C A → Prop} {Q : α → List R → Prop}
    (hT : T.GuardedBy D) (hp : ∀ i, Safe (D.monitor (D.TrustedFresh trusted)) Q [] (p i))
    (h : Interleaved p t q) (hfresh : Throughout D.Fresh t) (htrusted : ∀ e ∈ t, trusted e.2)
    (s s' : R → V) {i : ι} {r : R} (hr : r ∈ D.holding (Interaction.own i t)) :
    T.after s (t.map Prod.snd) r = T.after s' (Interaction.own i t) r := by
  induction h with
  | nil => cases hr
  | @snoc t q j c k h hq x ih =>
    have hpre := h.snoc hq x |>.permitted hp hfresh htrusted t (j, ⟨c, x⟩) [] rfl
    obtain ⟨hfresh, hnew⟩ := throughout_snoc_iff.1 hfresh
    have htrusted : ∀ e ∈ t, trusted e.2 := fun e he ↦ htrusted e (List.mem_append_left _ he)
    have hagree := (h.agrees hp hfresh htrusted).1
    have ih := ih hfresh htrusted
    rw [List.map_append, List.map_singleton, T.after_snoc]
    rw [own_snoc] at hr ⊢
    by_cases hj : j = i
    · -- an event of the holder changes the cell in both accounts
      subst hj
      rw [if_pos rfl] at hr ⊢
      rw [T.after_snoc]
      rw [D.holding_snoc] at hr
      by_cases hcell : T.cell ⟨c, x⟩ = some r
      · rw [T.record_of_cell hcell, T.record_of_cell hcell]
        rcases hT.acquires_or_mem hpre hcell with hacquires | hheld
        · exact (hT.resets _ r hacquires).2 _ _
        · exact congrArg (T.change ⟨c, x⟩) (ih hheld)
      · rw [T.record_of_ne hcell, T.record_of_ne hcell]
        exact ih (hT.mem_of_next hcell hr)
    · -- an event of another program is about another cell
      rw [if_neg hj, List.append_nil] at hr ⊢
      have hcell : T.cell ⟨c, x⟩ ≠ some r := by
        intro hcell
        have hmem := (hagree.held_iff i r).2 hr
        rcases hT.acquires_or_mem hpre hcell with hacquires | hheld
        · exact hnew r hacquires (List.mem_map_of_mem hmem)
        · exact hj (hagree.owner_unique ((hagree.held_iff j r).2 hheld) hmem)
      rw [T.record_of_ne hcell]
      exact ih hr

end Interaction
