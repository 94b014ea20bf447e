import XenvmHal.Interaction.Monitor

/-!
# Serving demands in order

A program that is driven by its environment: some events bring **inputs**, an input demands a list
of **outputs**, and some calls make one. The program serves its inputs in order if the outputs it
makes are those demanded, one after the other. `Owes ds t` says that `ds` is still to be made after
`t`.

Two things are asked of the calls (`Permits`). An output may be made only if it is the next one that
is owed, so what has been made is at any moment the first part of what was demanded: nothing is made
twice, out of order or unasked (`outputs_on_schedule`). And at some calls the program `rests`: there
it may owe nothing, so nothing is lost.

`Owes` moves by three rules, for an output, for an event that brings inputs and for a call that has
to do with neither (`Idle`).
-/

namespace Interaction

open Program

universe u v w x y

/-- What is demanded of a program and what it makes. -/
structure Demands (C : Type u) (A : C → Type v) (I : Type x) (O : Type y) where
  /-- The inputs that an event brings. -/
  input : Event C A → List I
  /-- The outputs that an input demands. -/
  demand : I → List O
  /-- The output that a call makes. -/
  output : C → Option O
  /-- The calls at which nothing may be owed. -/
  rests : C → Prop

namespace Demands

variable {C : Type u} {A : C → Type v} {I : Type x} {O : Type y} (D : Demands C A I O)

/-- The inputs of a trace. -/
def inputs (t : List (Event C A)) : List I :=
  t.flatMap D.input

/-- What the inputs of a trace demand. -/
def demanded (t : List (Event C A)) : List O :=
  (D.inputs t).flatMap D.demand

/-- The outputs made along a trace. -/
def outputs (t : List (Event C A)) : List O :=
  t.filterMap fun e ↦ D.output e.call

/-- The outputs `ds` are still to be made after `t`. -/
def Owes (ds : List O) (t : List (Event C A)) : Prop :=
  D.outputs t ++ ds = D.demanded t

/-- **A call in its turn**, after `t`. -/
structure Permits (t : List (Event C A)) (c : C) : Prop where
  /-- An output is the next one owed. -/
  output : ∀ o, D.output c = some o → ∃ ds, D.Owes (o :: ds) t
  /-- Nothing is owed at rest. -/
  rests : D.rests c → D.Owes [] t

/-- A call that has nothing to do with what is owed. -/
structure Idle (c : C) : Prop where
  output : D.output c = none
  input : ∀ a, D.input ⟨c, a⟩ = []
  rests : ¬D.rests c

variable {D} {c : C} {a : A c} {o : O} {ds : List O} {t : List (Event C A)}

/-! ### What is owed -/

theorem outputs_snoc (t : List (Event C A)) (e : Event C A) :
    D.outputs (t ++ [e]) = D.outputs t ++ (D.output e.call).toList := by
  cases h : D.output e.call <;> simp [outputs, h]

theorem demanded_snoc (t : List (Event C A)) (e : Event C A) :
    D.demanded (t ++ [e]) = D.demanded t ++ (D.input e).flatMap D.demand := by
  simp [demanded, inputs]

/-- At the start nothing is owed. -/
theorem owes_nil : D.Owes [] [] := rfl

/-- **An output** pays the first part of what is owed. -/
theorem Owes.output (h : D.Owes (o :: ds) t) (ho : D.output c = some o)
    (hinput : D.input ⟨c, a⟩ = []) : D.Owes ds (t ++ [⟨c, a⟩]) := by
  have ho : D.output (Event.call ⟨c, a⟩) = some o := ho
  rw [Owes, outputs_snoc, demanded_snoc, ho, hinput, ← h]
  simp

/-- **Inputs** add what they demand. -/
theorem Owes.input (h : D.Owes ds t) (ho : D.output c = none) :
    D.Owes (ds ++ (D.input ⟨c, a⟩).flatMap D.demand) (t ++ [⟨c, a⟩]) := by
  have ho : D.output (Event.call ⟨c, a⟩) = none := ho
  rw [Owes, outputs_snoc, demanded_snoc, ho, ← h]
  simp

theorem Owes.idle (h : D.Owes ds t) (hc : D.Idle c) : D.Owes ds (t ++ [⟨c, a⟩]) := by
  have howes := h.input (a := a) hc.output
  rwa [hc.input, List.flatMap_nil, List.append_nil] at howes

theorem Idle.permits (hc : D.Idle c) : D.Permits t c where
  output o ho := by
    rw [hc.output] at ho
    cases ho
  rests hrests := absurd hrests hc.rests

theorem Owes.permits (h : D.Owes (o :: ds) t) (ho : D.output c = some o) (hrests : ¬D.rests c) :
    D.Permits t c where
  output o' ho' := by
    obtain rfl := Option.some.inj (ho.symm.trans ho')
    exact ⟨ds, h⟩
  rests hc := absurd hc hrests

/-- At rest anything but an output is permitted. -/
theorem Owes.permits_rest (h : D.Owes [] t) (ho : D.output c = none) : D.Permits t c where
  output o' ho' := by
    rw [ho] at ho'
    cases ho'
  rests _ := h

/-- **Nothing twice, out of order or unasked**: the outputs are the first ones demanded. -/
theorem outputs_on_schedule (h : Throughout (fun u e ↦ D.Permits u e.call) t) :
    D.outputs t <+: D.demanded t := by
  induction t using List.reverseRecOn with
  | nil => exact List.prefix_rfl
  | append_singleton t e ih =>
    obtain ⟨ht, he⟩ := throughout_snoc_iff.1 h
    rw [outputs_snoc, demanded_snoc]
    refine List.IsPrefix.trans ?_ (List.prefix_append _ _)
    cases ho : D.output e.call with
    | none => simpa using ih ht
    | some o =>
      obtain ⟨ds, hds⟩ := he.output o ho
      exact ⟨ds, by rw [← hds]; simp⟩

/-! ### The monitor -/

variable {α : Type w} {P : List (Event C A) → C → Prop} {Q : α → List (Event C A) → Prop}
  {p q : Program C A α} {k : A c → Program C A α}

variable (D P) in
/-- The monitor that permits calls in their turn, and asks `P` of them besides. -/
def monitor : Monitor C A (List (Event C A)) :=
  .history (fun t c ↦ D.Permits t c ∧ P t c) fun _ _ ↦ True

theorem safe_output (h : D.Owes (o :: ds) t) (ho : D.output c = some o) (hrests : ¬D.rests c)
    (hinput : ∀ a, D.input ⟨c, a⟩ = []) (hP : P t c)
    (hk : ∀ a, D.Owes ds (t ++ [⟨c, a⟩]) → Safe (D.monitor P) Q (t ++ [⟨c, a⟩]) (k a)) :
    Safe (D.monitor P) Q t (Program.call c k) :=
  ⟨⟨h.permits ho hrests, hP⟩, fun a _ ↦ hk a (h.output ho (hinput a))⟩

theorem safe_rest (h : D.Owes [] t) (ho : D.output c = none) (hP : P t c)
    (hk : ∀ a, D.Owes ((D.input ⟨c, a⟩).flatMap D.demand) (t ++ [⟨c, a⟩]) →
      Safe (D.monitor P) Q (t ++ [⟨c, a⟩]) (k a)) :
    Safe (D.monitor P) Q t (Program.call c k) :=
  ⟨⟨h.permits_rest ho, hP⟩, fun a _ ↦ hk a (h.input ho)⟩

/-- A program whose calls are idle leaves what is owed alone. -/
theorem safe_of_idle (h : D.Owes ds t) (hp : Only (fun c ↦ D.Idle c ∧ ∀ t, P t c) p) :
    Safe (D.monitor P) (fun _ t' ↦ D.Owes ds t') t p :=
  hp.safe_of_invariant (I := D.Owes ds) (fun _ _ _ hc ↦ ⟨hc.1.permits, hc.2 _⟩)
    (fun _ _ _ ht hc _ ↦ ht.idle hc.1) h

/-- **A program that serves its demands**, along every partial run. -/
theorem serves (h : Safe (D.monitor P) Q [] p) (hr : Steps p t q) :
    D.outputs t <+: D.demanded t ∧
      Throughout (fun u e ↦ D.rests e.call → D.outputs u = D.demanded u) t ∧
        Throughout (fun u e ↦ P u e.call) t := by
  have hpre : Throughout (fun u e ↦ D.Permits u e.call ∧ P u e.call) t := (h.throughout hr).1
  refine ⟨outputs_on_schedule (hpre.mono fun _ _ he ↦ he.1), hpre.mono fun u e he hrests ↦ ?_,
    hpre.mono fun _ _ he ↦ he.2⟩
  have howes : D.outputs u ++ [] = D.demanded u := he.1.rests hrests
  rwa [List.append_nil] at howes

end Demands

end Interaction
