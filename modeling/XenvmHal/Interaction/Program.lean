import Mathlib.Data.List.Basic
import Mathlib.Logic.Basic

/-!
# Programs that call into an environment

A sequential program whose only effects are calls answered by an environment: a device, a
kernel, a client. `Program C A α` is the tree of everything such a program can do. A node
`call c k` makes the call `c` and continues with `k x` on the answer `x : A c`; a leaf `ret a`
is a finished run with value `a`. Branching over the answers is what makes one tree stand for
every behaviour of the environment at once.

Two readings of a tree are provided:

* `Steps p t q`, a **partial run**: `p` makes the calls of the trace `t`, receives the answers
  recorded there, and has `q` left to do. `Runs p t a` is the complete case. Every sequence of
  answers is a trace, so a statement about all traces is a statement about all environments;
* `run H s p`, the run against a **handler**: an environment that answers from a state. It is
  total and computable, which is what fixed scenarios are evaluated with.

Nothing here mentions a particular environment.
-/

namespace Interaction

universe u v w

/-- A call together with the answer the environment gave to it. -/
structure Event (C : Type u) (A : C → Type v) where
  /-- The call. -/
  call : C
  /-- The answer it received. -/
  answer : A call

/-- A sequential program over calls `C` with answers `A`. -/
inductive Program (C : Type u) (A : C → Type v) (α : Type w) : Type (max u v w)
  /-- A finished program. -/
  | ret (a : α)
  /-- Make a call and continue on its answer. -/
  | call (c : C) (k : A c → Program C A α)

namespace Program

variable {C : Type u} {A : C → Type v} {α β γ : Type w}

/-! ### The monad -/

/-- Sequential composition: graft the continuation onto every leaf. -/
protected def bind : Program C A α → (α → Program C A β) → Program C A β
  | ret a, f => f a
  | call c k, f => call c fun x ↦ (k x).bind f

instance : Monad (Program C A) where
  pure := ret
  bind := Program.bind

/-- A single call, returning its answer. -/
def perform {A : C → Type w} (c : C) : Program C A (A c) :=
  call c ret

@[simp] theorem pure_eq (a : α) : (pure a : Program C A α) = ret a := rfl

@[simp] theorem ret_bind (a : α) (f : α → Program C A β) : (ret a : Program C A α) >>= f = f a :=
  rfl

@[simp] theorem call_bind (c : C) (k : A c → Program C A α) (f : α → Program C A β) :
    call c k >>= f = call c fun x ↦ k x >>= f :=
  rfl

@[simp] theorem perform_bind {A : C → Type w} (c : C) (f : A c → Program C A β) :
    perform c >>= f = call c f :=
  rfl

theorem bind_ret (p : Program C A α) : p >>= ret = p := by
  induction p with
  | ret a => rfl
  | call c k ih => exact congrArg (call c) (funext ih)

theorem bind_assoc (p : Program C A α) (f : α → Program C A β) (g : β → Program C A γ) :
    p >>= f >>= g = p >>= fun a ↦ f a >>= g := by
  induction p with
  | ret a => rfl
  | call c k ih => exact congrArg (call c) (funext ih)

instance : LawfulMonad (Program C A) :=
  LawfulMonad.mk' (Program C A) bind_ret (fun _ _ ↦ rfl) bind_assoc

/-! ### Partial and complete runs -/

/-- **A partial run**: `p` has made the calls of the trace and has `q` left to do. -/
inductive Steps : Program C A α → List (Event C A) → Program C A α → Prop
  | refl (p : Program C A α) : Steps p [] p
  | call {c : C} {k : A c → Program C A α} {x : A c} {t : List (Event C A)} {q : Program C A α}
      (h : Steps (k x) t q) : Steps (call c k) (⟨c, x⟩ :: t) q

/-- **A complete run**: the program has finished with value `a`. -/
def Runs (p : Program C A α) (t : List (Event C A)) (a : α) : Prop :=
  Steps p t (ret a)

theorem Steps.trans {p q r : Program C A α} {t u : List (Event C A)} (h₁ : Steps p t q)
    (h₂ : Steps q u r) : Steps p (t ++ u) r := by
  induction h₁ with
  | refl => exact h₂
  | call _ ih => exact (ih h₂).call

/-- One more call at the end of a partial run. -/
theorem Steps.snoc {p : Program C A α} {t : List (Event C A)} {c : C} {k : A c → Program C A α}
    (h : Steps p t (Program.call c k)) (x : A c) : Steps p (t ++ [⟨c, x⟩]) (k x) :=
  h.trans (Steps.call (Steps.refl _))

@[simp] theorem runs_ret_iff {a b : α} {t : List (Event C A)} :
    Runs (ret a : Program C A α) t b ↔ t = [] ∧ a = b := by
  constructor
  · intro h
    cases h
    exact ⟨rfl, rfl⟩
  · rintro ⟨rfl, rfl⟩
    exact Steps.refl _

theorem runs_call_iff {c : C} {k : A c → Program C A α} {t : List (Event C A)} {a : α} :
    Runs (call c k) t a ↔ ∃ (x : A c) (u : List (Event C A)), t = ⟨c, x⟩ :: u ∧ Runs (k x) u a := by
  constructor
  · intro h
    cases h with
    | call h => exact ⟨_, _, rfl, h⟩
  · rintro ⟨x, u, rfl, h⟩
    exact Steps.call h

/-- **Runs of a sequence** are a run of the first part followed by a run of the second. -/
theorem runs_bind_iff {p : Program C A α} {f : α → Program C A β} {t : List (Event C A)} {b : β} :
    Runs (p >>= f) t b ↔
      ∃ (u v : List (Event C A)) (a : α), t = u ++ v ∧ Runs p u a ∧ Runs (f a) v b := by
  induction p generalizing t with
  | ret a =>
    rw [ret_bind]
    constructor
    · intro h
      exact ⟨[], t, a, rfl, Steps.refl _, h⟩
    · rintro ⟨u, v, a', rfl, hu, hv⟩
      obtain ⟨rfl, rfl⟩ := runs_ret_iff.1 hu
      exact hv
  | call c k ih =>
    rw [call_bind, runs_call_iff]
    constructor
    · rintro ⟨x, t', rfl, h⟩
      obtain ⟨u, v, a, rfl, hu, hv⟩ := (ih x).1 h
      exact ⟨⟨c, x⟩ :: u, v, a, rfl, Steps.call hu, hv⟩
    · rintro ⟨u, v, a, rfl, hu, hv⟩
      obtain ⟨x, u', rfl, hu'⟩ := runs_call_iff.1 hu
      exact ⟨x, u' ++ v, rfl, (ih x).2 ⟨u', v, a, rfl, hu', hv⟩⟩

/-- The same, if all the second part does is to return. -/
theorem runs_bind_ret_iff {p : Program C A α} {f : α → β} {t : List (Event C A)} {b : β} :
    Runs (p >>= fun a ↦ ret (f a)) t b ↔ ∃ a, Runs p t a ∧ f a = b := by
  rw [runs_bind_iff]
  constructor
  · rintro ⟨u, v, a, rfl, hu, hv⟩
    obtain ⟨rfl, rfl⟩ := runs_ret_iff.1 hv
    exact ⟨a, (List.append_nil u).symm ▸ hu, rfl⟩
  · rintro ⟨a, ha, rfl⟩
    exact ⟨t, [], a, (List.append_nil t).symm, ha, Steps.refl _⟩

/-! ### Running against a handler -/

/-- An environment that answers from a state. -/
structure Handler (C : Type u) (A : C → Type v) (σ : Type w) where
  /-- The answer to a call. -/
  answer : σ → (c : C) → A c
  /-- The state after the call. -/
  next : σ → C → σ

/-- What a run against a handler produces. -/
structure Outcome (C : Type u) (A : C → Type v) (σ α : Type w) where
  /-- The value of the finished program. -/
  value : α
  /-- The calls made, with their answers. -/
  trace : List (Event C A)
  /-- The handler's state at the end. -/
  state : σ

variable {σ : Type w} (H : Handler C A σ)

/-- Run a program to the end against a handler. -/
def run (s : σ) : Program C A α → Outcome C A σ α
  | ret a => ⟨a, [], s⟩
  | call c k =>
    let o := run (H.next s c) (k (H.answer s c))
    ⟨o.value, ⟨c, H.answer s c⟩ :: o.trace, o.state⟩

@[simp] theorem run_ret (s : σ) (a : α) : run H s (ret a) = ⟨a, [], s⟩ := rfl

theorem run_call (s : σ) (c : C) (k : A c → Program C A α) :
    run H s (call c k) =
      ⟨(run H (H.next s c) (k (H.answer s c))).value,
        ⟨c, H.answer s c⟩ :: (run H (H.next s c) (k (H.answer s c))).trace,
        (run H (H.next s c) (k (H.answer s c))).state⟩ :=
  rfl

/-- **A handled run is a run**: in particular every program can be run to its end. -/
theorem runs_run (s : σ) (p : Program C A α) : Runs p (run H s p).trace (run H s p).value := by
  induction p generalizing s with
  | ret a => exact Steps.refl _
  | call c k ih => exact Steps.call (ih (H.answer s c) (H.next s c))

/-- What a handler answers from every state holds of every event of a run against it. -/
theorem forall_mem_trace {P : Event C A → Prop} (h : ∀ s c, P ⟨c, H.answer s c⟩) (s : σ)
    (p : Program C A α) : ∀ e ∈ (run H s p).trace, P e := by
  induction p generalizing s with
  | ret a => nofun
  | call c k ih =>
    intro e he
    rcases List.mem_cons.1 he with rfl | he
    · exact h s c
    · exact ih _ _ e he

end Program

end Interaction
