import XenvmHal.Health.Calls

/-!
# The registry refines a list

What `callbacks_` is for: a list of callbacks to which registrations append, from which
unregistrations and death notifications filter, and which a round of notifications goes through
once. `Registry.next` is that list model. It is fed with what happened, since what a round removes
depends on the replies of the clients, and `Registry.Agrees` says which results and calls the list
model allows.

The refinement is between sections: each section takes the registry where the model says
(`Section.proc_refines`), so every interleaving of any number of calls does
(`callbacks_refines_list`). A call has at most one section under the lock, and a call that is
finished has run it (`Call.locks_of_steps`), so each call acts on the list once.
-/

namespace XenvmHal

open Interaction Program

namespace Health

variable {C : Type} [Interfaces C]

/-! ### The list model -/

namespace Registry

/-- The list after a section. -/
def next (callbacks : List C) (e : SectionRun C) : List C :=
  match e.event.call with
  | .push callback => callbacks ++ [callback]
  | .remove callback => callbacks.filter (!interfacesEqual · callback)
  | .notify _ => survivors callbacks e.trace
  | _ => callbacks

/-- What the list model allows a section to return and to call. -/
def Agrees (callbacks : List C) (e : SectionRun C) : Prop :=
  match e.event with
  | ⟨.remove callback, removed⟩ => removed = callbacks.any (interfacesEqual · callback)
  | ⟨.notify info, _⟩ => e.trace.map Event.call = callbacks.map (Sys.healthInfoChanged · info)
  | _ => ∀ d ∈ e.trace, reply d = none

/-- The list after a sequence of sections. -/
abbrev after (callbacks : List C) (l : List (SectionRun C)) : List C :=
  l.foldl next callbacks

end Registry

/-- What `unregisterCallback` returns, by the list model. -/
def unregistered (callbacks : List C) (callback : C) : Result :=
  if callbacks.any (interfacesEqual · callback) then .success else .notFound

/-! ### The refinement -/

variable {config : HealthdConfig} {board : Board}

/-- **Each section does what the list model says.** -/
theorem Section.proc_refines {e : SectionRun C} {s : Healthd C}
    (h : e.IsRun (Section.proc config) s) :
    s.callbacks_ = Registry.next e.before.callbacks_ e ∧ Registry.Agrees e.before.callbacks_ e := by
  obtain ⟨before, ⟨x, r⟩, t⟩ := e
  cases x with
  | push callback =>
    obtain ⟨rfl, hr⟩ := runs_ret_iff.1 h
    obtain ⟨-, rfl⟩ := Prod.mk.inj hr
    exact ⟨rfl, List.forall_mem_nil _⟩
  | remove callback =>
    obtain ⟨hs, hremoved, -⟩ := unregisterCallbackInternal_spec h
    exact ⟨by rw [hs]; rfl, hremoved⟩
  | notify info =>
    obtain ⟨callbacks, hloop, hr⟩ := runs_bind_ret_iff.1 h
    obtain ⟨-, rfl⟩ := Prod.mk.inj hr
    obtain ⟨hcalls, hcallbacks⟩ := notifyLoop_spec hloop
    exact ⟨hcallbacks, hcalls⟩
  | link callback =>
    obtain ⟨x, u, rfl, hu⟩ := runs_call_iff.1 h
    obtain ⟨rfl, hr⟩ := runs_ret_iff.1 hu
    obtain ⟨-, rfl⟩ := Prod.mk.inj hr
    refine ⟨rfl, fun d hd ↦ ?_⟩
    obtain rfl := List.mem_singleton.1 hd
    rfl
  | update =>
    refine ⟨update_callbacks h, fun d hd ↦ ?_⟩
    obtain ⟨fd, interval, hcall⟩ := ((update_only before).steps h).1 d hd
    obtain ⟨c, x⟩ := d
    subst hcall
    rfl
  | currentAverage =>
    obtain ⟨x, u, rfl, hu⟩ := runs_call_iff.1 h
    obtain ⟨rfl, hr⟩ := runs_ret_iff.1 hu
    obtain ⟨-, rfl⟩ := Prod.mk.inj hr
    refine ⟨rfl, fun d hd ↦ ?_⟩
    obtain rfl := List.mem_singleton.1 hd
    rfl

/-- **Any sequence of sections** does what the list model says. -/
theorem registry_refines {s₀ s : Healthd C} {l : List (SectionRun C)}
    (h : Execution (Section.proc config) s₀ l s) :
    s.callbacks_ = Registry.after s₀.callbacks_ l ∧
      Throughout (fun u e ↦ Registry.Agrees (Registry.after s₀.callbacks_ u) e) l :=
  h.refines (f := Healthd.callbacks_) fun _ _ he ↦ Section.proc_refines he

/-- A call with a null callback, or for a reference that has expired. -/
def Call.IsNull : Call C → Prop
  | .registerCallback callback => callback = none
  | .unregisterCallback callback => callback = none
  | .serviceDied who => who = none
  | _ => False

omit [Interfaces C] in
/-- Such a call has no sections. -/
theorem Call.runs_of_isNull {x : Call C} (hx : x.IsNull)
    {t : List (Event (Section C) Section.Answer)}
    {q : Program (Section C) Section.Answer (Option Result)} (h : Steps (x.sections board) t q) :
    t = [] := by
  have hret : ∃ r, x.sections board = ret r := by
    cases x with
    | registerCallback callback | unregisterCallback callback | serviceDied callback =>
      obtain rfl := hx
      exact ⟨_, rfl⟩
    | update | notifyListeners => exact hx.elim
  obtain ⟨r, hr⟩ := hret
  rw [hr] at h
  cases h
  rfl

/-- **What a call does under the lock**: one section, or none for a call on null. The information
that a round sends is made from the one reading of its call. -/
def Call.Locks (board : Board) : Call C → List (Section C) → Prop
  | .registerCallback (some callback), xs => xs = [.push callback]
  | .unregisterCallback (some callback), xs | .serviceDied (some callback), xs =>
    xs = [.remove callback]
  | .notifyListeners, xs => ∃ currentAvg, xs = [.notify (healthInfo board currentAvg)]
  | .registerCallback none, xs | .unregisterCallback none, xs | .serviceDied none, xs
  | .update, xs => xs = []

/-- The sections under the lock. -/
def locked (t : List (Event (Section C) Section.Answer)) : List (Section C) :=
  (t.map Event.call).filter Section.isLocked

omit [Interfaces C] in
/-- **A call locks once**: nothing so far, or its one section, and a finished call has run it. -/
theorem Call.locks_of_steps {x : Call C} {t : List (Event (Section C) Section.Answer)}
    {q : Program (Section C) Section.Answer (Option Result)} (h : Steps (x.sections board) t q) :
    (locked t = [] ∨ x.Locks board (locked t)) ∧
      ∀ result, q = ret result → x.Locks board (locked t) := by
  rcases x with (- | callback) | (- | callback) | (- | who) | - | -
  case registerCallback.some =>
    rcases h with - | (- | (- | (- | -)))
    · exact ⟨.inl rfl, nofun⟩
    · exact ⟨.inr rfl, nofun⟩
    · exact ⟨.inr rfl, nofun⟩
    · exact ⟨.inr rfl, fun _ _ ↦ rfl⟩
  case unregisterCallback.some | serviceDied.some =>
    rcases h with - | (- | -)
    · exact ⟨.inl rfl, nofun⟩
    · exact ⟨.inr rfl, fun _ _ ↦ rfl⟩
  case update =>
    rcases h with - | (- | -)
    · exact ⟨.inl rfl, nofun⟩
    · exact ⟨.inl rfl, fun _ _ ↦ rfl⟩
  case notifyListeners =>
    cases h with
    | refl => exact ⟨.inl rfl, nofun⟩
    | @call _ _ currentAvg _ _ h =>
      rcases h with - | (- | -)
      · exact ⟨.inl rfl, nofun⟩
      · exact ⟨.inr ⟨currentAvg, rfl⟩, fun _ _ ↦ ⟨currentAvg, rfl⟩⟩
  all_goals
    cases h
    exact ⟨.inl rfl, fun _ _ ↦ rfl⟩

/-- **The registry refines a list**, in every interleaving of any number of calls and for all
replies. Each call acts on the list at most once, and a finished one has done it: a registration
has pushed its callback, an unregistration or a death has removed it, a round has notified. A
finished `unregisterCallback` returned what the list model says of the moment its section was run; a
call on null runs no section at all, and unregistering null returned `NOT_FOUND`. -/
theorem callbacks_refines_list {ι : Type} [DecidableEq ι] {calls : ι → Call C} {s₀ s : Healthd C}
    {t : List (ι × SectionRun C)} {q : ι → Program (Section C) Section.Answer (Option Result)}
    (h : SharedRun (Section.proc config) (fun i ↦ (calls i).sections board) s₀ t q s) :
    s.callbacks_ = Registry.after s₀.callbacks_ (t.map Prod.snd) ∧
      Throughout (fun u e ↦ Registry.Agrees (Registry.after s₀.callbacks_ u) e) (t.map Prod.snd) ∧
      (∀ i callback result, calls i = .unregisterCallback (some callback) → q i = ret result →
        ∃ u e v, t = u ++ (i, e) :: v ∧ e.event.call = .remove callback ∧
          result = some (unregistered (Registry.after s₀.callbacks_ (u.map Prod.snd)) callback)) ∧
      (∀ i, (calls i).IsNull → ownSections i t = []) ∧
      (∀ i result, calls i = .unregisterCallback none → q i = ret result →
        result = some .notFound) ∧
      ∀ i, (locked (ownSections i t) = [] ∨ (calls i).Locks board (locked (ownSections i t))) ∧
        ∀ result, q i = ret result → (calls i).Locks board (locked (ownSections i t)) := by
  obtain ⟨hcallbacks, hagrees⟩ := registry_refines h.execution
  refine ⟨hcallbacks, hagrees, fun i callback result hcall hq ↦ ?_, fun i hnull ↦ ?_,
    fun i result hcall hq ↦ ?_, fun i ↦ Call.locks_of_steps (h.own i)⟩
  · have hown := h.own i
    simp only [hcall, hq] at hown
    obtain ⟨removed, v, hv, hret⟩ := runs_call_iff.1 hown
    obtain ⟨rfl, rfl⟩ := runs_ret_iff.1 hret
    obtain ⟨u, ⟨before, _, trace⟩, w, rfl, rfl⟩ := exists_of_mem_ownSections
      (hv ▸ List.mem_singleton_self _ : ⟨.remove callback, removed⟩ ∈ ownSections i t)
    have hremoved : removed =
        (Registry.after s₀.callbacks_ (u.map Prod.snd)).any (interfacesEqual · callback) :=
      hagrees (u.map Prod.snd) ⟨before, ⟨.remove callback, removed⟩, trace⟩ (w.map Prod.snd)
        (by simp)
    exact ⟨u, _, w, rfl, rfl, by rw [unregistered, ← hremoved]⟩
  · exact Call.runs_of_isNull hnull (h.own i)
  · have hown := h.own i
    simp only [hcall, hq] at hown
    exact (runs_ret_iff.1 hown).2.symm

/-- One client registers while another one unregisters. -/
def twoCalls : Bool → Call ℕ
  | true => .registerCallback (some 3)
  | false => .unregisterCallback (some 1)

/-- The removal comes between the push and the link. Adjacent entries and one further on are
removed, and two stay. -/
def twoSections : List (Bool × SectionRun ℕ) :=
  [(true, ⟨.started [1, 1, 2, 1], ⟨.push 3, ()⟩, []⟩),
    (false, ⟨.started [1, 1, 2, 1, 3], ⟨.remove 1, true⟩, [⟨.unlinkToDeath 1, .ok true⟩]⟩),
    (true, ⟨.started [2, 3], ⟨.link 3, ()⟩, [⟨.linkToDeath 3, .ok true⟩]⟩),
    (true, ⟨.started [2, 3], ⟨.update, .success⟩, []⟩)]

theorem twoSections_execution :
    Execution (Section.proc .default) (.started [1, 1, 2, 1]) (twoSections.map Prod.snd)
      (.started [2, 3]) := by
  have hpush : Executed.IsRun (Section.proc .default)
      ⟨.started [1, 1, 2, 1], ⟨.push 3, ()⟩, []⟩ (.started [1, 1, 2, 1, 3]) := Steps.refl _
  have hremove : Executed.IsRun (Section.proc .default)
      ⟨.started [1, 1, 2, 1, 3], ⟨.remove 1, true⟩, [⟨.unlinkToDeath 1, .ok true⟩]⟩
      (.started [2, 3]) := by
    show Runs (unregisterCallbackInternal (.started [1, 1, 2, 1, 3]) (some 1)) _ _
    rw [unregisterCallbackInternal_eq]
    exact Steps.call (Steps.refl _)
  have hlink : Executed.IsRun (Section.proc .default)
      ⟨.started [2, 3], ⟨.link 3, ()⟩, [⟨.linkToDeath 3, .ok true⟩]⟩ (.started [2, 3]) :=
    Steps.call (Steps.refl _)
  have hupdate : Executed.IsRun (Section.proc .default)
      ⟨.started [2, 3], ⟨.update, .success⟩, []⟩ (.started [2, 3]) := Steps.refl _
  exact (((Execution.nil.snoc hpush).snoc hremove).snoc hlink).snoc hupdate

/-- Both calls are finished. -/
theorem twoSections_interleaved :
    ∃ q, Interleaved (fun i ↦ (twoCalls i).sections .service)
        (twoSections.map fun e ↦ (e.1, e.2.event)) q ∧
      ∀ i, q i = ret (some .success) := by
  have h := (Interleaved.nil (p := fun i ↦ (twoCalls i).sections .service)).snoc
    (i := true) (c := .push 3) rfl ()
  have h := h.snoc (i := false) (c := .remove 1) rfl true
  have h := h.snoc (i := true) (c := .link 3) rfl ()
  have h := h.snoc (i := true) (c := .update) rfl Result.success
  refine ⟨_, h, fun i ↦ ?_⟩
  cases i <;> rfl

theorem callbacks_refines_list_two :
    [2, 3] = Registry.after [1, 1, 2, 1] (twoSections.map Prod.snd) ∧
      Throughout (fun u e ↦ Registry.Agrees (Registry.after [1, 1, 2, 1] u) e)
        (twoSections.map Prod.snd) ∧
      (∃ u e v, twoSections = u ++ (false, e) :: v ∧ e.event.call = .remove 1 ∧
        some .success =
          some (unregistered (Registry.after [1, 1, 2, 1] (u.map Prod.snd)) 1)) ∧
      locked (ownSections true twoSections) = [.push 3] := by
  obtain ⟨q, hinterleaved, hq⟩ := twoSections_interleaved
  obtain ⟨hcallbacks, hagrees, hreturned, -, -, hlocks⟩ :=
    callbacks_refines_list ⟨hinterleaved, twoSections_execution⟩
  exact ⟨hcallbacks, hagrees, hreturned false 1 _ rfl (hq false), (hlocks true).2 _ (hq true)⟩

end Health

end XenvmHal
