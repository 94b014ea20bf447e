import XenvmHal.Health.DeadClients

/-!
# Who is notified

A client that registers wants to be notified from then on, until it unregisters or dies. In terms
of what happened: it is **listening** when its callback was pushed and nothing has dropped it since
(`Listening`), where what drops a callback is the removal of an equal one, or a round of
notifications in which every call on it found a dead object.

`notified_iff_listening` says that this is exactly who is notified, in every interleaving of calls
and for all replies. Nobody who listens is left out of a round, however the rounds and the
registrations overlap, and nobody is called after a removal. The registry is an implementation
detail in this: the statement does not mention it.

A round also clears the registry of dead clients, linked or not (`clean_after_round`). It is the one
thing that does for a client that died before its death was linked to.
-/

namespace XenvmHal

open Interaction Program

namespace Health

variable {C : Type}

/-! ### Listening -/

/-- A call on the callback that did not find it dead. -/
def AliveIn (callback : C) (t : List (SysEvent C)) : Prop :=
  ∃ info result, ⟨.healthInfoChanged callback info, result⟩ ∈ t ∧ Return.isDeadObject result = false

/-- The section pushes the callback. -/
def Pushes (callback : C) (e : SectionRun C) : Prop :=
  e.event.call = .push callback

variable [Interfaces C]

/-- The section drops the callback. -/
def Drops (callback : C) (e : SectionRun C) : Prop :=
  match e.event.call with
  | .remove other => interfacesEqual callback other = true
  | .notify _ => ¬AliveIn callback e.trace
  | _ => False

/-- **Listening**: pushed, and not dropped since. -/
def Listening (callback : C) (l : List (SectionRun C)) : Prop :=
  Since (Pushes callback) (Drops callback) l

/-! ### Listening and the registry -/

section Registry

variable {callback : C} {callbacks : List C} {t : List (SysEvent C)} {l : List (SectionRun C)}

omit [Interfaces C] in
/-- The survivors of a round are the callbacks that a call found alive. -/
theorem mem_survivors_iff {info : HealthInfo}
    (h : t.map Event.call = callbacks.map (Sys.healthInfoChanged · info)) :
    callback ∈ survivors callbacks t ↔ AliveIn callback t := by
  induction callbacks generalizing t with
  | nil =>
    obtain rfl := List.map_eq_nil_iff.1 h
    exact iff_of_false List.not_mem_nil fun ⟨_, _, hmem, _⟩ ↦ List.not_mem_nil hmem
  | cons c callbacks ih =>
    obtain ⟨⟨call, result⟩, t, rfl, hcall, ht⟩ := List.map_eq_cons_iff.1 h
    dsimp only at hcall
    subst hcall
    have hcons : AliveIn callback (⟨.healthInfoChanged c info, result⟩ :: t) ↔
        (callback = c ∧ Return.isDeadObject result = false) ∨ AliveIn callback t := by
      constructor
      · rintro ⟨info', result', hmem, halive⟩
        rcases List.mem_cons.1 hmem with heq | hmem
        · cases heq
          exact Or.inl ⟨rfl, halive⟩
        · exact Or.inr ⟨info', result', hmem, halive⟩
      · rintro (⟨rfl, halive⟩ | ⟨info', result', hmem, halive⟩)
        · exact ⟨info, result, List.mem_cons_self, halive⟩
        · exact ⟨info', result', List.mem_cons_of_mem _ hmem, halive⟩
    rw [survivors_cons, hcons, ← ih ht]
    cases hdead : Return.isDeadObject result <;> simp

/-- **One section** pushes a callback, or keeps what it does not drop. -/
theorem mem_next_iff {e : SectionRun C} (h : Registry.Agrees callbacks e) :
    callback ∈ Registry.next callbacks e ↔
      Pushes callback e ∨ (callback ∈ callbacks ∧ ¬Drops callback e) := by
  obtain ⟨before, ⟨x, r⟩, t⟩ := e
  cases x with
  | push other =>
    have hpush : Pushes callback ⟨before, ⟨.push other, r⟩, t⟩ ↔ callback = other :=
      ⟨fun h ↦ (Section.push.inj h).symm, fun h ↦ h ▸ rfl⟩
    rw [hpush, or_comm]
    simp [Registry.next, Drops]
  | remove other => simp [Registry.next, Drops, Pushes]
  | notify info =>
    have hcalls : t.map Event.call = callbacks.map (Sys.healthInfoChanged · info) := h
    have hnext : callback ∈ Registry.next callbacks ⟨before, ⟨.notify info, r⟩, t⟩ ↔
        AliveIn callback t := mem_survivors_iff hcalls
    have hmem : callback ∈ survivors callbacks t → callback ∈ callbacks := mem_of_mem_survivors
    rw [hnext]
    simpa [Drops, Pushes, ← mem_survivors_iff hcalls] using hmem
  | link other => simp [Registry.next, Drops, Pushes]
  | update => simp [Registry.next, Drops, Pushes]
  | currentAverage => simp [Registry.next, Drops, Pushes]

/-- **The registry is the list of who listens**, from a registry that starts empty. -/
theorem mem_after_iff_listening
    (h : Throughout (fun u e ↦ Registry.Agrees (Registry.after [] u) e) l) :
    callback ∈ Registry.after [] l ↔ Listening callback l := by
  induction l using List.reverseRecOn with
  | nil => simp [Listening]
  | append_singleton l e ih =>
    obtain ⟨hl, he⟩ := throughout_snoc_iff.1 h
    rw [Listening, since_snoc_iff, ← Listening, ← ih hl, ← mem_next_iff he, Registry.after,
      List.foldl_append]
    rfl

end Registry

/-! ### Rounds of notifications -/

variable {config : HealthdConfig} {board : Board}

omit [Interfaces C] in
/-- The locked sections of a call are on the callback that the call names. -/
theorem Call.sections_only (x : Call C) :
    Only (fun y ↦ (∀ callback, y = .push callback → x = .registerCallback (some callback)) ∧
        ∀ callback, y = .remove callback →
          x = .unregisterCallback (some callback) ∨ x = .serviceDied (some callback))
      (x.sections board) := by
  cases x with
  | registerCallback callback =>
    cases callback with
    | none => trivial
    | some callback =>
      exact ⟨⟨by rintro _ ⟨⟩; rfl, by rintro _ ⟨⟩⟩,
        fun _ ↦ ⟨⟨by rintro _ ⟨⟩, by rintro _ ⟨⟩⟩,
          fun _ ↦ ⟨⟨by rintro _ ⟨⟩, by rintro _ ⟨⟩⟩, fun _ ↦ trivial⟩⟩⟩
  | unregisterCallback callback =>
    cases callback with
    | none => trivial
    | some callback =>
      exact ⟨⟨by rintro _ ⟨⟩, by rintro _ ⟨⟩; exact Or.inl rfl⟩, fun _ ↦ trivial⟩
  | serviceDied who =>
    cases who with
    | none => trivial
    | some callback =>
      exact ⟨⟨by rintro _ ⟨⟩, by rintro _ ⟨⟩; exact Or.inr rfl⟩, fun _ ↦ trivial⟩
  | update => exact ⟨⟨by rintro _ ⟨⟩, by rintro _ ⟨⟩⟩, fun _ ↦ trivial⟩
  | notifyListeners =>
    exact ⟨⟨by rintro _ ⟨⟩, by rintro _ ⟨⟩⟩, fun _ ↦ ⟨⟨by rintro _ ⟨⟩, by rintro _ ⟨⟩⟩,
      fun _ ↦ trivial⟩⟩

/-- **Exactly who listens is notified**, in every interleaving of any number of calls and for all
replies: each round of notifications calls a callback if and only if it is listening at that
moment, and a callback is called in no other section. What is pushed is what its own request
registers, and what is removed is what its own request unregisters or reports dead. -/
theorem notified_iff_listening {ι : Type} [DecidableEq ι] {calls : ι → Call C} {s₀ s : Healthd C}
    {t : List (ι × SectionRun C)} {q : ι → Program (Section C) Section.Answer (Option Result)}
    (h : SharedRun (Section.proc config) (fun i ↦ (calls i).sections board) s₀ t q s)
    (hstart : s₀.callbacks_ = []) :
    Throughout
      (fun u e ↦ ∀ callback info,
        (∃ d ∈ e.trace, d.call = .healthInfoChanged callback info) ↔
          e.event.call = .notify info ∧ Listening callback u) (t.map Prod.snd) ∧
      ∀ e ∈ t,
        (∀ callback, e.2.event.call = .push callback →
          calls e.1 = .registerCallback (some callback)) ∧
        ∀ callback, e.2.event.call = .remove callback →
          calls e.1 = .unregisterCallback (some callback) ∨
            calls e.1 = .serviceDied (some callback) := by
  obtain ⟨-, hagrees⟩ := registry_refines h.execution
  rw [hstart] at hagrees
  refine ⟨fun u e v huv callback info ↦ ?_, fun e he ↦ ?_⟩
  swap
  · have hown : e.2.event ∈ ownSections e.1 t := mem_own_iff.2 (List.mem_map_of_mem he)
    exact ((calls e.1).sections_only.steps (h.own e.1)).1 _ hown
  have hl := (throughout_append_iff.1 (huv ▸ hagrees)).1
  have he : Registry.Agrees (Registry.after [] u) e := hagrees u e v huv
  obtain ⟨s₁, hrun, -, -⟩ := Execution.split (huv ▸ h.execution)
  rw [← mem_after_iff_listening hl]
  obtain ⟨before, ⟨x, r⟩, trace⟩ := e
  have hquiet : (∀ d ∈ trace, reply d = none) →
      ¬∃ d ∈ trace, d.call = .healthInfoChanged callback info := by
    rintro hnone ⟨⟨c, y⟩, hd, hcall⟩
    dsimp only at hcall
    subst hcall
    cases hnone _ hd
  cases x with
  | push other => exact iff_of_false (hquiet he) fun h ↦ by cases h.1
  | remove other =>
    obtain ⟨-, -, y, htrace⟩ := unregisterCallbackInternal_spec hrun
    refine iff_of_false (hquiet ?_) fun h ↦ by cases h.1
    rw [show trace = _ from htrace, List.forall_mem_singleton]
    rfl
  | notify sent =>
    have hcalls : trace.map Event.call = (Registry.after [] u).map (Sys.healthInfoChanged · sent) :=
      he
    have hmem : (∃ d ∈ trace, d.call = .healthInfoChanged callback info) ↔
        .healthInfoChanged callback info ∈ trace.map Event.call := List.mem_map.symm
    rw [hmem, hcalls, List.mem_map]
    constructor
    · rintro ⟨other, hother, heq⟩
      obtain ⟨rfl, rfl⟩ := Sys.healthInfoChanged.inj heq
      exact ⟨rfl, hother⟩
    · rintro ⟨heq, hcallback⟩
      obtain rfl := Section.notify.inj heq
      exact ⟨callback, hcallback, rfl⟩
  | link other => exact iff_of_false (hquiet he) fun h ↦ by cases h.1
  | update => exact iff_of_false (hquiet he) fun h ↦ by cases h.1
  | currentAverage => exact iff_of_false (hquiet he) fun h ↦ by cases h.1

/-- A client registers, and then there is a round of notifications. -/
def registerThenNotify : Bool → Call ℕ
  | true => .registerCallback (some 1)
  | false => .notifyListeners

/-- The push of the registration, and the two sections of the round. -/
def registeredRound : List (Bool × SectionRun ℕ) :=
  [(true, ⟨.started [], ⟨.push 1, ()⟩, []⟩),
    (false, ⟨.started [1], ⟨.currentAverage, (5 : Int32)⟩,
      [⟨.getProperty .currentAvg, ((0 : Int32), (5 : Int64))⟩]⟩),
    (false, ⟨.started [1], ⟨.notify (healthInfo .service 5), ()⟩,
      [⟨.healthInfoChanged 1 (healthInfo .service 5), .ok ()⟩]⟩)]

theorem exists_registeredRound :
    ∃ q, SharedRun (Section.proc .default) (fun i ↦ (registerThenNotify i).sections .service)
      (.started []) registeredRound q (.started [1]) := by
  have h := (Interleaved.nil (p := fun i ↦ (registerThenNotify i).sections .service)).snoc
    (i := true) (c := .push 1) rfl ()
  have h := h.snoc (i := false) (c := .currentAverage) rfl (5 : Int32)
  have h := h.snoc (i := false) (c := .notify (healthInfo .service 5)) rfl ()
  have hread : Executed.IsRun (Section.proc .default)
      ⟨.started [1], ⟨.currentAverage, (5 : Int32)⟩,
        [⟨.getProperty .currentAvg, ((0 : Int32), (5 : Int64))⟩]⟩ (.started [1]) :=
    Steps.call (Steps.refl _)
  have hround : Executed.IsRun (Section.proc .default)
      ⟨.started [1], ⟨.notify (healthInfo .service 5), ()⟩,
        [⟨.healthInfoChanged 1 (healthInfo .service 5), .ok ()⟩]⟩ (.started [1]) := by
    show Runs (notifyLoop _ _ 0 >>= _) _ _
    rw [notifyLoop]
    refine Steps.call ?_
    show Steps (notifyLoop _ _ 1 >>= _) _ _
    rw [notifyLoop]
    exact Steps.refl _
  have hpush : Executed.IsRun (Section.proc .default)
      ⟨.started [], ⟨.push 1, ()⟩, []⟩ (.started [1]) := Steps.refl _
  exact ⟨_, h, .snoc (.snoc (.snoc .nil hpush) hread) hround⟩

theorem notified_iff_listening_registered :
    Throughout
      (fun u e ↦ ∀ callback info,
        (∃ d ∈ e.trace, d.call = .healthInfoChanged callback info) ↔
          e.event.call = .notify info ∧ Listening callback u) (registeredRound.map Prod.snd) := by
  obtain ⟨q, h⟩ := exists_registeredRound
  exact (notified_iff_listening h rfl).1

/-! ### Rounds and dead clients -/

section Dead

variable {w₀ w₁ w w' : World C} {u v : List (World C × Happening C)} {x : Happening C}

/-- What comes after a step is a run from the world it led to. -/
theorem WorldRun.split (h : WorldRun config w₀ (u ++ (w₁, x) :: v) w) :
    ∃ w₂, Happens config w₁ x w₂ ∧ WorldRun config w₂ v w := by
  generalize hl : u ++ (w₁, x) :: v = l at h
  induction h generalizing v with
  | nil => exact absurd hl (by simp)
  | @snoc l w w' y h hy ih =>
    rcases List.eq_nil_or_concat' v with rfl | ⟨v, p, rfl⟩
    · obtain ⟨rfl, hlast⟩ := List.append_inj' hl rfl
      obtain ⟨rfl, rfl⟩ := Prod.mk.inj (List.singleton_injective hlast)
      exact ⟨w', hy, .nil⟩
    · have hsplit : (u ++ (w₁, x) :: v) ++ [p] = l ++ [(w, y)] := by simpa using hl
      obtain ⟨hrest, hlast⟩ := List.append_inj' hsplit rfl
      obtain rfl := List.singleton_injective hlast
      obtain ⟨w₂, hx, hv⟩ := ih hrest
      exact ⟨w₂, hx, hv.snoc hy⟩

/-- **A round of notifications** leaves no entry of a client that is dead. -/
theorem World.clean_of_notify {e : SectionRun C} {info : HealthInfo}
    (hx : Happens config w (.ran e) w') (hround : e.event.call = .notify info) : w'.Clean := by
  intro callback hmem hdead
  obtain ⟨before, ⟨y, r⟩, trace⟩ := e
  dsimp only at hround
  subst hround
  cases hx with
  | @ran _ s hbefore he hanswers =>
    obtain ⟨hs, hagrees⟩ := Section.proc_refines he
    -- whoever is left was found alive, and a dead client is not
    have hleft : callback ∈ survivors before.callbacks_ trace := by
      change callback ∈ s.callbacks_ at hmem
      rw [hs] at hmem
      exact hmem
    obtain ⟨info', result, hcall, halive⟩ := (mem_survivors_iff hagrees).1 hleft
    have hresult : result = .deadObject := hanswers _ hcall hdead
    rw [hresult] at halive
    cases halive

/-- **One round clears the registry of dead clients**, in every run: whatever happened before it,
linked or not, there is no entry of a dead client until another one registers or dies. -/
theorem clean_after_round {e : SectionRun C} {info : HealthInfo}
    (h : WorldRun config w₀ (u ++ (w₁, .ran e) :: v) w) (hround : e.event.call = .notify info)
    (hcalm : ∀ p ∈ v, p.2.IsCalm) : w.Clean := by
  obtain ⟨w₂, hx, hv⟩ := h.split
  exact (World.clean_of_notify hx hround).run hv hcalm

end Dead

/-- A round that finds the one client dead, though it was never linked to. -/
def deadRound : SectionRun ℕ :=
  ⟨.started [1], ⟨.notify (healthInfo .service 5), ()⟩,
    [⟨.healthInfoChanged 1 (healthInfo .service 5), .deadObject⟩]⟩

theorem happens_deadRound :
    Happens .default (world [1] [1] [] []) (.ran deadRound) (world [] [1] [] []) := by
  refine .ran rfl ?_ fun d hd ↦ ?_
  · show Runs (notifyLoop _ _ 0 >>= _) _ _
    rw [notifyLoop]
    refine Steps.call ?_
    show Steps (notifyLoop _ _ 0 >>= _) _ _
    rw [notifyLoop]
    exact Steps.refl _
  · obtain rfl := List.mem_singleton.1 hd
    exact fun _ ↦ rfl

theorem clean_after_round_dead : (world [] [1] [] []).Clean :=
  clean_after_round (u := []) (v := []) (.snoc .nil happens_deadRound) rfl (List.forall_mem_nil _)

end Health

end XenvmHal
