import XenvmHal.Health.Calls

/-!
# Death links

Every registration adds an entry and a death link. An unregistration removes every equal entry
but gives one link back, since `unlinkToDeath` stands after the loop and not in it.

`linkCount` and `entryCount` count both on one client. One call changes them as `CountsMove` says:
a registration adds one to each, an unregistration takes one link and all entries. So over a
sequence of calls the counts agree exactly as long as no client unregisters with more than one
entry (`accounted_iff`).
-/

namespace XenvmHal

open Interaction Program

namespace Health

variable {C : Type} [Interfaces C]

/-! ### The account -/

/-- The links held, most recent first, after one more event. -/
def linksAfter (links : List C) : SysEvent C → List C
  | ⟨.linkToDeath callback, result⟩ =>
    if result.withDefault false then callback :: links else links
  | ⟨.unlinkToDeath callback, _⟩ => links.eraseP (interfacesEqual · callback)
  | _ => links

/-- The links held after a sequence of calls. -/
def linksHeld (l : List (CallRun C)) : List C :=
  (l.flatMap Executed.trace).foldl linksAfter []

/-- The death links held on a client. -/
def linkCount (l : List (CallRun C)) (callback : C) : ℕ :=
  (linksHeld l).countP (interfacesEqual · callback)

/-- The entries of a client. -/
def entryCount (s : Healthd C) (callback : C) : ℕ :=
  s.callbacks_.countP (interfacesEqual · callback)

/-- One link an entry, on every client. -/
def Balanced (l : List (CallRun C)) (s : Healthd C) : Prop :=
  ∀ callback, linkCount l callback = entryCount s callback

/-- **The account is in order**: in every state reached there is one link an entry, and a
successful unregistration leaves no link. -/
structure Accounted (config : HealthdConfig) (board : Board) (s₀ : Healthd C)
    (l : List (CallRun C)) : Prop where
  balanced : ∀ u v s, l = u ++ v → Execution (Call.proc config board) s₀ u s → Balanced u s
  unlinked : ∀ u e v callback, l = u ++ e :: v →
    e.event = ⟨.unregisterCallback (some callback), some .success⟩ →
      linkCount (u ++ [e]) callback = 0

/-- The two calls that clients make to register and unregister. -/
def Call.IsRegistration : Call C → Prop
  | .registerCallback _ | .unregisterCallback _ => True
  | _ => False

/-- The client is alive: linking to its death succeeds. -/
def LinkSucceeds : SysEvent C → Prop
  | ⟨.linkToDeath _, result⟩ => result = .ok true
  | _ => True

/-- A client that unregisters has at most one entry. -/
def UnregistersSingly (e : CallRun C) : Prop :=
  ∀ callback, e.event.call = .unregisterCallback (some callback) →
    entryCount e.before callback ≤ 1

/-! ### One call -/

theorem linksHeld_snoc (l : List (CallRun C)) (e : CallRun C) :
    linksHeld (l ++ [e]) = e.trace.foldl linksAfter (linksHeld l) := by
  simp [linksHeld]

/-- An update leaves the links alone. -/
theorem foldl_linksAfter_of_update {t : List (SysEvent C)} (h : ∀ e ∈ t, IsTimerCall e.call)
    (links : List C) : t.foldl linksAfter links = links := by
  induction t with
  | nil => rfl
  | cons e t ih =>
    obtain ⟨⟨fd, interval, hcall⟩, ht⟩ := List.forall_mem_cons.1 h
    obtain ⟨c, x⟩ := e
    subst hcall
    exact ih ht

/-- Unlinking takes one link of the client, if there is one, and none of another. -/
theorem countP_unlink (links : List C) (callback other : C) :
    (links.eraseP (interfacesEqual · callback)).countP (interfacesEqual · other) =
      links.countP (interfacesEqual · other) - if interfacesEqual callback other then 1 else 0 := by
  induction links with
  | nil => simp
  | cons link links ih =>
    cases heq : interfacesEqual link callback with
    | true =>
      rw [List.eraseP_cons_of_pos (p := (interfacesEqual · callback)) heq, List.countP_cons,
        interfacesEqual_congr_left heq]
      omega
    | false =>
      rw [List.eraseP_cons_of_neg (p := (interfacesEqual · callback)) (by simp [heq]),
        List.countP_cons, List.countP_cons, ih]
      cases hother : interfacesEqual callback other with
      | false => simp
      | true =>
        have hlink : interfacesEqual link other = false := by
          rw [← interfacesEqual_congr hother, heq]
        simp [hlink]

/-- Removing the entries of a client takes all of them, and none of another. -/
theorem countP_remove (callbacks : List C) (callback other : C) :
    (callbacks.filter (!interfacesEqual · callback)).countP (interfacesEqual · other) =
      if interfacesEqual callback other then 0 else callbacks.countP (interfacesEqual · other) := by
  rw [List.countP_filter]
  split
  case isTrue hother =>
    refine List.countP_eq_zero.2 fun entry _ ↦ ?_
    simp [interfacesEqual_congr hother]
  case isFalse hother =>
    refine List.countP_congr fun entry _ ↦ ?_
    have hentry : interfacesEqual entry other = true → ¬interfacesEqual entry callback = true :=
      fun h hcallback ↦ hother (by rw [← interfacesEqual_congr_left hcallback, h])
    simpa using hentry

/-- What one call does to the counts. -/
def CountsMove (l : List (CallRun C)) (e : CallRun C) (s : Healthd C) : Prop :=
  match e.event.call with
  | .registerCallback (some callback) => ∀ other,
    linkCount (l ++ [e]) other =
        linkCount l other + (if interfacesEqual callback other then 1 else 0) ∧
      entryCount s other =
        entryCount e.before other + (if interfacesEqual callback other then 1 else 0)
  | .unregisterCallback (some callback) => ∀ other,
    linkCount (l ++ [e]) other =
        linkCount l other - (if interfacesEqual callback other then 1 else 0) ∧
      entryCount s other =
        if interfacesEqual callback other then 0 else entryCount e.before other
  | _ => ∀ other, linkCount (l ++ [e]) other = linkCount l other ∧
      entryCount s other = entryCount e.before other

variable {config : HealthdConfig} {board : Board}

/-- **One call.** -/
theorem countsMove {l : List (CallRun C)} {e : CallRun C} {s : Healthd C}
    (hcall : e.event.call.IsRegistration) (hlive : ∀ d ∈ e.trace, LinkSucceeds d)
    (h : e.IsRun (Call.proc config board) s) : CountsMove l e s := by
  obtain ⟨before, ⟨x, result⟩, t⟩ := e
  cases x with
  | registerCallback callback =>
    cases callback with
    | none =>
      obtain ⟨rfl, hr⟩ := runs_ret_iff.1 h
      obtain ⟨-, rfl⟩ := Prod.mk.inj hr
      intro other
      exact ⟨by rw [linkCount, linksHeld_snoc]; rfl, rfl⟩
    | some callback =>
      obtain ⟨⟨r, s₁⟩, hregister, hr⟩ := runs_bind_ret_iff.1 h
      obtain ⟨-, rfl⟩ := Prod.mk.inj hr
      obtain ⟨hcallbacks, x, w, rfl, hw⟩ := registerCallback_spec hregister
      have hx : x = .ok true := hlive ⟨.linkToDeath callback, x⟩ (by simp)
      subst hx
      intro other
      constructor
      · rw [linkCount, linksHeld_snoc, List.foldl_cons, foldl_linksAfter_of_update hw]
        exact List.countP_cons
      · rw [entryCount, hcallbacks, List.countP_append, List.countP_singleton]
        rfl
  | unregisterCallback callback =>
    cases callback with
    | none =>
      obtain ⟨rfl, hr⟩ := runs_ret_iff.1 h
      obtain ⟨-, rfl⟩ := Prod.mk.inj hr
      intro other
      exact ⟨by rw [linkCount, linksHeld_snoc]; rfl, rfl⟩
    | some callback =>
      obtain ⟨⟨r, s₁⟩, hunregister, hr⟩ := runs_bind_ret_iff.1 h
      obtain ⟨-, rfl⟩ := Prod.mk.inj hr
      obtain ⟨rfl, -, x, rfl⟩ := unregisterCallback_spec hunregister
      intro other
      constructor
      · rw [linkCount, linksHeld_snoc]
        exact countP_unlink _ _ _
      · exact countP_remove _ _ _
  | serviceDied who => exact hcall.elim
  | update => exact hcall.elim
  | notifyListeners => exact hcall.elim

/-! ### Sequences of calls -/

theorem entryCount_congr {callback other : C} (h : interfacesEqual callback other = true)
    (s : Healthd C) : entryCount s callback = entryCount s other :=
  List.countP_congr fun entry _ ↦ by rw [interfacesEqual_congr h]

/-- One call keeps the balance, unless it unregisters more than one entry. -/
theorem Balanced.step {l : List (CallRun C)} {e : CallRun C} {s : Healthd C}
    (hl : Balanced l e.before) (hsingly : UnregistersSingly e) (hmove : CountsMove l e s) :
    Balanced (l ++ [e]) s := by
  intro other
  have hbefore := hl other
  rw [CountsMove] at hmove
  split at hmove
  case h_1 callback hcall =>
    obtain ⟨hlinks, hentries⟩ := hmove other
    rw [hlinks, hentries, hbefore]
  case h_2 callback hcall =>
    obtain ⟨hlinks, hentries⟩ := hmove other
    have hle := hsingly callback hcall
    rw [hlinks, hentries, hbefore]
    split
    case isTrue heq =>
      rw [entryCount_congr heq] at hle
      omega
    case isFalse => rfl
  case h_3 =>
    obtain ⟨hlinks, hentries⟩ := hmove other
    rw [hlinks, hentries, hbefore]

/-- **The account of a sequence of calls** is in order exactly when no client unregisters with more
than one entry. -/
theorem accounted_iff {s₀ s : Healthd C} {l : List (CallRun C)} (h₀ : s₀.callbacks_ = [])
    (h : Execution (Call.proc config board) s₀ l s)
    (hcalls : ∀ e ∈ l, e.event.call.IsRegistration)
    (hlive : ∀ e ∈ l, ∀ d ∈ e.trace, LinkSucceeds d) :
    Accounted config board s₀ l ↔ ∀ e ∈ l, UnregistersSingly e := by
  constructor
  · intro haccounted e he callback hcall
    obtain ⟨u, v, rfl⟩ := List.append_of_mem he
    obtain ⟨s₁, hrun, hbefore, hafter⟩ := h.split
    have hmove := countsMove (l := u) (hcalls e he) (hlive e he) hrun
    rw [CountsMove, hcall] at hmove
    obtain ⟨hlinks, hentries⟩ := hmove callback
    have hbalanced := haccounted.balanced u _ _ rfl hbefore callback
    have hbalanced' := haccounted.balanced (u ++ [e]) v s₁ (by simp) hafter callback
    -- all entries are gone, so all but one of the links must have been gone before
    rw [hlinks, hentries, interfacesEqual_self] at hbalanced'
    simp only [if_true] at hbalanced'
    omega
  · intro hsingly
    have hbalanced : ∀ u v s', l = u ++ v → Execution (Call.proc config board) s₀ u s' →
        Balanced u s' := by
      rintro u v s' rfl hu
      refine hu.invariant (G := fun _ e ↦ e ∈ u) (I := Balanced) ?_ ?_
        (throughout_const_iff.2 fun _ he ↦ he)
      · intro callback
        rw [entryCount, h₀]
        rfl
      · intro l e s hl he hrun
        have hmem : e ∈ u ++ v := List.mem_append_left v he
        exact hl.step (hsingly e hmem) (countsMove (hcalls e hmem) (hlive e hmem) hrun)
    refine ⟨hbalanced, ?_⟩
    rintro u e v callback rfl hevent
    obtain ⟨s₁, hrun, -, hafter⟩ := h.split
    have hmem : e ∈ u ++ e :: v := by simp
    have hmove := countsMove (l := u) (hcalls e hmem) (hlive e hmem) hrun
    rw [CountsMove, hevent] at hmove
    rw [hbalanced (u ++ [e]) v s₁ (by simp) hafter callback, (hmove callback).2,
      interfacesEqual_self, if_pos rfl]

/-! ### Two sequences -/

/-- A client registers, and once again. -/
def registration (callbacks : List ℕ) : CallRun ℕ :=
  ⟨.started callbacks, ⟨.registerCallback (some 1), some .success⟩,
    [⟨.linkToDeath 1, .ok true⟩]⟩

/-- A client unregisters. -/
def unregistration (callbacks : List ℕ) : CallRun ℕ :=
  ⟨.started callbacks, ⟨.unregisterCallback (some 1), some .success⟩,
    [⟨.unlinkToDeath 1, .ok true⟩]⟩

theorem registration_isRun (callbacks : List ℕ) :
    (registration callbacks).IsRun (Call.proc .default .service)
      (.started (callbacks ++ [1])) :=
  Steps.call (Steps.refl _)

theorem unregistration_isRun {callbacks : List ℕ} (h : callbacks.any (interfacesEqual · 1) = true) :
    (unregistration callbacks).IsRun (Call.proc .default .service)
      (.started (callbacks.filter (!interfacesEqual · 1))) := by
  have hany : (Healthd.started callbacks).callbacks_.any (interfacesEqual · 1) = true := h
  rw [Executed.IsRun]
  simp only [unregistration, Call.proc, unregisterCallback, unregisterCallbackInternal_eq, hany]
  exact Steps.call (Steps.refl _)

theorem accounted_iff_once :
    Accounted .default .service (.started []) [registration [], unregistration [1]] ↔
      ∀ e ∈ [registration [], unregistration [1]], UnregistersSingly e := by
  refine accounted_iff rfl ((Execution.single (registration_isRun [])).snoc
    (unregistration_isRun rfl)) ?_ ?_
  · simp [registration, unregistration, Call.IsRegistration]
  · simp [registration, unregistration, LinkSucceeds]

/-- **Two registrations, one unregistration**: no entry is left, and one link. -/
theorem unregistration_leaves_link :
    Execution (Call.proc .default .service) (.started [])
        [registration [], registration [1], unregistration [1, 1]] (.started []) ∧
      entryCount (.started []) 1 = 0 ∧
      linkCount [registration [], registration [1], unregistration [1, 1]] 1 = 1 ∧
      ¬Accounted .default .service (.started [])
        [registration [], registration [1], unregistration [1, 1]] := by
  refine ⟨((Execution.single (registration_isRun [])).snoc (registration_isRun [1])).snoc
    (unregistration_isRun rfl), rfl, rfl, fun h ↦ ?_⟩
  have hunlinked :=
    h.unlinked [registration [], registration [1]] (unregistration [1, 1]) [] 1 rfl rfl
  cases hunlinked

end Health

end XenvmHal
