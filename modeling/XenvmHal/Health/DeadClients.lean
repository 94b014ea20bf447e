import XenvmHal.Health.DeathLinks
import XenvmHal.Health.Registry

/-!
# Dead clients

Clients die while their calls are under way. `World` is the health object together with what the
platform knows: who is dead, which death links are held, and which death notifications are still
to be delivered. One step runs a section, lets a client die, or delivers a notification; the
sections of any interleaving of calls are such steps.

Two mechanisms are meant to remove the entries of dead clients: the death link, and the purge of
`notifyListeners` for a client that died before it was linked. An update never gets to the purge,
so an entry stays when its client dies without a link (`dead_entry_stays`). As long as every client
that dies has linked what it registered, an entry of a dead client always has its notification
pending (`Announced`), and none is left once the notifications are delivered
(`cleared_of_timely`).
-/

namespace XenvmHal

open Interaction Program

namespace Health

variable {C : Type}

/-! ### The world -/

/-- The health object and its clients. -/
structure World (C : Type) where
  health : Healthd C
  /-- The clients that have died. -/
  dead : List C
  /-- The death links held on live clients, most recent first. -/
  links : List C
  /-- The death notifications not delivered yet. -/
  notices : List C

/-- What happens in one step. -/
inductive Happening (C : Type)
  | ran (e : SectionRun C)
  | died (client : C)
  | notified (client : C)

variable [Interfaces C]

namespace World

/-- The client behind the interface is dead. -/
def IsDead (w : World C) (callback : C) : Prop :=
  ∃ client ∈ w.dead, interfacesEqual client callback = true

/-- What a dead client answers: linking to it fails, and a call on it finds it dead. -/
def Answers (w : World C) : SysEvent C → Prop
  | ⟨.linkToDeath callback, result⟩ => w.IsDead callback → result ≠ .ok true
  | ⟨.healthInfoChanged callback _, result⟩ => w.IsDead callback → result = .deadObject
  | _ => True

/-- The world after a section. -/
def run (w : World C) (t : List (SysEvent C)) (s : Healthd C) : World C :=
  { w with health := s, links := t.foldl linksAfter w.links }

/-- The world after a death, which turns each link into a notification. -/
def die (w : World C) (client : C) : World C where
  health := w.health
  dead := client :: w.dead
  links := w.links.filter (!interfacesEqual · client)
  notices := w.notices ++ w.links.filter (interfacesEqual · client)

end World

/-- **One step.** -/
inductive Happens (config : HealthdConfig) : World C → Happening C → World C → Prop
  | ran {w : World C} {e : SectionRun C} {s : Healthd C} (hbefore : e.before = w.health)
      (he : e.IsRun (Section.proc config) s) (hanswers : ∀ d ∈ e.trace, w.Answers d) :
      Happens config w (.ran e) (w.run e.trace s)
  | died {w : World C} {client : C} (halive : ¬w.IsDead client) :
      Happens config w (.died client) (w.die client)
  /-- `serviceDied` with a reference that can be promoted. -/
  | notified {w : World C} {u v : List C} {client : C} {e : SectionRun C} {s : Healthd C}
      (hnotice : w.notices = u ++ client :: v) (hbefore : e.before = w.health)
      (hcall : e.event.call = .remove client) (he : e.IsRun (Section.proc config) s) :
      Happens config w (.notified client) { w.run e.trace s with notices := u ++ v }
  /-- `serviceDied` with a reference that has expired, as the registry no longer holds it. -/
  | expired {w : World C} {u v : List C} {client : C} (hnotice : w.notices = u ++ client :: v)
      (hgone : client ∉ w.health.callbacks_) :
      Happens config w (.notified client) { w with notices := u ++ v }

/-- **Steps one after the other**, each with the world it happened in. -/
inductive WorldRun (config : HealthdConfig) (w₀ : World C) :
    List (World C × Happening C) → World C → Prop
  | nil : WorldRun config w₀ [] w₀
  | snoc {l : List (World C × Happening C)} {w w' : World C} {x : Happening C}
      (h : WorldRun config w₀ l w) (hx : Happens config w x w') :
      WorldRun config w₀ (l ++ [(w, x)]) w'

/-! ### What is asked of the registry -/

/-- No entry of a dead client. -/
def World.Clean (w : World C) : Prop :=
  ∀ callback ∈ w.health.callbacks_, ¬w.IsDead callback

/-- No client dies and none registers. -/
def Happening.IsCalm : Happening C → Prop
  | .ran e => ∀ callback, e.event.call ≠ .push callback
  | .died _ => False
  | .notified _ => True

/-- An update that reports success. -/
def Happening.Updates : Happening C → Prop
  | .ran e => e.event = ⟨.update, .success⟩
  | _ => False

/-- **Dead clients are cleared away**: any calm run with a successful update ends without an entry
of a dead client. -/
def World.Cleared (config : HealthdConfig) (w : World C) : Prop :=
  ∀ l w', WorldRun config w l w' → (∀ x ∈ l, x.2.IsCalm) → (∃ x ∈ l, x.2.Updates) → w'.Clean

/-- **The step is in time**: a client dies only when each of its entries has a death link, and a
dead client registers only while its notification is pending. -/
def Timely (w : World C) : Happening C → Prop
  | .ran e => ∀ callback, e.event.call = .push callback → w.IsDead callback → callback ∈ w.notices
  | .died client =>
    ∀ callback ∈ w.health.callbacks_, interfacesEqual callback client = true → callback ∈ w.links
  | .notified _ => True

/-! ### The invariant -/

/-- **Every entry of a dead client is announced** by a notification not delivered yet. -/
def World.Announced (w : World C) : Prop :=
  ∀ callback ∈ w.health.callbacks_, w.IsDead callback → callback ∈ w.notices

variable {config : HealthdConfig}

/-- Only a push brings an entry into the registry. -/
theorem mem_callbacks_of_isRun {e : SectionRun C} {s : Healthd C}
    (he : e.IsRun (Section.proc config) s) {callback : C} (h : callback ∈ s.callbacks_) :
    callback ∈ e.before.callbacks_ ∨ e.event.call = .push callback := by
  rw [(Section.proc_refines he).1, Registry.next] at h
  split at h
  case h_1 pushed hcall =>
    rcases List.mem_append.1 h with h | h
    · exact Or.inl h
    · obtain rfl := List.mem_singleton.1 h
      exact Or.inr hcall
  case h_2 => exact Or.inl (List.mem_filter.1 h).1
  case h_3 => exact Or.inl (mem_of_mem_survivors h)
  case h_4 => exact Or.inl h

/-- **A step in time keeps the invariant.** -/
theorem World.Announced.step {w w' : World C} {x : Happening C} (hw : w.Announced)
    (hx : Happens config w x w') (htimely : Timely w x) : w'.Announced := by
  intro callback hmem hdead
  cases hx with
  | ran hbefore he =>
    rcases mem_callbacks_of_isRun he hmem with h | h
    · exact hw callback (hbefore ▸ h) hdead
    · exact htimely callback h hdead
  | @died client halive =>
    show callback ∈ w.notices ++ w.links.filter (interfacesEqual · client)
    obtain ⟨other, hother, heq⟩ := hdead
    rcases List.mem_cons.1 hother with rfl | hother
    · have hlink := htimely callback hmem (Interfaces.symm heq)
      exact List.mem_append_right _ (List.mem_filter.2 ⟨hlink, Interfaces.symm heq⟩)
    · exact List.mem_append_left _ (hw callback hmem ⟨other, hother, heq⟩)
  | @notified u v client e s hnotice hbefore hcall he =>
    have hs : s.callbacks_ = w.health.callbacks_.filter (!interfacesEqual · client) := by
      rw [(Section.proc_refines he).1, Registry.next, hcall, hbefore]
    obtain ⟨hregistered, hother⟩ := List.mem_filter.1 (hs ▸ hmem)
    have hnotices : callback ∈ u ++ client :: v := hnotice ▸ hw callback hregistered hdead
    have hne : callback ≠ client := by
      rintro rfl
      simp at hother
    simpa [hne] using hnotices
  | @expired u v client hnotice hgone =>
    have hnotices : callback ∈ u ++ client :: v := hnotice ▸ hw callback hmem hdead
    have hne : callback ≠ client := by
      rintro rfl
      exact hgone hmem
    simpa [hne] using hnotices

/-- **A run whose steps are all in time** keeps the invariant. -/
theorem World.Announced.run {w₀ w : World C} {l : List (World C × Happening C)}
    (h₀ : w₀.Announced) (h : WorldRun config w₀ l w) (htimely : ∀ p ∈ l, Timely p.1 p.2) :
    w.Announced := by
  induction h with
  | nil => exact h₀
  | @snoc l w w' x _ hx ih =>
    have hl : w.Announced := ih fun p hp ↦ htimely p (List.mem_append_left _ hp)
    exact hl.step hx (htimely (w, x) (by simp))

/-- A calm step brings no entry and no death. -/
theorem World.Clean.step {w w' : World C} {x : Happening C} (hw : w.Clean)
    (hx : Happens config w x w') (hcalm : x.IsCalm) : w'.Clean := by
  intro callback hmem
  cases hx with
  | ran hbefore he =>
    rcases mem_callbacks_of_isRun he hmem with h | h
    · exact hw callback (hbefore ▸ h)
    · exact absurd h (hcalm callback)
  | died => exact hcalm.elim
  | @notified u v client e s hnotice hbefore hcall he =>
    rcases mem_callbacks_of_isRun he hmem with h | h
    · exact hw callback (hbefore ▸ h)
    · rw [hcall] at h
      cases h
  | expired => exact hw callback hmem

theorem World.Clean.run {w w' : World C} {l : List (World C × Happening C)} (hw : w.Clean)
    (h : WorldRun config w l w') (hcalm : ∀ p ∈ l, p.2.IsCalm) : w'.Clean := by
  induction h with
  | nil => exact hw
  | @snoc l w w' x _ hx ih =>
    have hl : w.Clean := ih fun p hp ↦ hcalm p (List.mem_append_left _ hp)
    exact hl.step hx (hcalm (w, x) (by simp))

/-- **Dead clients are cleared away** once their notifications are delivered, in every run whose
steps are all in time. -/
theorem cleared_of_timely {w₀ w : World C} {l : List (World C × Happening C)}
    (h₀ : w₀.health.callbacks_ = []) (h : WorldRun config w₀ l w)
    (htimely : ∀ p ∈ l, Timely p.1 p.2) (hnotices : w.notices = []) : w.Cleared config := by
  have hannounced : w.Announced := by
    refine World.Announced.run (fun callback hmem ↦ ?_) h htimely
    rw [h₀] at hmem
    cases hmem
  have hclean : w.Clean := by
    intro callback hmem hdead
    have hnotice := hannounced callback hmem hdead
    rw [hnotices] at hnotice
    cases hnotice
  intro l' w' hrun hcalm _
  exact hclean.run hrun hcalm

/-! ### One client -/

/-- A world of a service with the given registry. -/
def world (callbacks dead links notices : List ℕ) : World ℕ :=
  ⟨.started callbacks, dead, links, notices⟩

/-- The push of its registration. -/
def pushing : SectionRun ℕ :=
  ⟨.started [], ⟨.push 1, ()⟩, []⟩

/-- The link of its registration. -/
def linking (result : Return Bool) : SectionRun ℕ :=
  ⟨.started [1], ⟨.link 1, ()⟩, [⟨.linkToDeath 1, result⟩]⟩

/-- An update. -/
def updating : SectionRun ℕ :=
  ⟨.started [1], ⟨.update, .success⟩, []⟩

/-- The removal after its death. -/
def removing : SectionRun ℕ :=
  ⟨.started [1], ⟨.remove 1, true⟩, [⟨.unlinkToDeath 1, .ok false⟩]⟩

theorem happens_pushing :
    Happens .default (world [] [] [] []) (.ran pushing) (world [1] [] [] []) :=
  .ran rfl (Steps.refl _) (List.forall_mem_nil _)

theorem happens_updating :
    Happens .default (world [1] [1] [] []) (.ran updating) (world [1] [1] [] []) :=
  .ran rfl (Steps.refl _) (List.forall_mem_nil _)

/-- The client links, dies, and is removed when its notification is delivered. -/
def linkedDeath : List (World ℕ × Happening ℕ) :=
  [(world [] [] [] [], .ran pushing), (world [1] [] [] [], .ran (linking (.ok true))),
    (world [1] [] [1] [], .died 1), (world [1] [1] [] [1], .notified 1)]

theorem worldRun_linkedDeath :
    WorldRun .default (world [] [] [] []) linkedDeath (world [] [1] [] []) := by
  have hlink : Happens .default (world [1] [] [] []) (.ran (linking (.ok true)))
      (world [1] [] [1] []) := by
    refine .ran rfl (Steps.call (Steps.refl _)) fun d hd ↦ ?_
    obtain rfl := List.mem_singleton.1 hd
    rintro ⟨client, hclient, -⟩
    cases hclient
  have hdie : Happens .default (world [1] [] [1] []) (.died 1) (world [1] [1] [] [1]) := by
    refine .died ?_
    rintro ⟨client, hclient, -⟩
    cases hclient
  have hremove : Happens .default (world [1] [1] [] [1]) (.notified 1) (world [] [1] [] []) := by
    refine .notified (u := []) (v := []) (e := removing) rfl rfl rfl ?_
    show Runs (unregisterCallbackInternal (.started [1]) (some 1)) _ _
    rw [unregisterCallbackInternal_eq]
    exact Steps.call (Steps.refl _)
  exact .snoc (.snoc (.snoc (.snoc .nil happens_pushing) hlink) hdie) hremove

theorem cleared_of_timely_linked : (world [] [1] [] []).Cleared .default := by
  refine cleared_of_timely rfl worldRun_linkedDeath ?_ rfl
  simp only [linkedDeath, List.forall_mem_cons]
  refine ⟨?_, ?_, ?_, trivial, List.forall_mem_nil _⟩
  · rintro callback - ⟨client, hclient, -⟩
    cases hclient
  · intro callback hcall
    cases hcall
  · intro callback hmem _
    exact hmem

/-- The client dies between the push and the link of its registration. -/
def earlyDeath : List (World ℕ × Happening ℕ) :=
  [(world [] [] [] [], .ran pushing), (world [1] [] [] [], .died 1),
    (world [1] [1] [] [], .ran (linking .deadObject)), (world [1] [1] [] [], .ran updating)]

/-- **An entry of a dead client that stays**: nothing is pending, and the updates succeed. -/
theorem dead_entry_stays :
    Runs ((Call.registerCallback (some 1)).sections .service)
        [pushing.event, (linking .deadObject).event, updating.event] (some .success) ∧
      WorldRun .default (world [] [] [] []) earlyDeath (world [1] [1] [] []) ∧
      ¬(world [1] [1] [] []).Cleared .default := by
  refine ⟨Steps.call (Steps.call (Steps.call (Steps.refl _))), ?_, fun h ↦ ?_⟩
  · have hdie : Happens .default (world [1] [] [] []) (.died 1) (world [1] [1] [] []) := by
      refine .died ?_
      rintro ⟨client, hclient, -⟩
      cases hclient
    have hlink : Happens .default (world [1] [1] [] []) (.ran (linking .deadObject))
        (world [1] [1] [] []) := by
      refine .ran rfl (Steps.call (Steps.refl _)) fun d hd ↦ ?_
      obtain rfl := List.mem_singleton.1 hd
      intro _ hresult
      cases hresult
    exact .snoc (.snoc (.snoc (.snoc .nil happens_pushing) hdie) hlink) happens_updating
  · have hclean := h [(world [1] [1] [] [], .ran updating)] _ (.snoc .nil happens_updating)
      (by simp [updating, Happening.IsCalm]) (by simp [updating, Happening.Updates])
    exact hclean 1 (List.mem_singleton_self 1) ⟨1, List.mem_singleton_self 1, rfl⟩

end Health

end XenvmHal
