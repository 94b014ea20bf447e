import XenvmHal.Allocator.Outstanding

/-!
# Shutting down

The destructor of the allocator closes the device, and with it takes away everything the device
has handed out. `lifetime_lifecycle` says that the device is closed once; here it is shown that
nothing is outstanding when that happens, neither a buffer nor a descriptor, and neither on the way
out of a failed initialisation nor after any sequence of requests.

The argument is the same for both kinds of resource, so it is made once, for any discipline that
the loader is neutral to and each request is safe for (`lifetime_closes`).
-/

namespace XenvmHal

open Interaction Program

/-- The loader hands out no buffers and no descriptors. -/
theorem IsLoadCall.owns_nothing {c : Call} (h : IsLoadCall c) :
    bufferDiscipline.Neutral c ∧ descriptorDiscipline.Neutral c := by
  cases c <;> first
    | exact h.elim
    | exact ⟨⟨fun _ ↦ rfl, rfl, rfl⟩, ⟨fun _ ↦ rfl, rfl, rfl⟩⟩

/-! ### A life and a discipline -/

/-- The monitor of a life: a device is closed when nothing is held. -/
abbrev closingMonitor {R : Type} [DecidableEq R] (D : Discipline Call Answer R)
    (trusted : DeviceEvent → Prop) : Monitor Call Answer (List R) where
  pre held c :=
    (D.monitor (D.TrustedFresh trusted)).pre held c ∧ (closed c ≠ none → held = [])
  assume := D.TrustedFresh trusted
  next := D.next

section Closing

variable {R : Type} [DecidableEq R] {D : Discipline Call Answer R}
  {trusted : DeviceEvent → Prop} {α : Type} {p : Prog α}

/-- A load call leaves a request's resources alone. -/
theorem safe_of_load (hneutral : ∀ c, IsLoadCall c → D.Neutral c) (h : Only IsLoadCall p) :
    Safe (closingMonitor D trusted) (fun _ held ↦ held = []) [] p := by
  refine h.safe (fun c hc ↦ ⟨?_, fun _ ↦ rfl⟩) fun c x hc ↦ ?_
  · simp [Discipline.monitor, (hneutral c hc).releases, (hneutral c hc).uses]
  · exact D.next_of_neither ((hneutral c hc).acquires x) (hneutral c hc).releases

/-- A program that closes no device may be watched by either monitor. -/
theorem safe_closing {Q : α → List R → Prop} {held : List R}
    (h : Safe (D.monitor (D.TrustedFresh trusted)) Q held p)
    (honly : Only (fun c ↦ closed c = none) p) : Safe (closingMonitor D trusted) Q held p := by
  have hopen : Safe
      (⟨fun _ c ↦ closed c = none, D.TrustedFresh trusted, D.next⟩ : Monitor Call Answer (List R))
      (fun _ _ ↦ True) held p :=
    honly.safe_of_invariant (I := fun _ ↦ True) (fun _ _ _ hc ↦ hc) (fun _ _ _ _ _ _ ↦ trivial)
      trivial
  exact ((h.and hopen fun _ _ ↦ rfl).mono fun _ _ hQ ↦ hQ.1).weaken
    (fun _ _ hc ↦ ⟨hc.1, fun hne ↦ absurd hc.2 hne⟩) (fun _ _ he ↦ ⟨he, he⟩) fun _ _ ↦ rfl

end Closing

namespace Allocator

variable (decode : Decoder)

/-- No request closes the device. -/
theorem serve_open (mHal : Hal) (request : Request) :
    Only (fun c ↦ closed c = none) (serve decode mHal request) := by
  cases request with
  | dumpDebugInfo =>
    refine (dumpDebugInfo_only decode mHal).mono fun c hc ↦ ?_
    cases c <;> first | rfl | exact hc.elim
  | allocate descriptor count =>
    refine Only.bind ?_ fun r ↦ (reply_only decode mHal r).mono fun c hc ↦ ?_
    · cases mHal with
      | gralloc0 hal =>
        refine (Gralloc0Hal.allocateBuffers_only decode descriptor count _).mono fun c hc ↦ ?_
        cases c <;> first | rfl | exact hc.elim
      | gralloc1 hal =>
        refine (hal.allocateBuffers_only decode descriptor count _).mono fun c hc ↦ ?_
        rcases hc with (rfl | hc) | hc
        · rfl
        · cases c <;> first | rfl | exact hc.elim
        · cases c <;> first | rfl | exact hc.elim
    · cases c <;> first | rfl | exact hc.elim

/-- **A life that respects a discipline** closes devices when nothing is held. -/
theorem lifetime_closes {R : Type} [DecidableEq R] {D : Discipline Call Answer R}
    {trusted : DeviceEvent → Prop} (hneutral : ∀ c, IsLoadCall c → D.Neutral c)
    (hserve : ∀ mHal request, Safe (D.monitor (D.TrustedFresh trusted)) (fun _ held ↦ held = [])
      [] (serve decode mHal request)) (requests : List Request) :
    Safe (closingMonitor D trusted) (fun _ held ↦ held = []) [] (lifetime decode requests) := by
  have hall : ∀ mHal, Safe (closingMonitor D trusted) (fun _ held ↦ held = []) []
      (serveAll decode mHal requests) := by
    intro mHal
    induction requests with
    | nil => rfl
    | cons request requests ih =>
      refine (safe_closing (hserve mHal request) (serve_open decode mHal request)).bind
        fun _ held hheld ↦ ?_
      subst hheld
      exact ih
  refine (safe_of_load hneutral GrallocLoader.load_only).bind fun hal held hheld ↦ ?_
  subst hheld
  cases hal with
  | none => rfl
  | some mHal =>
    refine (hall mHal).bind fun _ held hheld ↦ ?_
    subst hheld
    refine (safe_of_load hneutral mHal.destroy_only).bind fun _ held hheld ↦ ?_
    exact hheld

variable {decode} {requests : List Request} {t : List DeviceEvent} {q : Prog (Option Hal)}

/-- **The device is closed when nothing is outstanding.** On every module and for every sequence of
requests, with a documented device that creates its descriptors and never hands out what is still
out: whenever a device is closed, by the loader or by the destructor, no buffer and no descriptor
is held. -/
theorem lifetime_closes_empty (h : Steps (lifetime decode requests) t q)
    (hdevice : ∀ e ∈ t, Documented e ∧ CreateSucceeds e)
    (hbuffer : Throughout
      (fun u e ↦ ∀ b ∈ bufferDiscipline.acquires e, b ∉ bufferDiscipline.holding u) t)
    (hdescriptor : Throughout
      (fun u e ↦ ∀ d ∈ descriptorDiscipline.acquires e, d ∉ descriptorDiscipline.holding u) t) :
    Throughout
      (fun u e ↦ closed e.call ≠ none →
        bufferDiscipline.holding u = [] ∧ descriptorDiscipline.holding u = []) t := by
  have hbuffers := ((lifetime_closes decode (fun c hc ↦ hc.owns_nothing.1)
    (serve_returns decode) requests).steps h <| (Monitor.assumes_iff_throughout _).2
      fun u e v hu ↦ ⟨(hdevice e (by simp [hu])).1.2, hbuffer u e v hu⟩).1
  have hdescriptors := ((lifetime_closes decode (fun c hc ↦ hc.owns_nothing.2)
    (serve_destroys decode) requests).steps h <| (Monitor.assumes_iff_throughout _).2
      fun u e v hu ↦ ⟨⟨(hdevice e (by simp [hu])).2, (hdevice e (by simp [hu])).1.1⟩,
        hdescriptor u e v hu⟩).1
  rw [Monitor.accepts_iff_throughout] at hbuffers hdescriptors
  exact fun u e v hu hclosed ↦
    ⟨(hbuffers u e v hu).2 hclosed, (hdescriptors u e v hu).2 hclosed⟩

/-- The vendor keeps to the header and creates its descriptors. -/
theorem layeredVendor_documented (c : Call) :
    Documented ⟨c, layeredVendor.handler.answer () c⟩ ∧
      CreateSucceeds ⟨c, layeredVendor.handler.answer () c⟩ := by
  cases c
  case createDescriptor => exact ⟨⟨Gralloc1Error.none_ne_notShared, trivial⟩, rfl⟩
  case setDimensions | setFormat | setLayerCount | setProducerUsage | setConsumerUsage =>
    exact ⟨⟨Gralloc1Error.none_ne_notShared, trivial⟩, trivial⟩
  case getStride => exact ⟨⟨trivial, Gralloc1Error.none_ne_notShared⟩, trivial⟩
  all_goals exact ⟨⟨trivial, trivial⟩, trivial⟩

/-- The life of an allocator that serves one buffer and is destroyed. -/
def shortLife : Prog (Option Hal) :=
  lifetime (fun _ ↦ some ⟨64, 64, 2, 1, 0⟩) [.allocate [] 1]

theorem lifetime_closes_empty_short :
    Throughout
      (fun u e ↦ closed e.call ≠ none →
        bufferDiscipline.holding u = [] ∧ descriptorDiscipline.holding u = [])
      (run layeredVendor.handler () shortLife).trace :=
  lifetime_closes_empty (runs_run layeredVendor.handler () shortLife)
    (forall_mem_trace _ (fun _ c ↦ layeredVendor_documented c) () shortLife)
    (by decide) (by decide)

end Allocator

end XenvmHal
