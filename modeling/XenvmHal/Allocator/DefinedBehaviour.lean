import XenvmHal.Allocator.Abandonment
import XenvmHal.Allocator.AllOrNothing
import XenvmHal.Allocator.Configured
import XenvmHal.Allocator.DebugDump
import XenvmHal.Allocator.Service

/-!
# Defined behaviour

What the C++ code must not do, whatever happens: read a local variable that nothing has written,
write past the end of a buffer, or tell the device of room that a buffer does not have. A call that
does none of this is `Defined`.

The parts of a request keep clear of it for different reasons. The set-up chain hands out a
descriptor whenever it reports success (`createDescriptor_chain`). The loop stores a handle and a
stride for every buffer it counts (`allocateWith_keeps`). A success has written the stride of the
reply. And the sizes of a dump are computed in 32 bits, which is enough for every length but one.

One call remains. When the device refuses a descriptor, the shared end of the chain reads the
variable all the same (`AfterRefusal`). `service_defined` puts the parts together, for any number
of requests at once: on a device that keeps to its header nothing else goes wrong, and on one that
refuses no descriptor nothing does.
-/

namespace XenvmHal

open Interaction Program

/-- **A call without undefined behaviour.** -/
structure Defined (c : Call) : Prop where
  /-- No local variable is read before it is written. -/
  written : ¬ReadsUnwritten c
  /-- Nothing is written past the end of a buffer. -/
  inBounds : c ≠ .outOfBounds
  /-- The device is not told of room that is not there. -/
  room : ∀ len room, c = .dump len (some room) → len.toNat ≤ room

/-- The descriptor is read by a request that has done nothing but to ask for it, in vain. -/
def AfterRefusal (u : List DeviceEvent) (c : Call) : Prop :=
  c = .unwrittenDescriptor ∧
    ∃ x : Int32 × DescriptorId, u = [⟨.createDescriptor, x⟩] ∧ x.1 ≠ Gralloc1Error.none

/-- An answer that the device headers allow, with a length of the debug text that leaves room for
a terminator. -/
structure Conforms (e : DeviceEvent) : Prop where
  documented : Documented e
  fits : Gralloc1Hal.LengthFits e

/-- The monitor that permits defined calls. -/
abbrev definedMonitor : Monitor Call Answer Unit where
  pre _ c := Defined c
  assume _ e := Conforms e
  next _ _ := ()

/-- The monitor that permits the read of a refused descriptor as well. -/
abbrev refusalMonitor : Monitor Call Answer (List DeviceEvent) :=
  .history (fun u c ↦ Defined c ∨ AfterRefusal u c) fun _ e ↦ Conforms e

variable {α : Type} {p : Prog α}

theorem safe_of_defined (h : Only Defined p) : Safe definedMonitor (fun _ _ ↦ True) () p :=
  (h.safe (fun _ hc ↦ hc) fun _ _ _ ↦ rfl).mono fun _ _ _ ↦ trivial

theorem safe_refusal {Q : α → Prop} (h : Safe definedMonitor (fun a _ ↦ Q a) () p)
    (u : List DeviceEvent) : Safe refusalMonitor (fun a _ ↦ Q a) u p :=
  h.comap (f := fun _ ↦ ()) (fun _ _ hc ↦ .inl hc) (fun _ _ he ↦ he) fun _ _ ↦ rfl

/-- The calls that are defined if they read no unwritten variable: all but those of a dump. -/
def NoDump : Call → Prop
  | .dump _ _ | .outOfBounds => False
  | _ => True

theorem NoDump.defined {c : Call} (h : NoDump c) (hwritten : ¬ReadsUnwritten c) : Defined c where
  written := hwritten
  inBounds := by
    rintro rfl
    exact h
  room len room hc := by
    subst hc
    exact h.elim

/-- **From a monitor that remembers** to one that does not. -/
theorem safe_defined {P : DeviceEvent → Prop} {Q : α → List DeviceEvent → Prop}
    {u : List DeviceEvent} (h : Safe (writtenMonitor P) Q u p) (honly : Only NoDump p)
    (hP : ∀ e, Conforms e → P e) : Safe definedMonitor (fun a _ ↦ ∃ t, Q a t) () p := by
  have hdump : Safe (.history (fun _ c ↦ NoDump c) fun _ e ↦ P e) (fun _ _ ↦ True) u p :=
    honly.safe_of_invariant (I := fun _ ↦ True) (fun _ _ _ hc ↦ hc) (fun _ _ _ _ _ _ ↦ trivial)
      trivial
  have hboth := h.and hdump fun _ _ ↦ rfl
  refine (hboth.map (f := fun _ ↦ ()) (fun _ _ hc ↦ hc.2.defined hc.1)
    (fun _ e he ↦ ⟨hP e he, hP e he⟩) fun _ _ ↦ rfl).mono ?_
  rintro a _ ⟨t, -, ht⟩
  exact ⟨t, ht.1⟩

/-- A success has written the stride. -/
def Strided (r : Error × Out) : Prop :=
  r.1 = .none → ∃ stride, r.2.stride = some stride

/-! ### The gralloc1 back end -/

namespace Gralloc1Hal

variable (decode : Decoder) (hal : Gralloc1Hal)

/-- **The setter chain on a descriptor that exists** reads no unwritten variable, and a success
hands that descriptor out. -/
theorem configureDescriptor_defined (info : BufferDescriptorInfo) (d : DescriptorId) :
    Safe definedMonitor (fun r _ ↦ r.1 = .none → r.2 = some d) ()
      (hal.configureDescriptor info Gralloc1Error.none (some d)) := by
  let u : List DeviceEvent := [⟨.createDescriptor, (Gralloc1Error.none, d)⟩]
  have hchain : Safe (hal.configuredMonitor info) _ u
      (hal.configureDescriptor info Gralloc1Error.none (some d)) :=
    configureDescriptor_chain (.start d)
  have hremembers : Remembers Gralloc1Error.none u :=
    iff_of_true (List.forall_mem_singleton.2 Gralloc1Error.none_ne_notShared) (by decide)
  have hboth := hchain.and (hal.configureDescriptor_remembers d hremembers) fun _ _ ↦ rfl
  have hwritten : Safe (writtenMonitor SetUpAnswered)
      (fun r u' ↦ (r.1 = .none →
          r.2 = some d ∧ Progress d (hal.requested info) (hal.LayersAllowed info) u') ∧
        ((¬∀ e ∈ u', SetUpAnswered e) → r = (.none, none))) u
      (hal.configureDescriptor info Gralloc1Error.none (some d)) :=
    hboth.weaken (fun _ _ hc ↦ hc.2) (fun _ _ he ↦ ⟨he, trivial⟩) fun _ _ ↦ rfl
  have honly : Only NoDump (hal.configureDescriptor info Gralloc1Error.none (some d)) := by
    refine (hal.configureDescriptor_only info _ _).mono fun c hc ↦ ?_
    cases c <;> trivial
  refine (safe_defined hwritten honly fun e he ↦ he.documented.1).mono ?_
  rintro r _ ⟨t, hr, -⟩ hnone
  exact (hr hnone).1

/-- **The set-up** reads an unwritten variable only after a refusal, and a success has written the
descriptor. -/
theorem createDescriptor_defined (info : BufferDescriptorInfo) :
    Safe refusalMonitor (fun r _ ↦ r.1 = .none → ∃ d, r.2 = some d) []
      (hal.createDescriptor info) := by
  rw [createDescriptor_eq]
  refine ⟨.inl (NoDump.defined trivial id), fun x hx ↦ ?_⟩
  dsimp only
  by_cases hcreate : x.1 = Gralloc1Error.none
  · rw [if_pos hcreate, hcreate]
    exact (safe_refusal (hal.configureDescriptor_defined info x.2) _).mono
      fun _ _ hr hnone ↦ ⟨x.2, hr hnone⟩
  · have hshared : x.1 ≠ Gralloc1Error.notShared := hx.documented.1
    rw [if_neg hcreate, hal.configureDescriptor_of_error info hcreate, finishDescriptor,
      if_neg hcreate]
    -- the variable is read here, and the code that refused the descriptor is passed on
    refine ⟨.inr ⟨rfl, x, rfl, hcreate⟩, fun d _ ↦ ⟨.inl (NoDump.defined trivial id), ?_⟩⟩
    exact fun _ _ hnone ↦ absurd (toError_eq_none_iff.1 hnone) (not_or.2 ⟨hcreate, hshared⟩)

theorem allocateWith_strided {desc : Option DescriptorId} {count : UInt32} {out : Out}
    {t : List DeviceEvent} {r : Error × Out} (h : Runs (allocateWith desc count out) t r) :
    Strided r := by
  obtain ⟨-, t₁, ⟨error, stride, buffers⟩, -, -, hloop⟩ := runs_bind_iff.1 h
  obtain ⟨-, t₂, d, -, -, hread⟩ := runs_bind_iff.1 hloop
  obtain ⟨code, t₃, -, hdestroy⟩ := runs_call_iff.1 hread
  change Runs (if error ≠ .none then _ else _) t₃ r at hdestroy
  split at hdestroy
  · rename_i herror
    obtain ⟨-, -, rfl⟩ := runs_bind_ret_iff.1 hdestroy
    exact fun hnone ↦ absurd hnone herror
  · obtain ⟨-, rfl⟩ := runs_ret_iff.1 hdestroy
    exact fun _ ↦ ⟨stride, rfl⟩

theorem allocateBuffers_defined (descriptor : BufferDescriptor) (count : UInt32) (out : Out) :
    Safe refusalMonitor (fun r _ ↦ Strided r) []
      (hal.allocateBuffers decode descriptor count out) := by
  unfold allocateBuffers
  rcases decode descriptor with - | info
  · exact fun hnone ↦ Error.noConfusion hnone
  · refine (hal.createDescriptor_defined info).bind fun ⟨error, desc⟩ u h ↦ ?_
    dsimp only at h ⊢
    split
    · rename_i herror
      exact fun hnone ↦ absurd hnone herror
    · rename_i hnone
      obtain ⟨d, rfl⟩ := h (not_not.1 hnone)
      have hkeeps : Keeps [] [] := ⟨List.forall_mem_nil _, List.forall_mem_nil _⟩
      have honly : Only NoDump (allocateWith (some d) count out) := by
        refine (allocateWith_calls (some d) count out).mono fun c hc ↦ ?_
        rcases hc with hc | ⟨d, rfl⟩
        · cases c <;> trivial
        · trivial
      have hwith : Safe definedMonitor (fun r _ ↦ Strided r) ()
          (allocateWith (some d) count out) :=
        ((safe_defined (allocateWith_keeps hkeeps d count out) honly
          fun e he ↦ he.documented.2).and_of_runs fun _ _ hr ↦ allocateWith_strided hr).mono
            fun _ _ hr ↦ hr.2
      exact safe_refusal hwith u

theorem dumpDebugInfo_defined : Safe definedMonitor (fun _ _ ↦ True) () dumpDebugInfo := by
  refine ⟨⟨id, fun hc ↦ Call.noConfusion hc, fun _ _ hc ↦ ?_⟩, fun x hx ↦ ?_⟩
  · cases hc
  have hlen : x.1 ≠ 0xffffffff := hx.fits
  refine ⟨⟨id, fun hc ↦ Call.noConfusion hc, fun len room hc ↦ ?_⟩, fun y hy ↦ ?_⟩
  · obtain ⟨rfl, hroom⟩ := Call.dump.inj hc
    rw [← Option.some.inj hroom, List.length_replicate]
    exact Nat.le_of_lt (lt_succ_iff.2 hlen)
  · have hfinal : y.1 ≠ 0xffffffff := hy.fits
    have hroom : y.1.toNat < (dumpBuffer x.1 y.1 y.2).length := by
      rw [dumpBuffer, length_resize]
      exact lt_succ_iff.2 hfinal
    show Safe _ _ _ (if y.1.toNat < (dumpBuffer x.1 y.1 y.2).length then _ else _)
    rw [if_pos hroom]
    trivial

end Gralloc1Hal

/-! ### The gralloc0 back end -/

namespace Gralloc0Hal

theorem allocateBuffers_defined (decode : Decoder) (descriptor : BufferDescriptor) (count : UInt32)
    (out : Out) :
    Safe definedMonitor (fun r _ ↦ Strided r) () (allocateBuffers decode descriptor count out) := by
  unfold allocateBuffers
  rcases decode descriptor with - | info
  · exact fun hnone ↦ Error.noConfusion hnone
  · have hone : Safe definedMonitor
        (fun r _ ↦ r.1 = .none → ∃ b s, r.2 = (some b, some s)) () (allocateOneBuffer info) := by
      by_cases hinfo : Unsupported info
      · rw [allocateOneBuffer, if_pos hinfo]
        exact fun hnone ↦ Error.noConfusion hnone
      · rw [allocateOneBuffer_eq hinfo]
        refine ⟨NoDump.defined trivial id, fun x _ ↦ ?_⟩
        dsimp only
        split_ifs
        · exact fun _ ↦ ⟨_, _, rfl⟩
        · exact fun hnone ↦ Error.noConfusion hnone
        · exact fun hnone ↦ Error.noConfusion hnone
    have hloop : Safe definedMonitor (fun _ _ ↦ True) () (allocateLoop info count.toNat 0 []) := by
      refine AllocatorHal.allocateLoop_safe (I := fun _ _ _ _ ↦ True) ?_ (fun _ _ _ _ ↦ trivial)
        trivial
      intro _ _ _ _ _
      refine hone.mono fun r _ hr ↦ ⟨fun _ ↦ trivial, fun hnone ↦ ?_⟩
      obtain ⟨b, s, hbs⟩ := hr hnone
      exact ⟨b, s, hbs, fun _ ↦ trivial, fun _ _ ↦ trivial, fun _ _ ↦ trivial⟩
    refine hloop.bind ?_
    rintro ⟨error, stride, buffers⟩ _ -
    dsimp only
    split
    · rename_i herror
      have hfree : Only Defined (freeBuffers buffers) := by
        refine AllocatorHal.freeLoop_only (fun b ↦ ?_) buffers
        exact ⟨NoDump.defined trivial id, fun _ ↦ trivial⟩
      exact (safe_of_defined hfree).bind fun _ _ _ hnone ↦ absurd hnone herror
    · exact fun _ ↦ ⟨stride, rfl⟩

end Gralloc0Hal

/-! ### The service -/

namespace Allocator

theorem reply_defined (decode : Decoder) (mHal : Hal) {r : Error × Out} (h : Strided r) :
    Safe definedMonitor (fun _ _ ↦ True) () (reply (mHal.toAllocatorHal decode) r) := by
  have hcb : ∀ error stride buffers, Defined (.hidlCb error stride buffers) := fun _ _ _ ↦
    NoDump.defined trivial id
  unfold reply
  split
  · exact ⟨hcb _ _ _, fun _ _ ↦ trivial⟩
  · rename_i hnone
    obtain ⟨stride, hstride⟩ := h (not_not.1 hnone)
    rw [hstride]
    refine ⟨hcb _ _ _, fun _ _ ↦ safe_of_defined ?_⟩
    cases mHal with
    | gralloc0 hal =>
      refine AllocatorHal.freeLoop_only (fun b ↦ ?_) _
      exact ⟨NoDump.defined trivial id, fun _ ↦ trivial⟩
    | gralloc1 hal =>
      exact Gralloc1Hal.freeBuffers_releases _ fun b ↦ NoDump.defined trivial id

theorem dumpDebugInfo_defined (decode : Decoder) (mHal : Hal) :
    Safe definedMonitor (fun _ _ ↦ True) () (dumpDebugInfo (mHal.toAllocatorHal decode)) := by
  have hcb : ∀ text, Defined (.dumpCb text) := fun _ ↦ NoDump.defined trivial id
  refine Safe.bind (Q := fun _ _ ↦ True) ?_ fun text _ _ ↦ ⟨hcb text, fun _ _ ↦ trivial⟩
  cases mHal with
  | gralloc0 hal =>
    show Safe _ _ _ hal.dumpDebugInfo
    unfold Gralloc0Hal.dumpDebugInfo
    dsimp only
    split
    · exact ⟨NoDump.defined trivial id, fun _ _ ↦ trivial⟩
    · trivial
  | gralloc1 hal => exact Gralloc1Hal.dumpDebugInfo_defined

/-- **One request of any kind** on a device that keeps to its header. -/
theorem serve_defined (decode : Decoder) (mHal : Hal) (request : Request) :
    Safe refusalMonitor (fun _ _ ↦ True) [] (serve decode mHal request) := by
  cases request with
  | dumpDebugInfo => exact safe_refusal (dumpDebugInfo_defined decode mHal) []
  | allocate descriptor count =>
    refine Safe.bind (Q := fun r _ ↦ Strided r) ?_ fun r u hr ↦
      safe_refusal (reply_defined decode mHal hr) u
    cases mHal with
    | gralloc0 hal =>
      exact safe_refusal (Gralloc0Hal.allocateBuffers_defined decode descriptor count _) []
    | gralloc1 hal => exact hal.allocateBuffers_defined decode descriptor count _

variable {ι : Type} [DecidableEq ι]

/-- **No undefined behaviour, in any interleaving**, with one exception. On a device that gives the
codes its header lists and reports no length of 2^32 - 1, no request, in whatever order the threads
run and whichever call fails, writes past the end of a buffer, announces room that is not there, or
reads an unwritten variable, but for the descriptor that the device has just refused it. A device
that refuses none makes every call defined. -/
theorem service_defined (decode : Decoder) (mHal : Hal) (requests : ι → Request)
    {t : List (ι × DeviceEvent)} {q : ι → Prog Unit}
    (h : Interleaved (pool decode mHal requests) t q) (hconforms : ∀ e ∈ t, Conforms e.2) :
    Throughout (fun u e ↦ Defined e.2.call ∨ AfterRefusal (own e.1 u) e.2.call) t ∧
      ((∀ e ∈ t, CreateSucceeds e.2) → ∀ e ∈ t, Defined e.2.call) := by
  have hthroughout : Throughout
      (fun u e ↦ Defined e.2.call ∨ AfterRefusal (own e.1 u) e.2.call) t := by
    rintro u ⟨i, e⟩ v rfl
    have haccepts := ((serve_defined decode mHal (requests i)).steps (h.own i)
      (Monitor.assumes_of_forall _ fun _ d hd ↦ hconforms _ (mem_own_iff.1 hd))).1
    rw [Monitor.accepts_iff_throughout] at haccepts
    have hpre : Defined e.call ∨ AfterRefusal (refusalMonitor.after [] (own i u)) e.call :=
      haccepts _ _ _ (own_split i u v e)
    rwa [Monitor.history_after] at hpre
  refine ⟨hthroughout, fun hcreated ⟨i, e⟩ he ↦ ?_⟩
  obtain ⟨u, v, rfl⟩ := List.append_of_mem he
  refine (hthroughout u _ v rfl).resolve_right ?_
  rintro ⟨-, x, hu, hrefused⟩
  have hmem : (i, ⟨.createDescriptor, x⟩) ∈ u := mem_own_iff.1 (hu ▸ List.mem_singleton_self _)
  exact hrefused (hcreated _ (List.mem_append_left _ hmem))

/-- A gralloc1 device that has one descriptor to give. The variable of a request that is refused
happens to hold 7. -/
def narrowDevice : Handler Call Answer Bool where
  answer free
    | .createDescriptor => (if free then Gralloc1Error.none else Gralloc1Error.noResources, 3)
    | .unwrittenDescriptor => (7 : UInt64)
    | _ => default
  next free c := free && c ≠ .createDescriptor

theorem narrowDevice_conforms (free : Bool) (c : Call) :
    Conforms ⟨c, narrowDevice.answer free c⟩ := by
  have hlen : (0 : UInt32) ≠ 0xffffffff := by decide
  cases c
  case createDescriptor =>
    cases free
    · exact ⟨⟨show Gralloc1Error.noResources ≠ _ by decide, trivial⟩, trivial⟩
    · exact ⟨⟨Gralloc1Error.none_ne_notShared, trivial⟩, trivial⟩
  case setDimensions | setFormat | setLayerCount | setProducerUsage | setConsumerUsage =>
    exact ⟨⟨Gralloc1Error.none_ne_notShared, trivial⟩, trivial⟩
  case getStride => exact ⟨⟨trivial, Gralloc1Error.none_ne_notShared⟩, trivial⟩
  case dump => exact ⟨⟨trivial, trivial⟩, hlen⟩
  all_goals exact ⟨⟨trivial, trivial⟩, trivial⟩

/-- Two clients who allocate, and one who asks for the debug information. -/
def threeRequests (i : Fin 3) : Request :=
  if i = 2 then .dumpDebugInfo else .allocate [] 1

/-- The first of them takes the descriptor, and the second is refused one. -/
def threeServed : List (Fin 3 × DeviceEvent) × (Fin 3 → Prog Unit) :=
  runSchedule narrowDevice true
    (pool (fun _ ↦ some ⟨64, 64, 1, 1, 0⟩) (.gralloc1 ⟨some 1, true, fun _ ↦ true⟩) threeRequests)
    [0, 1, 2, 0, 1, 0, 0, 2, 1, 0, 0, 0, 1, 2, 0, 0, 0, 0]

example : (own 1 threeServed.1).map Event.call =
    [.createDescriptor, .unwrittenDescriptor, .destroyDescriptor 7, .hidlCb .noResources 0 []] := by
  decide

theorem service_defined_three :
    Throughout (fun u e ↦ Defined e.2.call ∨ AfterRefusal (own e.1 u) e.2.call) threeServed.1 ∧
      ((∀ e ∈ threeServed.1, CreateSucceeds e.2) → ∀ e ∈ threeServed.1, Defined e.2.call) :=
  service_defined (fun _ ↦ some ⟨64, 64, 1, 1, 0⟩) (.gralloc1 ⟨some 1, true, fun _ ↦ true⟩)
    threeRequests (interleaved_runSchedule _ _ _ _)
    (forall_mem_runSchedule narrowDevice_conforms _ _ _)

end Allocator

end XenvmHal
