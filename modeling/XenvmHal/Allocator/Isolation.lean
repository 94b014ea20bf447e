import XenvmHal.Allocator.Configured
import XenvmHal.Allocator.Service
import XenvmHal.Interaction.Cells

/-!
# Requests do not disturb each other's descriptors

A gralloc1 device has one table of descriptors, and concurrent requests all work on it. What a
request knows it has set up (`allocateBuffers_safe_configured`) is what its own calls have made of
a table that nobody else touches. The device's table is another matter: it is changed by
everybody's calls.

The two agree where it counts. The table is `Cells` guarded by `descriptorDiscipline`, so the entry
of a descriptor that a request holds is the entry its own calls have made
(`Interleaved.isolated`). Hence `service_configured`: at each allocation, in any interleaving, the
device allocates with the settings that this request was sent.

That needs a device that creates the descriptors it is asked for. A request whose `createDescriptor`
is refused destroys whatever its local variable holds, and that may be the descriptor of somebody
else (`refused_destroys_foreign`). A gralloc0 device has no table, and is told everything with each
call (`service_asksFor`).
-/

namespace XenvmHal

open Interaction Program

/-! ### The device's table as cells -/

/-- The descriptor whose settings an event is about. -/
def DescriptorTable.cell : DeviceEvent → Option DescriptorId
  | ⟨.createDescriptor, (code, d)⟩ => if code = Gralloc1Error.none then some d else none
  | ⟨.destroyDescriptor d, _⟩ | ⟨.setDimensions d _ _, _⟩ | ⟨.setFormat d _, _⟩
  | ⟨.setLayerCount d _, _⟩ | ⟨.setProducerUsage d _, _⟩ | ⟨.setConsumerUsage d _, _⟩ => some d
  | _ => none

/-- What an event changes the settings of its descriptor to. -/
def DescriptorTable.change (e : DeviceEvent) (c : Option Settings) : Option Settings :=
  match e with
  | ⟨.createDescriptor, _⟩ => some Settings.fresh
  | ⟨.destroyDescriptor _, _⟩ => none
  | ⟨.setDimensions _ width height, code⟩ =>
    if code = Gralloc1Error.none then c.map ({ · with dimensions := some (width, height) }) else c
  | ⟨.setFormat _ format, code⟩ =>
    if code = Gralloc1Error.none then c.map ({ · with format := some format }) else c
  | ⟨.setLayerCount _ layerCount, code⟩ =>
    if code = Gralloc1Error.none then c.map ({ · with layerCount := some layerCount }) else c
  | ⟨.setProducerUsage _ usage, code⟩ =>
    if code = Gralloc1Error.none then c.map ({ · with producerUsage := some usage }) else c
  | ⟨.setConsumerUsage _ usage, code⟩ =>
    if code = Gralloc1Error.none then c.map ({ · with consumerUsage := some usage }) else c
  | _ => c

/-- The device's table, cell by cell. -/
def descriptorCells : Cells Call Answer DescriptorId (Option Settings) where
  cell := DescriptorTable.cell
  change := DescriptorTable.change

theorem DescriptorTable.record_eq (s : DescriptorTable) (e : DeviceEvent) :
    s.record e = descriptorCells.record s e := by
  have hsame : ∀ d, Function.update s d (s d) = s := fun d ↦ Function.update_eq_self d s
  obtain ⟨c, x⟩ := e
  cases c
  case createDescriptor =>
    by_cases hcode : x.1 = Gralloc1Error.none
    · simp [record, Cells.record, descriptorCells, cell, change, hcode]
    · simp [record, Cells.record, descriptorCells, cell, hcode]
  case destroyDescriptor => rfl
  case setDimensions | setFormat | setLayerCount | setProducerUsage | setConsumerUsage =>
    simp only [record, Cells.record, descriptorCells, cell, change, adjust]
    split_ifs <;> first | rfl | exact (hsame _).symm
  all_goals rfl

/-- **The table after a trace** is what the trace has made of its cells. -/
theorem descriptorTable_eq (t : List DeviceEvent) :
    descriptorTable t = descriptorCells.after DescriptorTable.empty t := by
  have hrecord : DescriptorTable.record = descriptorCells.record :=
    funext fun s ↦ funext fun e ↦ s.record_eq e
  rw [descriptorTable, hrecord]
  rfl

/-- **The entry of a descriptor is changed by its holder only.** -/
theorem descriptorCells_guardedBy : descriptorCells.GuardedBy descriptorDiscipline where
  changes e d h := by
    obtain ⟨c, x⟩ := e
    cases c
    case createDescriptor => exact .inl h
    case destroyDescriptor => exact .inr (.inl h)
    case setDimensions | setFormat | setLayerCount | setProducerUsage | setConsumerUsage =>
      obtain rfl := Option.some.inj h
      exact .inr (.inr List.mem_cons_self)
    all_goals cases h
  resets e d h := by
    obtain ⟨c, x⟩ := e
    cases c
    case createDescriptor => exact ⟨h, fun _ _ ↦ rfl⟩
    all_goals cases h

/-! ### One request -/

/-- The device creates the descriptors it is asked for, and answers the setters with the codes that
`gralloc1.h` lists. -/
abbrev Granted (e : DeviceEvent) : Prop :=
  CreateSucceeds e ∧ SetUpAnswered e

namespace Allocator

theorem IsReplyCall.neutral {c : Call} (h : IsReplyCall c) : descriptorDiscipline.Neutral c := by
  cases c <;> first | exact h.elim | exact ⟨fun _ ↦ rfl, rfl, rfl⟩

theorem IsDumpCall.neutral {c : Call} (h : IsDumpCall c) : descriptorDiscipline.Neutral c := by
  cases c <;> first | exact h.elim | exact ⟨fun _ ↦ rfl, rfl, rfl⟩

end Allocator

theorem Gralloc0Hal.IsBufferCall.neutral {c : Call} (h : Gralloc0Hal.IsBufferCall c) :
    descriptorDiscipline.Neutral c := by
  cases c <;> first | exact h.elim | exact ⟨fun _ ↦ rfl, rfl, rfl⟩

namespace Allocator

variable (decode : Decoder)

/-- **One request of any kind** destroys the descriptors it creates. -/
theorem serve_destroys (mHal : Hal) (request : Request) :
    Safe (descriptorDiscipline.monitor (descriptorDiscipline.TrustedFresh Granted))
      (fun _ live ↦ live = []) [] (serve decode mHal request) := by
  have hdestroys : Safe descriptorMonitor (fun _ live ↦ live = []) []
      (serve decode mHal request) := by
    cases request with
    | dumpDebugInfo =>
      exact Discipline.safe_of_neutral
        ((dumpDebugInfo_only decode mHal).mono fun _ ↦ IsDumpCall.neutral) []
    | allocate descriptor count =>
      have hallocate : Safe descriptorMonitor (fun _ live ↦ live = []) []
          ((mHal.toAllocatorHal decode).allocateBuffers descriptor count ⟨none, []⟩) := by
        cases mHal with
        | gralloc0 hal =>
          exact Discipline.safe_of_neutral
            ((Gralloc0Hal.allocateBuffers_only decode descriptor count _).mono
              fun _ ↦ Gralloc0Hal.IsBufferCall.neutral) []
        | gralloc1 hal => exact hal.allocateBuffers_destroys decode descriptor count _
      refine hallocate.bind fun r live hlive ↦ ?_
      subst hlive
      exact Discipline.safe_of_neutral
        ((reply_only decode mHal r).mono fun _ ↦ IsReplyCall.neutral) []
  exact hdestroys.weaken (fun _ _ h ↦ h) (fun _ _ h ↦ h.1) fun _ _ ↦ rfl

variable {decode} {request : Request} {t u v : List DeviceEvent} {q : Prog Unit} {e : DeviceEvent}

/-- What comes after `allocateBuffers` sets nothing up and allocates nothing. -/
theorem IsReplyCall.unconfigured {c : Call} (h : IsReplyCall c) :
    (∀ d, c ≠ .allocate d) ∧ ¬SetsUp c := by
  cases c <;> first | exact h.elim | exact ⟨fun _ hc ↦ Call.noConfusion hc, id⟩

theorem IsDumpCall.not_allocate {c : Call} (h : IsDumpCall c) (d : DescriptorId) :
    c ≠ .allocate d := by
  cases c <;> first | exact h.elim | exact fun hc ↦ Call.noConfusion hc

/-- **A request of a gralloc1 device is ready** whenever it allocates, by its own account. -/
theorem serve_ready {hal : Gralloc1Hal} (h : Steps (serve decode (.gralloc1 hal) request) t q)
    (hanswered : ∀ e ∈ t, SetUpAnswered e) (ht : t = u ++ e :: v) {d : DescriptorId}
    (he : e.call = .allocate d) :
    ∃ descriptor count info, request = .allocate descriptor count ∧
      decode descriptor = some info ∧ hal.Ready info d u := by
  have hmem : e ∈ t := by simp [ht]
  cases request with
  | dumpDebugInfo =>
    have hdump := ((dumpDebugInfo_only decode (.gralloc1 hal)).steps h).1 e hmem
    exact absurd he (hdump.not_allocate d)
  | allocate descriptor count =>
    rcases hdecode : decode descriptor with - | info
    · have hrefused : hal.allocateBuffers decode descriptor count ⟨none, []⟩ =
          ret (.badDescriptor, ⟨none, []⟩) := by
        simp [Gralloc1Hal.allocateBuffers, hdecode]
      have honly :
          Only IsReplyCall (serve decode (.gralloc1 hal) (.allocate descriptor count)) := by
        show Only IsReplyCall (hal.allocateBuffers decode descriptor count ⟨none, []⟩ >>=
          reply ((Hal.gralloc1 hal).toAllocatorHal decode))
        rw [hrefused, ret_bind]
        exact reply_only decode (.gralloc1 hal) _
      exact absurd he (((honly.steps h).1 e hmem).unconfigured.1 d)
    · have hsafe : Safe (hal.configuredMonitor info) (fun _ _ ↦ True) []
          (serve decode (.gralloc1 hal) (.allocate descriptor count)) := by
        refine (hal.allocateBuffers_safe_configured decode hdecode count ⟨none, []⟩).bind
          fun r u _ ↦ ?_
        refine (reply_only decode (.gralloc1 hal) r).safe_of_invariant (I := fun _ ↦ True)
          (fun s c _ hc ↦ ?_) (fun _ _ _ _ _ _ ↦ trivial) trivial
        exact ⟨fun b hb ↦ absurd hb (hc.unconfigured.1 b), fun hs ↦ absurd hs hc.unconfigured.2⟩
      have haccepts := (hsafe.steps h (Monitor.assumes_of_forall _ fun _ ↦ hanswered)).1
      have hready := (Monitor.accepts_iff_throughout _).1 haccepts u e v ht
      dsimp only at hready
      rw [Monitor.history_after] at hready
      exact ⟨descriptor, count, info, rfl, hdecode, (hready.1 d he).1⟩

/-! ### Concurrent requests -/

variable {ι : Type} [DecidableEq ι]

/-- **A descriptor is configured before use in every interleaving.** Any number of requests share
one gralloc1 device, whose table each of their calls may change. The device creates every descriptor
it is asked for, under a name that is not in use, and answers the setters as `gralloc1.h` says.
Whenever a request allocates, the device has the descriptor it names, with the settings that this
very request was sent, and a layer count that the device can be asked for. -/
theorem service_configured (decode : Decoder) (hal : Gralloc1Hal) (requests : ι → Request)
    {t : List (ι × DeviceEvent)} {q : ι → Prog Unit}
    (h : Interleaved (pool decode (.gralloc1 hal) requests) t q)
    (hfresh : Throughout descriptorDiscipline.Fresh t) (hgranted : ∀ e ∈ t, Granted e.2) :
    Throughout
      (fun u e ↦ ∀ d, e.2.call = .allocate d → ∃ descriptor count info,
        requests e.1 = .allocate descriptor count ∧ decode descriptor = some info ∧
          hal.LayersAllowed info ∧
            descriptorTable (u.map Prod.snd) d = some (hal.requested info)) t := by
  rintro u ⟨i, e⟩ v rfl d he
  have hsafe := fun j ↦ serve_destroys decode (.gralloc1 hal) (requests j)
  have hown := h.own i
  obtain ⟨descriptor, count, info, hrequest, hdecode, hready⟩ := serve_ready hown
    (fun d hd ↦ (hgranted _ (mem_own_iff.1 hd)).2) (own_split i u v e) he
  refine ⟨descriptor, count, info, hrequest, hdecode, hready.layers, ?_⟩
  -- the descriptor is held by the request, so its entry is what the request has made of it
  have hheld := (h.permitted hsafe hfresh hgranted u (i, e) v rfl).2 d <| by
    show d ∈ descriptorDiscipline.uses e.call
    rw [he]
    exact List.mem_cons_self
  obtain ⟨q', k, hu, -⟩ := h.split
  have hisolated := hu.isolated descriptorCells_guardedBy hsafe
    (throughout_append_iff.1 hfresh).1 (fun d hd ↦ hgranted d (List.mem_append_left _ hd))
    DescriptorTable.empty DescriptorTable.empty hheld
  rw [descriptorTable_eq, hisolated, ← descriptorTable_eq, hready.configured]
  simp [DescriptorTable.single]

/-- The decoder of two clients, who want buffers of different widths. -/
def twoWidths : Decoder :=
  fun descriptor ↦ some ⟨if descriptor = [] then 64 else 32, 64, 1, 1, 0⟩

/-- What each of them sends. -/
def widthRequest (i : Bool) : Request :=
  .allocate (if i then [] else [1]) 1

/-- Two clients of a gralloc1 device with layered buffers. -/
def twoClients (i : Bool) : Prog Unit :=
  pool twoWidths (.gralloc1 ⟨some 1, true, fun _ ↦ true⟩) widthRequest i

/-- Both set up their descriptors in turns, and then allocate. -/
def twoConfigured : List (Bool × DeviceEvent) × (Bool → Prog Unit) :=
  runSchedule countingDevice 3 twoClients
    [true, false, true, false, false, true, true, false, true, false, true, false, false, true]

theorem countingDevice_granted (n : ℕ) (c : Call) :
    Granted ⟨c, countingDevice.answer n c⟩ := by
  cases c
  case createDescriptor => exact ⟨rfl, Gralloc1Error.none_ne_notShared⟩
  case setDimensions | setFormat | setLayerCount | setProducerUsage | setConsumerUsage =>
    exact ⟨trivial, Gralloc1Error.none_ne_notShared⟩
  all_goals exact ⟨trivial, trivial⟩

theorem service_configured_two :
    Throughout
      (fun u e ↦ ∀ d, e.2.call = .allocate d → ∃ descriptor count info,
        widthRequest e.1 = .allocate descriptor count ∧ twoWidths descriptor = some info ∧
          Gralloc1Hal.LayersAllowed ⟨some 1, true, fun _ ↦ true⟩ info ∧
            descriptorTable (u.map Prod.snd) d =
              some (Gralloc1Hal.requested ⟨some 1, true, fun _ ↦ true⟩ info)) twoConfigured.1 :=
  service_configured twoWidths ⟨some 1, true, fun _ ↦ true⟩ widthRequest
    (interleaved_runSchedule _ _ _ _) (by decide)
    (forall_mem_runSchedule countingDevice_granted _ _ _)

/-- **A refused request destroys a descriptor of another.** The first client has created descriptor
7; the second is refused one, and its unwritten variable happens to hold 7 as well. When the first
allocates with the descriptor it has set up, the device does not have it any more. -/
theorem refused_destroys_foreign :
    ∃ (t : List (Bool × DeviceEvent)) (q : Bool → Prog Unit), Interleaved twoClients t q ∧
      Throughout descriptorDiscipline.Fresh t ∧ (∀ e ∈ t, SetUpAnswered e.2) ∧
        ∃ u x, t = u ++ [(true, ⟨.allocate 7, x⟩)] ∧ descriptorTable (u.map Prod.snd) 7 = none := by
  have h := (Interleaved.nil (p := twoClients)).snoc (i := true) (c := .createDescriptor) rfl
    (Gralloc1Error.none, 7)
  have h := h.snoc (i := false) (c := .createDescriptor) rfl (Gralloc1Error.noResources, 0)
  have h := h.snoc (i := false) (c := .unwrittenDescriptor) rfl (7 : UInt64)
  have h := h.snoc (i := false) (c := .destroyDescriptor 7) rfl Gralloc1Error.none
  have h := h.snoc (i := true) (c := .setDimensions 7 64 64) rfl Gralloc1Error.none
  have h := h.snoc (i := true) (c := .setFormat 7 1) rfl Gralloc1Error.none
  have h := h.snoc (i := true) (c := .setLayerCount 7 1) rfl Gralloc1Error.none
  have h := h.snoc (i := true) (c := .setProducerUsage 7 0) rfl Gralloc1Error.none
  have h := h.snoc (i := true) (c := .setConsumerUsage 7 0) rfl Gralloc1Error.none
  have h := h.snoc (i := true) (c := .allocate 7) rfl (Gralloc1Error.noResources, 0)
  exact ⟨_, _, h, by decide, by decide, _, _, rfl, rfl⟩

end Allocator

/-! ### The other back end

A gralloc0 device keeps no descriptors: a request is in the arguments of the call, which are
narrower than what a client may ask for. -/

namespace Gralloc0Hal

/-- The whole request can be read back from the arguments of `alloc`. -/
def AsksFor (info : BufferDescriptorInfo) : Call → Prop
  | .alloc w h format usage =>
    w.toUInt32 = info.width ∧ h.toUInt32 = info.height ∧ format = info.format ∧
      usage.toUInt32.toUInt64 = info.usage ∧ info.layerCount ≤ 1
  | _ => True

/-- A usage whose high half is empty survives the conversion to an `int`. -/
theorem toUInt64_toInt32_usage {usage : UInt64} (h : usage >>> 32 = 0) :
    usage.toUInt32.toInt32.toUInt32.toUInt64 = usage := by
  have hhigh := congrArg UInt64.toNat h
  rw [UInt32.toUInt32_toInt32]
  apply UInt64.toNat_inj.1
  simp at hhigh ⊢
  omega

theorem allocateOneBuffer_asksFor (info : BufferDescriptorInfo) :
    Only (AsksFor info) (allocateOneBuffer info) := by
  by_cases h : Unsupported info
  · rw [allocateOneBuffer, if_pos h]
    trivial
  · rw [allocateOneBuffer_eq h]
    obtain ⟨hlayers, husage⟩ := not_or.1 h
    refine ⟨⟨UInt32.toUInt32_toInt32 _, UInt32.toUInt32_toInt32 _, rfl,
      toUInt64_toInt32_usage (not_not.1 husage), UInt32.not_lt.1 hlayers⟩, fun x ↦ ?_⟩
    dsimp only
    split_ifs <;> trivial

theorem allocateBuffers_asksFor {decode : Decoder} {descriptor : BufferDescriptor}
    {info : BufferDescriptorInfo} (hdecode : decode descriptor = some info) (count : UInt32)
    (out : Out) : Only (AsksFor info) (allocateBuffers decode descriptor count out) := by
  unfold allocateBuffers
  rw [hdecode]
  refine (AllocatorHal.allocateLoop_only (P := AsksFor info) (allocateOneBuffer_asksFor info)
    trivial trivial _ _ _).bind fun ⟨error, stride, buffers⟩ ↦ ?_
  dsimp only
  split
  · refine Only.bind (AllocatorHal.freeLoop_only (fun b ↦ ?_) buffers) fun _ ↦ trivial
    exact ⟨trivial, fun _ ↦ trivial⟩
  · trivial

end Gralloc0Hal

namespace Allocator

/-- What a request on a gralloc0 device may call. -/
theorem serve_asksFor (decode : Decoder) (hal : Gralloc0Hal) (request : Request) :
    Only
      (fun c ↦ ∀ w h format usage, c = .alloc w h format usage → ∃ descriptor count info,
        request = .allocate descriptor count ∧ decode descriptor = some info ∧
          Gralloc0Hal.AsksFor info c)
      (serve decode (.gralloc0 hal) request) := by
  cases request with
  | dumpDebugInfo =>
    refine (dumpDebugInfo_only decode (.gralloc0 hal)).mono fun c hc w h format usage heq ↦ ?_
    subst heq
    exact hc.elim
  | allocate descriptor count =>
    have hreply : ∀ r : Error × Out, Only _ (reply ((Hal.gralloc0 hal).toAllocatorHal decode) r) :=
      reply_only decode (.gralloc0 hal)
    refine Only.bind ?_ fun r ↦ (hreply r).mono fun c hc w h format usage heq ↦ ?_
    · rcases hdecode : decode descriptor with - | info
      · show Only _ (Gralloc0Hal.allocateBuffers decode descriptor count ⟨none, []⟩)
        rw [Gralloc0Hal.allocateBuffers, hdecode]
        trivial
      · exact (Gralloc0Hal.allocateBuffers_asksFor hdecode count ⟨none, []⟩).mono
          fun c hc _ _ _ _ _ ↦ ⟨descriptor, count, info, rfl, hdecode, hc⟩
    · subst heq
      exact hc.elim

variable {ι : Type} [DecidableEq ι]

/-- **A gralloc0 device is asked for exactly what the client wants**, in every interleaving and
whatever it answers: no bit of the request is lost on the way into the narrower arguments, and a
request that would not fit never reaches the device. -/
theorem service_asksFor (decode : Decoder) (hal : Gralloc0Hal) (requests : ι → Request)
    {t : List (ι × DeviceEvent)} {q : ι → Prog Unit}
    (h : Interleaved (pool decode (.gralloc0 hal) requests) t q) :
    ∀ e ∈ t, ∀ width height format usage, e.2.call = .alloc width height format usage →
      ∃ descriptor count info, requests e.1 = .allocate descriptor count ∧
        decode descriptor = some info ∧ width.toUInt32 = info.width ∧
          height.toUInt32 = info.height ∧ format = info.format ∧
            usage.toUInt32.toUInt64 = info.usage ∧ info.layerCount ≤ 1 := by
  rintro ⟨i, e⟩ he width height format usage hcall
  have honly := ((serve_asksFor decode hal (requests i)).steps (h.own i)).1 e (mem_own_iff.2 he)
  obtain ⟨descriptor, count, info, hrequest, hdecode, hasks⟩ :=
    honly width height format usage hcall
  have hcall : e.call = .alloc width height format usage := hcall
  rw [hcall] at hasks
  exact ⟨descriptor, count, info, hrequest, hdecode, hasks⟩

/-- A usage with the top bit of its low half, which is negative as an `int`. -/
def wideUsage : Decoder :=
  fun _ ↦ some ⟨64, 64, 1, 1, 0x80000000⟩

/-- Two clients of a gralloc0 device ask for such a buffer, one call each in turns. -/
def wideServed : List (Bool × DeviceEvent) :=
  (runSchedule countingDevice 1
    (pool wideUsage (.gralloc0 ⟨some 1, true⟩) fun _ ↦ .allocate [] 1)
    [true, false, true, false, true, false]).1

theorem service_asksFor_wide :
    (false, ⟨.alloc 64 64 1 (-0x80000000), (0, 2, 64)⟩) ∈ wideServed ∧
      ∀ e ∈ wideServed, ∀ width height format usage, e.2.call = .alloc width height format usage →
        ∃ descriptor count info, Request.allocate [] 1 = .allocate descriptor count ∧
          wideUsage descriptor = some info ∧ width.toUInt32 = info.width ∧
            height.toUInt32 = info.height ∧ format = info.format ∧
              usage.toUInt32.toUInt64 = info.usage ∧ info.layerCount ≤ 1 :=
  ⟨.tail _ (.head _), service_asksFor _ _ (fun _ ↦ .allocate [] 1)
    (interleaved_runSchedule _ _ _ _)⟩

end Allocator

end XenvmHal
