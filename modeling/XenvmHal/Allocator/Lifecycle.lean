import XenvmHal.Allocator.GrallocLoader
import XenvmHal.Interaction.Monitor

/-!
# The life of the device

From the loader to the destructor of the allocator: which devices are opened and closed, and which
entries of the dispatch table are called.

A `Vendor` is the module that the platform provides. `deviceState` is what a trace says about the
device so far, and `Permitted` which calls may be made then: nothing at all once a device is
closed, no device call before one is open, no call to a function that the device was not found to
have. What the HAL object itself holds is another matter: `Hal.HasEntry` says that the pointer a
call goes through is not null in `mDispatch`. The loader makes the two agree (`Loaded`), entry by
entry, and every request served by a loaded HAL stays within its `Serving` state. That is where the
flag `layeredBuffers` computed at start-up meets the branch taken in every later request.
-/

namespace XenvmHal

open Interaction Program

/-! ### The vendor's module -/

/-- What the platform provides. -/
structure Vendor where
  /-- The result of looking the module up, and its version word. -/
  module : Int32 × UInt16
  /-- The result of opening a gralloc1 device. -/
  gralloc1 : Int32 × Device
  /-- The result of opening a gralloc0 device, and whether it can dump. -/
  gralloc0 : Int32 × Device × Bool
  /-- The capabilities a gralloc1 device reports. -/
  capabilities : List Int32
  capabilities_lt : capabilities.length < UInt32.size
  /-- The functions a gralloc1 device has. -/
  functions : Gralloc1Function → Bool

namespace Vendor

variable (v : Vendor)

/-- The module answers as described. Asked without an array, `getCapabilities` tells the number
of capabilities; asked with one, it fills it in. -/
def Answers : DeviceEvent → Prop
  | ⟨.hwGetModule, x⟩ => x = v.module
  | ⟨.gralloc1Open, x⟩ => x = v.gralloc1
  | ⟨.grallocOpen, x⟩ => x = v.gralloc0
  | ⟨.getCapabilities none, x⟩ => x.1 = v.capabilities.length.toUInt32
  | ⟨.getCapabilities (some _), x⟩ => x = (v.capabilities.length.toUInt32, v.capabilities)
  | ⟨.getFunction desc, x⟩ => x = v.functions desc
  | _ => True

/-- The module as an environment; every request to the device succeeds. -/
def handler : Handler Call Answer Unit where
  answer _
    | .hwGetModule => v.module
    | .gralloc1Open => v.gralloc1
    | .grallocOpen => v.gralloc0
    | .getCapabilities none => (v.capabilities.length.toUInt32, [])
    | .getCapabilities (some _) => (v.capabilities.length.toUInt32, v.capabilities)
    | .getFunction desc => v.functions desc
    | _ => default
  next _ _ := ()

theorem handler_answers (u : Unit) (c : Call) :
    v.Answers ⟨c, v.handler.answer u c⟩ := by
  cases c
  case getCapabilities room => cases room <;> rfl
  all_goals first | rfl | trivial

/-- The major version is the high byte of the version word. -/
def majorVersion : ℕ :=
  v.module.2.toNat / 256

/-- The functions a device must have: setting layer counts only if it reports layered buffers. -/
def Required (desc : Gralloc1Function) : Prop :=
  desc = .setLayerCount → Gralloc1Hal.capabilityLayeredBuffers ∈ v.capabilities

/-- No allocator can be loaded. -/
def Unloadable : Prop :=
  v.module.1 ≠ 0 ∨ (v.majorVersion ≠ 0 ∧ v.majorVersion ≠ 1) ∨
    (v.majorVersion = 1 ∧
      (v.gralloc1.1 ≠ 0 ∨ ∃ desc, v.Required desc ∧ v.functions desc = false)) ∨
    (v.majorVersion = 0 ∧ v.gralloc0.1 ≠ 0)

end Vendor

/-! ### What a trace says about the device -/

/-- The devices opened and closed, and what was looked up. -/
structure DeviceState where
  opens : List Device
  closes : List Device
  /-- The dispatch entries that are not null. -/
  found : Gralloc1Function → Bool
  /-- Whether the gralloc0 device can dump. -/
  dump : Bool

namespace DeviceState

/-- Nothing was opened. -/
def init : DeviceState := ⟨[], [], fun _ ↦ false, false⟩

/-- Enter one event. -/
def record (s : DeviceState) : DeviceEvent → DeviceState
  | ⟨.gralloc1Open, (result, device)⟩ =>
    if result = 0 then { s with opens := s.opens ++ [device] } else s
  | ⟨.grallocOpen, (result, device, hasDump)⟩ =>
    if result = 0 then { s with opens := s.opens ++ [device], dump := hasDump } else s
  | ⟨.gralloc1Close device, _⟩ | ⟨.grallocClose device, _⟩ =>
    { s with closes := s.closes ++ [device] }
  | ⟨.getFunction desc, pfn⟩ =>
    if pfn then { s with found := Function.update s.found desc true } else s
  | _ => s

end DeviceState

/-- What a trace says about the device. -/
def deviceState (t : List DeviceEvent) : DeviceState :=
  t.foldl DeviceState.record DeviceState.init

/-- The dispatch entry that a call goes through. -/
def dispatched : Call → Option Gralloc1Function
  | .createDescriptor => some .createDescriptor
  | .destroyDescriptor _ => some .destroyDescriptor
  | .setDimensions _ _ _ => some .setDimensions
  | .setFormat _ _ => some .setFormat
  | .setLayerCount _ _ => some .setLayerCount
  | .setProducerUsage _ _ => some .setProducerUsage
  | .setConsumerUsage _ _ => some .setConsumerUsage
  | .allocate _ => some .allocate
  | .getStride _ => some .getStride
  | .release _ => some .release
  | .dump _ _ => some .dump
  | _ => none

/-- **The pointer that a call goes through** is not null in the HAL object: an entry of `mDispatch`,
which only a gralloc1 HAL has, or the optional `dump` of a gralloc0 device. -/
structure Hal.HasEntry (mHal : Hal) (c : Call) : Prop where
  dispatch : ∀ desc, dispatched c = some desc →
    ∃ hal, mHal = .gralloc1 hal ∧ hal.mDispatch desc = true
  dump : ∀ room, c = .dump0 room → ∃ hal, mHal = .gralloc0 hal ∧ hal.hasDump = true

/-- The device a call closes. -/
def closed : Call → Option Device
  | .gralloc1Close device | .grallocClose device => some device
  | _ => none

/-- The calls that go to an open device, other than through the dispatch table. -/
def IsDirect : Call → Prop
  | .getCapabilities _ | .getFunction _ | .alloc _ _ _ _ | .free _ | .dump0 _ => True
  | _ => False

/-- **The calls that may be made.** -/
structure Permitted (s : DeviceState) (c : Call) : Prop where
  /-- Closing a device is the last thing that happens. -/
  not_closed : s.closes = []
  /-- Only the open device is closed. -/
  closes_open : ∀ device, closed c = some device → s.opens = [device]
  /-- No function is called that was not looked up and found. -/
  not_null : ∀ desc, dispatched c = some desc → s.opens ≠ [] ∧ s.found desc = true
  /-- No device is called before it is open. -/
  is_open : IsDirect c → s.opens ≠ []
  /-- The optional entry of a gralloc0 device is called only if it is there. -/
  can_dump : ∀ room, c = .dump0 room → s.dump = true
  /-- One device is opened at most. -/
  opens_once : c = .gralloc1Open ∨ c = .grallocOpen → s.opens = []

/-- The monitor of an allocator on the vendor's module. -/
abbrev deviceMonitor (v : Vendor) : Monitor Call Answer DeviceState where
  pre := Permitted
  assume _ e := v.Answers e
  next := DeviceState.record

variable {v : Vendor} {s : DeviceState} {d : Device}

/-! ### Serving requests -/

/-- A permitted call through a pointer that the HAL has, which changes nothing. -/
structure Serving (mHal : Hal) (s : DeviceState) (c : Call) : Prop where
  permitted : Permitted s c
  silent : ∀ x, s.record ⟨c, x⟩ = s
  entry : mHal.HasEntry c

theorem safe_of_serving {α : Type} {p : Prog α} {mHal : Hal} (h : Only (Serving mHal s) p) :
    Safe (deviceMonitor v) (fun _ s' ↦ s' = s) s p :=
  h.safe (fun _ hc ↦ hc.permitted) fun _ x hc ↦ hc.silent x

/-- What a loaded HAL knows of its device: its pointers are those that were found, and those that
requests go through are among them. -/
def Loaded : Hal → DeviceState → Prop
  | .gralloc0 hal, s => ∃ d, hal.mDevice = some d ∧ s.opens = [d] ∧ s.closes = [] ∧
      hal.hasDump = s.dump
  | .gralloc1 hal, s => ∃ d, hal.mDevice = some d ∧ s.opens = [d] ∧ s.closes = [] ∧
      hal.mDispatch = s.found ∧
      ∀ desc, (desc = .setLayerCount → hal.layeredBuffers = true) → hal.mDispatch desc = true

/-- A call to the client, a read of an unwritten variable or a write out of bounds: no device is
involved. -/
def IsSilent : Call → Prop
  | .hidlCb _ _ _ | .dumpCb _ | .unwrittenHandle | .unwrittenStride | .unwrittenDescriptor
  | .outOfBounds => True
  | _ => False

theorem IsSilent.serving {c : Call} {mHal : Hal} (h : IsSilent c) (hcloses : s.closes = []) :
    Serving mHal s c := by
  cases c <;> first
    | exact h.elim
    | exact ⟨⟨hcloses, nofun, nofun, False.elim, nofun, nofun⟩, fun _ ↦ rfl, nofun, nofun⟩

/-- A call to a function that was found, on an open device. -/
theorem permitted_of_dispatched {c : Call} {desc : Gralloc1Function} (hopens : s.opens = [d])
    (hcloses : s.closes = []) (hc : dispatched c = some desc) (hfound : s.found desc = true) :
    Permitted s c where
  not_closed := hcloses
  closes_open := by cases c <;> simp [dispatched, closed] at hc ⊢
  not_null := by
    rintro desc' h
    obtain rfl : desc = desc' := Option.some.inj (hc.symm.trans h)
    exact ⟨by simp [hopens], hfound⟩
  is_open := fun _ ↦ by simp [hopens]
  can_dump := by
    rintro room rfl
    simp [dispatched] at hc
  opens_once := by rintro (rfl | rfl) <;> simp [dispatched] at hc

theorem hasEntry_of_dispatched {hal : Gralloc1Hal} {c : Call} {desc : Gralloc1Function}
    (hc : dispatched c = some desc) (hentry : hal.mDispatch desc = true) :
    (Hal.gralloc1 hal).HasEntry c where
  dispatch := by
    rintro desc' h
    obtain rfl : desc = desc' := Option.some.inj (hc.symm.trans h)
    exact ⟨hal, rfl, hentry⟩
  dump := by
    rintro room rfl
    simp [dispatched] at hc

/-- **A call through the dispatch table** of a loaded HAL. Its entry is what was found, so it is
the same table that the trace speaks of. -/
theorem serving_of_dispatched {hal : Gralloc1Hal} (hs : Loaded (.gralloc1 hal) s) {c : Call}
    {desc : Gralloc1Function} (hc : dispatched c = some desc)
    (hdesc : desc = .setLayerCount → hal.layeredBuffers = true) : Serving (.gralloc1 hal) s c := by
  obtain ⟨d, -, hopens, hcloses, hsame, hentries⟩ := hs
  have hentry : hal.mDispatch desc = true := hentries desc hdesc
  exact
    { permitted := permitted_of_dispatched hopens hcloses hc (hsame ▸ hentry)
      silent := fun x ↦ by cases c <;> first | rfl | simp [dispatched] at hc
      entry := hasEntry_of_dispatched hc hentry }

theorem Loaded.not_closed {mHal : Hal} (hs : Loaded mHal s) : s.closes = [] := by
  cases mHal with
  | gralloc0 hal => exact hs.choose_spec.2.2.1
  | gralloc1 hal => exact hs.choose_spec.2.2.1

namespace Gralloc1Hal

variable {hal : Gralloc1Hal}

theorem IsConfigure.serving {c : Call} (h : IsConfigure hal.layeredBuffers c)
    (hs : Loaded (.gralloc1 hal) s) : Serving (.gralloc1 hal) s c := by
  cases c
  case setLayerCount => exact serving_of_dispatched hs rfl fun _ ↦ h
  case unwrittenDescriptor => exact IsSilent.serving trivial hs.not_closed
  all_goals first
    | exact h.elim
    | exact serving_of_dispatched hs rfl nofun

theorem IsBufferCall.serving {c : Call} (h : IsBufferCall c) (hs : Loaded (.gralloc1 hal) s) :
    Serving (.gralloc1 hal) s c := by
  cases c
  case unwrittenDescriptor | unwrittenHandle | unwrittenStride =>
    exact IsSilent.serving trivial hs.not_closed
  all_goals first
    | exact h.elim
    | exact serving_of_dispatched hs rfl nofun

theorem allocateBuffers_serving (hs : Loaded (.gralloc1 hal) s) (decode : Decoder)
    (descriptor : BufferDescriptor) (count : UInt32) (out : Out) :
    Only (Serving (.gralloc1 hal) s) (hal.allocateBuffers decode descriptor count out) := by
  refine (hal.allocateBuffers_only decode descriptor count out).mono fun c hc ↦ ?_
  rcases hc with (rfl | hc) | hc
  · exact serving_of_dispatched hs rfl nofun
  · exact hc.serving hs
  · exact hc.serving hs

theorem dumpDebugInfo_serving (hs : Loaded (.gralloc1 hal) s) :
    Only (Serving (.gralloc1 hal) s) dumpDebugInfo := by
  have hdump : ∀ len room, Serving (.gralloc1 hal) s (.dump len room) := fun len room ↦
    serving_of_dispatched hs rfl nofun
  refine ⟨hdump _ _, fun x ↦ ⟨hdump _ _, fun y ↦ ?_⟩⟩
  simp only [Program.bind]
  split
  · trivial
  · exact ⟨IsSilent.serving trivial hs.not_closed, fun _ ↦ trivial⟩

end Gralloc1Hal

namespace Gralloc0Hal

variable {hal : Gralloc0Hal}

theorem IsBufferCall.serving {c : Call} (h : IsBufferCall c) (hs : Loaded (.gralloc0 hal) s) :
    Serving (.gralloc0 hal) s c := by
  obtain ⟨d, -, hopens, hcloses, -⟩ := hs
  have hne : s.opens ≠ [] := by simp [hopens]
  cases c
  case unwrittenHandle | unwrittenStride => exact IsSilent.serving trivial hcloses
  all_goals first
    | exact h.elim
    | exact ⟨⟨hcloses, nofun, nofun, fun _ ↦ hne, nofun, nofun⟩, fun _ ↦ rfl, nofun, nofun⟩

theorem dumpDebugInfo_serving (hs : Loaded (.gralloc0 hal) s) :
    Only (Serving (.gralloc0 hal) s) hal.dumpDebugInfo := by
  obtain ⟨d, -, hopens, hcloses, hdump⟩ := hs
  have hne : s.opens ≠ [] := by simp [hopens]
  unfold dumpDebugInfo
  dsimp only
  split
  · rename_i hhas
    refine ⟨⟨⟨hcloses, nofun, nofun, fun _ ↦ hne, fun _ _ ↦ hdump ▸ hhas, nofun⟩, fun _ ↦ rfl, ?_⟩,
      fun _ ↦ trivial⟩
    exact ⟨nofun, fun _ _ ↦ ⟨hal, rfl, hhas⟩⟩
  · trivial

end Gralloc0Hal

namespace Allocator

/-- What serving needs of the interface. -/
theorem allocate_serving {mHal : Hal} {hal : AllocatorHal} {descriptor : BufferDescriptor}
    {count : UInt32} (hcloses : s.closes = [])
    (hallocate : Only (Serving mHal s) (hal.allocateBuffers descriptor count ⟨none, []⟩))
    (hfree : ∀ buffers, Only (Serving mHal s) (hal.freeBuffers buffers)) :
    Only (Serving mHal s) (allocate hal descriptor count) := by
  refine hallocate.bind fun ⟨error, out⟩ ↦ ?_
  dsimp only
  split
  · exact ⟨IsSilent.serving trivial hcloses, fun _ ↦ trivial⟩
  · have hstride : Only (Serving mHal s) (readStride out.stride) := by
      cases out.stride with
      | none => exact ⟨IsSilent.serving trivial hcloses, fun _ ↦ trivial⟩
      | some stride => trivial
    exact hstride.bind fun stride ↦ ⟨IsSilent.serving trivial hcloses, fun _ ↦ hfree _⟩

theorem dumpDebugInfo_serving {mHal : Hal} {hal : AllocatorHal} (hcloses : s.closes = [])
    (hdump : Only (Serving mHal s) hal.dumpDebugInfo) :
    Only (Serving mHal s) (dumpDebugInfo hal) :=
  hdump.bind fun _ ↦ ⟨IsSilent.serving trivial hcloses, fun _ ↦ trivial⟩

/-- **Every request** to a loaded allocator makes permitted calls, through pointers that the HAL
has, and leaves the device as it is. -/
theorem serve_serving {mHal : Hal} (hs : Loaded mHal s) (decode : Decoder) (request : Request) :
    Only (Serving mHal s) (serve decode mHal request) := by
  have hcloses := hs.not_closed
  cases mHal with
  | gralloc0 hal =>
    cases request with
    | allocate descriptor count =>
      exact allocate_serving hcloses
        ((Gralloc0Hal.allocateBuffers_only decode descriptor count _).mono fun _ h ↦ h.serving hs)
        fun buffers ↦ (Gralloc0Hal.freeBuffers_only buffers).mono fun _ h ↦ h.serving hs
    | dumpDebugInfo => exact dumpDebugInfo_serving hcloses (Gralloc0Hal.dumpDebugInfo_serving hs)
  | gralloc1 hal =>
    cases request with
    | allocate descriptor count =>
      exact allocate_serving hcloses (Gralloc1Hal.allocateBuffers_serving hs decode descriptor
        count _) fun buffers ↦ (Gralloc1Hal.freeBuffers_only buffers).mono fun _ h ↦ h.serving hs
    | dumpDebugInfo => exact dumpDebugInfo_serving hcloses (Gralloc1Hal.dumpDebugInfo_serving hs)

theorem serveAll_serving {mHal : Hal} (hs : Loaded mHal s) (decode : Decoder)
    (requests : List Request) : Only (Serving mHal s) (serveAll decode mHal requests) := by
  induction requests with
  | nil => trivial
  | cons request requests ih => exact (serve_serving hs decode request).bind fun _ ↦ ih

end Allocator

/-! ### Loading -/

/-- Closing the open device is permitted. -/
theorem permitted_close {c : Call} (hclosed : closed c = some d) (hopens : s.opens = [d])
    (hcloses : s.closes = []) : Permitted s c where
  not_closed := hcloses
  closes_open device hdevice := by
    rw [hopens, ← Option.some.inj (hclosed.symm.trans hdevice)]
  not_null desc hdesc := by cases c <;> first | cases hclosed; done | cases hdesc
  is_open _ := by
    rw [hopens]
    exact List.cons_ne_nil d []
  can_dump room hroom := by
    subst hroom
    cases hclosed
  opens_once hopened := by rcases hopened with rfl | rfl <;> cases hclosed

namespace Gralloc1Hal

/-- A look-up step with its result, whether all was found and the new table: entries are only
added, and the table holds what was found. -/
structure LookedUp (v : Vendor) (descs : List Gralloc1Function) (s : DeviceState)
    (r : Bool × (Gralloc1Function → Bool)) (s' : DeviceState) : Prop where
  frame : s' = { s with found := s'.found }
  stored : r.2 = s'.found
  kept : ∀ desc, s.found desc = true → s'.found desc = true
  added : r.1 = true → ∀ desc ∈ descs, s'.found desc = true
  found_iff : r.1 = true ↔ ∀ desc ∈ descs, v.functions desc = true

theorem LookedUp.trans {descs descs' : List Gralloc1Function} {s₁ s' : DeviceState}
    {mDispatch : Gralloc1Function → Bool} {r : Bool × (Gralloc1Function → Bool)}
    (h₁ : LookedUp v descs s (true, mDispatch) s₁) (h : LookedUp v descs' s₁ r s') :
    LookedUp v (descs ++ descs') s r s' where
  frame := by rw [h.frame, h₁.frame]
  stored := h.stored
  kept desc hdesc := h.kept desc (h₁.kept desc hdesc)
  added hfound desc hmem := by
    rcases List.mem_append.1 hmem with hmem | hmem
    · exact h.kept desc (h₁.added rfl desc hmem)
    · exact h.added hfound desc hmem
  found_iff := by
    rw [h.found_iff, List.forall_mem_append]
    exact (and_iff_right (h₁.found_iff.1 rfl)).symm

theorem LookedUp.stop {descs : List Gralloc1Function} {s₁ : DeviceState}
    {mDispatch : Gralloc1Function → Bool} (h₁ : LookedUp v descs s (false, mDispatch) s₁)
    (descs' : List Gralloc1Function) : LookedUp v (descs ++ descs') s (false, mDispatch) s₁ where
  frame := h₁.frame
  stored := h₁.stored
  kept := h₁.kept
  added := nofun
  found_iff := by
    rw [List.forall_mem_append]
    exact ⟨nofun, fun h ↦ h₁.found_iff.2 h.1⟩

/-- **One look-up** stores what it finds. -/
theorem initDispatch₁_lookedUp {mDispatch : Gralloc1Function → Bool} (hstored : mDispatch = s.found)
    (desc : Gralloc1Function) (hopens : s.opens = [d]) (hcloses : s.closes = []) :
    Safe (deviceMonitor v) (LookedUp v [desc] s) s (initDispatch₁ mDispatch desc) := by
  have hne : s.opens ≠ [] := by simp [hopens]
  refine ⟨⟨hcloses, nofun, nofun, fun _ ↦ hne, nofun, nofun⟩, fun pfn hpfn ↦ ?_⟩
  obtain rfl : pfn = v.functions desc := hpfn
  have hkept : ∀ desc', s.found desc' = true →
      Function.update s.found desc true desc' = true := by
    intro desc' h
    by_cases hdesc : desc' = desc
    · rw [hdesc, Function.update_self]
    · rwa [Function.update_of_ne hdesc]
  simp only [Program.bind]
  split
  · rename_i hhas
    refine ⟨?_, ?_, ?_, ?_, ?_⟩ <;> simp only [DeviceState.record, if_pos hhas]
    · rw [hstored]
    · exact hkept
    · simp
    · simpa using hhas
  · rename_i hhas
    refine ⟨?_, ?_, ?_, ?_, ?_⟩ <;> simp [DeviceState.record, hhas, hstored]

theorem initDispatchAll_lookedUp {mDispatch : Gralloc1Function → Bool}
    (hstored : mDispatch = s.found) (descs : List Gralloc1Function) (hopens : s.opens = [d])
    (hcloses : s.closes = []) :
    Safe (deviceMonitor v) (LookedUp v descs s) s (initDispatchAll mDispatch descs) := by
  induction descs generalizing s mDispatch with
  | nil => exact ⟨rfl, hstored, fun _ ↦ id, nofun, by simp⟩
  | cons desc descs ih =>
    refine (initDispatch₁_lookedUp hstored desc hopens hcloses).bind
      fun ⟨found, mDispatch⟩ s₁ h₁ ↦ ?_
    cases found with
    | false => exact h₁.stop descs
    | true =>
      have hopens₁ : s₁.opens = [d] := by rw [h₁.frame]; exact hopens
      have hcloses₁ : s₁.closes = [] := by rw [h₁.frame]; exact hcloses
      exact (ih h₁.stored hopens₁ hcloses₁).mono fun r s' ↦ h₁.trans

/-- The functions that the two look-up phases ask for. -/
theorem mem_lookedUp_iff (layered : Bool) (desc : Gralloc1Function) :
    desc ∈ requiredFunctions ++ (if layered then [.setLayerCount] else []) ↔
      (desc = .setLayerCount → layered = true) := by
  cases desc <;> cases layered <;> simp [requiredFunctions]

theorem initDispatch_lookedUp (layered : Bool) (hopens : s.opens = [d]) (hcloses : s.closes = [])
    (hnothing : s.found = fun _ ↦ false) :
    Safe (deviceMonitor v)
      (LookedUp v (requiredFunctions ++ if layered then [.setLayerCount] else []) s) s
      (initDispatch layered) := by
  refine (initDispatchAll_lookedUp hnothing.symm requiredFunctions hopens hcloses).bind
    fun ⟨found, mDispatch⟩ s₁ h₁ ↦ ?_
  cases found with
  | false => exact h₁.stop _
  | true =>
    have hopens₁ : s₁.opens = [d] := by rw [h₁.frame]; exact hopens
    have hcloses₁ : s₁.closes = [] := by rw [h₁.frame]; exact hcloses
    cases layered with
    | false => simpa using h₁
    | true =>
      exact (initDispatch₁_lookedUp h₁.stored .setLayerCount hopens₁ hcloses₁).mono
        fun r s' ↦ h₁.trans

/-- **The capability flag** is what the device reports. -/
theorem initCapabilities_reports (hopens : s.opens = [d]) (hcloses : s.closes = []) :
    Safe (deviceMonitor v)
      (fun r s' ↦ (r = true ↔ capabilityLayeredBuffers ∈ v.capabilities) ∧ s' = s) s
      initCapabilities := by
  have hne : s.opens ≠ [] := by simp [hopens]
  have hpre : ∀ room, Permitted s (.getCapabilities room) := fun _ ↦
    ⟨hcloses, nofun, nofun, fun _ ↦ hne, nofun, nofun⟩
  refine ⟨hpre none, fun x hx ↦ ⟨hpre _, fun y hy ↦ ⟨?_, rfl⟩⟩⟩
  have hcount : v.capabilities.length.toUInt32.toNat = v.capabilities.length :=
    UInt32.toNat_ofNat_of_lt' v.capabilities_lt
  obtain rfl : y = (v.capabilities.length.toUInt32, v.capabilities) := hy
  have hx : x.1 = v.capabilities.length.toUInt32 := hx
  simp [hx, hcount, fillFront, resize]

/-- A failed initialisation has closed what it opened, a successful one knows its device. -/
theorem initWithModule_loads :
    Safe (deviceMonitor v)
      (fun r s ↦
        (r.1 = true ↔ v.gralloc1.1 = 0 ∧ ∀ desc, v.Required desc → v.functions desc = true) ∧
          (r.1 = true → Loaded (.gralloc1 r.2) s) ∧
          (r.1 = false → r.2.mDevice = none ∧ s.closes = s.opens ∧ s.opens.length ≤ 1))
      DeviceState.init initWithModule := by
  refine ⟨⟨rfl, nofun, nofun, False.elim, nofun, fun _ ↦ rfl⟩, fun x hx ↦ ?_⟩
  obtain rfl : x = v.gralloc1 := hx
  simp only [Program.bind]
  split
  · rename_i hresult
    refine ⟨⟨fun h ↦ Bool.noConfusion h, fun h ↦ absurd h.1 hresult⟩, fun h ↦ Bool.noConfusion h,
      fun _ ↦ ?_⟩
    simp [DeviceState.record, DeviceState.init, hresult]
  · rename_i hresult
    have hopen : DeviceState.init.record ⟨.gralloc1Open, v.gralloc1⟩ =
        { DeviceState.init with opens := [v.gralloc1.2] } := if_pos (not_not.1 hresult)
    rw [hopen]
    refine (initCapabilities_reports rfl rfl).bind ?_
    rintro layered _ ⟨hlayered, rfl⟩
    refine (initDispatch_lookedUp layered rfl rfl rfl).bind ?_
    rintro ⟨found, mDispatch⟩ s h
    have hneeded : ∀ desc, desc ∈ requiredFunctions ++ (if layered then [.setLayerCount] else []) ↔
        v.Required desc := by
      intro desc
      rw [mem_lookedUp_iff, hlayered]
      rfl
    have hfound : found = true ↔ ∀ desc, v.Required desc → v.functions desc = true := by
      rw [h.found_iff]
      exact forall_congr' fun desc ↦ by rw [hneeded]
    have hframe := h.frame
    cases found with
    | true =>
      refine ⟨⟨fun _ ↦ ⟨not_not.1 hresult, hfound.1 rfl⟩, fun _ ↦ rfl⟩, fun _ ↦ ?_,
        fun h ↦ Bool.noConfusion h⟩
      refine ⟨v.gralloc1.2, rfl, by rw [hframe], by rw [hframe]; rfl, h.stored, fun desc hdesc ↦ ?_⟩
      rw [show mDispatch = s.found from h.stored]
      exact h.added rfl desc ((mem_lookedUp_iff layered desc).2 hdesc)
    | false =>
      have hopens : s.opens = [v.gralloc1.2] := by rw [hframe]
      have hcloses : s.closes = [] := by rw [hframe]; rfl
      refine ⟨permitted_close rfl hopens hcloses, fun _ _ ↦
        ⟨⟨fun h ↦ Bool.noConfusion h, fun h ↦ ?_⟩, fun h ↦ Bool.noConfusion h,
          fun _ ↦ ⟨rfl, ?_, ?_⟩⟩⟩
      · exact hfound.2 h.2
      · rw [hframe]
        rfl
      · rw [hframe]
        exact Nat.le_refl 1

end Gralloc1Hal

theorem Gralloc0Hal.initWithModule_loads :
    Safe (deviceMonitor v)
      (fun r s ↦
        (r.1 = true ↔ v.gralloc0.1 = 0) ∧
          (r.1 = true → Loaded (.gralloc0 r.2) s) ∧
          (r.1 = false → r.2.mDevice = none ∧ s.closes = s.opens ∧ s.opens.length ≤ 1))
      DeviceState.init initWithModule := by
  refine ⟨⟨rfl, nofun, nofun, False.elim, nofun, fun _ ↦ rfl⟩, fun x hx ↦ ?_⟩
  obtain rfl : x = v.gralloc0 := hx
  simp only [Program.bind]
  split
  · rename_i hresult
    refine ⟨⟨fun h ↦ Bool.noConfusion h, fun h ↦ absurd h hresult⟩,
      fun h ↦ Bool.noConfusion h, fun _ ↦ ?_⟩
    simp [DeviceState.record, DeviceState.init, hresult]
  · rename_i hresult
    have hopen : DeviceState.init.record ⟨.grallocOpen, v.gralloc0⟩ =
        { DeviceState.init with opens := [v.gralloc0.2.1], dump := v.gralloc0.2.2 } :=
      if_pos (not_not.1 hresult)
    refine ⟨⟨fun _ ↦ not_not.1 hresult, fun _ ↦ rfl⟩, fun _ ↦ ?_, fun h ↦ Bool.noConfusion h⟩
    rw [hopen]
    exact ⟨v.gralloc0.2.1, rfl, rfl, rfl, rfl⟩

namespace GrallocLoader

/-- What the loader has established when it returns. -/
structure LoadSpec (v : Vendor) (hal : Option Hal) (s : DeviceState) : Prop where
  none_iff : hal = none ↔ v.Unloadable
  unloaded : hal = none → s.closes = s.opens ∧ s.opens.length ≤ 1
  loaded : ∀ mHal, hal = some mHal → Loaded mHal s

theorem LoadSpec.of_loaded {mHal : Hal} (h : ¬v.Unloadable) (hloaded : Loaded mHal s) :
    LoadSpec v (some mHal) s where
  none_iff := iff_of_false (Option.some_ne_none mHal) h
  unloaded hnone := absurd hnone (Option.some_ne_none mHal)
  loaded _ hsome := Option.some.inj hsome ▸ hloaded

theorem LoadSpec.of_unloadable (h : v.Unloadable)
    (hclosed : s.closes = s.opens ∧ s.opens.length ≤ 1) : LoadSpec v none s where
  none_iff := iff_of_true rfl h
  unloaded _ := hclosed
  loaded mHal hsome := absurd hsome.symm (Option.some_ne_none mHal)

theorem getModuleMajorApiVersion_toNat (version : UInt16) :
    (getModuleMajorApiVersion version).toNat = version.toNat / 256 := by
  have hlt : version.toNat < 2 ^ 16 := version.toNat_lt
  have hmask : (255 : UInt16).toNat = 2 ^ 8 - 1 := rfl
  have hshift : (8 : UInt16).toNat % 16 = 8 := rfl
  rw [getModuleMajorApiVersion, UInt16.toNat_and, UInt16.toNat_shiftRight, hmask, hshift,
    Nat.and_two_pow_sub_one_eq_mod, Nat.shiftRight_eq_div_pow]
  omega

theorem getModuleMajorApiVersion_eq_iff {version n : UInt16} :
    getModuleMajorApiVersion version = n ↔ version.toNat / 256 = n.toNat := by
  rw [← UInt16.toNat_inj, getModuleMajorApiVersion_toNat]

/-- `createHal` for a module that was found. -/
theorem createHal_loads (hfound : v.module.1 = 0) :
    Safe (deviceMonitor v) (LoadSpec v) DeviceState.init (createHal v.module.2) := by
  have hone : getModuleMajorApiVersion v.module.2 = 1 ↔ v.majorVersion = 1 :=
    getModuleMajorApiVersion_eq_iff
  have hzero : getModuleMajorApiVersion v.module.2 = 0 ↔ v.majorVersion = 0 :=
    getModuleMajorApiVersion_eq_iff
  unfold createHal
  split_ifs with h₁ h₀
  · have hmajor := hone.1 h₁
    have hunloadable : v.Unloadable ↔
        ¬(v.gralloc1.1 = 0 ∧ ∀ desc, v.Required desc → v.functions desc = true) := by
      simpa [Vendor.Unloadable, hfound, hmajor] using imp_iff_not_or.symm
    refine Gralloc1Hal.initWithModule_loads.bind fun ⟨ok, hal⟩ s ⟨hok, hloaded, hfailed⟩ ↦ ?_
    cases ok with
    | true => exact .of_loaded (fun h ↦ hunloadable.1 h (hok.1 rfl)) (hloaded rfl)
    | false =>
      obtain ⟨hdevice, hclosed⟩ := hfailed rfl
      simp only [Bool.false_eq_true, if_false, hal.destroy_of_none hdevice]
      exact .of_unloadable (hunloadable.2 fun h ↦ Bool.noConfusion (hok.2 h)) hclosed
  · have hmajor := hzero.1 h₀
    have hunloadable : v.Unloadable ↔ ¬v.gralloc0.1 = 0 := by
      simp [Vendor.Unloadable, hfound, hmajor]
    refine Gralloc0Hal.initWithModule_loads.bind fun ⟨ok, hal⟩ s ⟨hok, hloaded, hfailed⟩ ↦ ?_
    cases ok with
    | true => exact .of_loaded (fun h ↦ hunloadable.1 h (hok.1 rfl)) (hloaded rfl)
    | false =>
      obtain ⟨hdevice, hclosed⟩ := hfailed rfl
      simp only [Bool.false_eq_true, if_false, hal.destroy_of_none hdevice]
      exact .of_unloadable (hunloadable.2 fun h ↦ Bool.noConfusion (hok.2 h)) hclosed
  · refine .of_unloadable (.inr (.inl ⟨?_, ?_⟩)) ⟨rfl, Nat.zero_le 1⟩
    · exact fun h ↦ h₀ (hzero.2 h)
    · exact fun h ↦ h₁ (hone.2 h)

theorem load_loads : Safe (deviceMonitor v) (LoadSpec v) DeviceState.init load := by
  refine ⟨⟨rfl, nofun, nofun, False.elim, nofun, by rintro (h | h) <;> cases h⟩, fun x hx ↦ ?_⟩
  obtain rfl : x = v.module := hx
  simp only [Program.bind]
  split
  · rename_i herror
    exact .of_unloadable (.inl herror) ⟨rfl, Nat.zero_le 1⟩
  · rename_i herror
    exact createHal_loads (not_not.1 herror)

end GrallocLoader

/-! ### The whole life -/

/-- The destructor closes the device of a loaded HAL, and that is all. -/
theorem Hal.destroy_closes {mHal : Hal} (hs : Loaded mHal s) :
    Safe (deviceMonitor v)
      (fun _ s' ↦ s'.closes = s'.opens ∧ s'.opens.length = 1 ∧ s'.found = s.found) s
      mHal.destroy := by
  cases mHal with
  | gralloc0 hal =>
    obtain ⟨d, hdevice, hopens, hcloses, -⟩ := hs
    simp only [destroy, Gralloc0Hal.destroy, hdevice]
    refine ⟨permitted_close rfl hopens hcloses, fun _ _ ↦ ⟨?_, ?_, rfl⟩⟩
    · simp [DeviceState.record, hopens, hcloses]
    · simp [DeviceState.record, hopens]
  | gralloc1 hal =>
    obtain ⟨d, hdevice, hopens, hcloses, -⟩ := hs
    simp only [destroy, Gralloc1Hal.destroy, hdevice]
    refine ⟨permitted_close rfl hopens hcloses, fun _ _ ↦ ⟨?_, ?_, rfl⟩⟩
    · simp [DeviceState.record, hopens, hcloses]
    · simp [DeviceState.record, hopens]

/-- The loader and the destructor do not go through the dispatch table. -/
theorem IsLoadCall.not_dispatched {c : Call} (h : IsLoadCall c) : dispatched c = none := by
  cases c <;> first | rfl | exact h.elim

namespace Allocator

theorem lifetime_safe (v : Vendor) (decode : Decoder) (requests : List Request) :
    Safe (deviceMonitor v)
      (fun r s ↦ (r = none ↔ v.Unloadable) ∧ s.closes = s.opens ∧ s.opens.length ≤ 1 ∧
        ∀ hal, r = some (.gralloc1 hal) → hal.mDispatch = s.found)
      DeviceState.init (lifetime decode requests) := by
  refine GrallocLoader.load_loads.bind fun hal s h ↦ ?_
  cases hal with
  | none =>
    obtain ⟨hclosed, hlength⟩ := h.unloaded rfl
    exact ⟨h.none_iff, hclosed, hlength, nofun⟩
  | some mHal =>
    have hs := h.loaded mHal rfl
    refine (safe_of_serving (Allocator.serveAll_serving hs decode requests)).bind fun _ s' hs' ↦ ?_
    subst hs'
    refine (Hal.destroy_closes hs).bind fun _ s ⟨hclosed, hlength, hfound⟩ ↦ ?_
    refine ⟨⟨nofun, fun hu ↦ (nomatch h.none_iff.2 hu)⟩, hclosed, Nat.le_of_eq hlength, ?_⟩
    rintro hal heq
    obtain rfl := Option.some.inj heq
    obtain ⟨d, -, -, -, hsame, -⟩ := hs
    exact hsame.trans hfound.symm

/-- **Calls through the table** are made by requests, on the HAL that was loaded. -/
theorem lifetime_dispatches {decode : Decoder} {requests : List Request} {t : List DeviceEvent}
    {r : Option Hal} (h : Runs (lifetime decode requests) t r) (hv : ∀ e ∈ t, v.Answers e) :
    ∀ e ∈ t, ∀ desc, dispatched e.call = some desc →
      ∃ hal, r = some (.gralloc1 hal) ∧ hal.mDispatch desc = true := by
  obtain ⟨l, u, hal, rfl, hload, hu⟩ := runs_bind_iff.1 h
  have hspec := ((GrallocLoader.load_loads (v := v)).runs hload
    (Monitor.assumes_of_forall _ fun _ e he ↦ hv e (List.mem_append_left u he))).2
  have hloads : ∀ e ∈ l, dispatched e.call = none := fun e he ↦
    ((GrallocLoader.load_only.steps hload).1 e he).not_dispatched
  intro e he desc hdesc
  rcases List.mem_append.1 he with he | he
  · cases (hloads e he).symm.trans hdesc
  · cases hal with
    | none =>
      obtain ⟨rfl, -⟩ := runs_ret_iff.1 hu
      cases he
    | some mHal =>
      obtain ⟨w, w', _, rfl, hserve, hw'⟩ := runs_bind_iff.1 hu
      obtain ⟨_, hdestroy, rfl⟩ := runs_bind_ret_iff.1 hw'
      rcases List.mem_append.1 he with he | he
      · have hserving := ((serveAll_serving (hspec.loaded mHal rfl) decode requests).steps hserve).1
        obtain ⟨hal, rfl, hentry⟩ := (hserving e he).entry.dispatch desc hdesc
        exact ⟨hal, rfl, hentry⟩
      · cases ((mHal.destroy_only.steps hdestroy).1 e he).not_dispatched.symm.trans hdesc

/-- **The life of the device.** On every module and for every sequence of requests: loading fails
exactly on an unloadable module; every call is permitted when it is made, so nothing follows the
closing of a device; and the devices closed are those opened, at most one. The dispatch table of
the HAL holds what the loader has found, and every call through it is made on a HAL that was
loaded, through an entry that is not null. -/
theorem lifetime_lifecycle (v : Vendor) (decode : Decoder) (requests : List Request)
    {t : List DeviceEvent} {r : Option Hal} (h : Runs (lifetime decode requests) t r)
    (hv : ∀ e ∈ t, v.Answers e) :
    (r = none ↔ v.Unloadable) ∧ Throughout (fun u e ↦ Permitted (deviceState u) e.call) t ∧
      (deviceState t).closes = (deviceState t).opens ∧ (deviceState t).opens.length ≤ 1 ∧
      (∀ hal, r = some (.gralloc1 hal) → hal.mDispatch = (deviceState t).found) ∧
      ∀ e ∈ t, ∀ desc, dispatched e.call = some desc →
        ∃ hal, r = some (.gralloc1 hal) ∧ hal.mDispatch desc = true := by
  obtain ⟨haccepts, hloadable, hclosed, hlength, hstored⟩ :=
    (lifetime_safe v decode requests).runs h (Monitor.assumes_of_forall _ fun _ ↦ hv)
  exact ⟨hloadable, (Monitor.accepts_iff_throughout _).1 haccepts, hclosed, hlength, hstored,
    lifetime_dispatches h hv⟩

/-- A platform with a gralloc1 module that has layered buffers and every function. -/
def layeredVendor : Vendor where
  module := (0, 0x100)
  gralloc1 := (0, 5)
  gralloc0 := (0, 6, true)
  capabilities := [Gralloc1Hal.capabilityLayeredBuffers]
  capabilities_lt := by decide
  functions _ := true

theorem lifetime_lifecycle_layered :
    let o := run layeredVendor.handler ()
      (lifetime (fun _ ↦ some ⟨64, 64, 2, 1, 0⟩) [.allocate [] 1, .dumpDebugInfo])
    (o.value = none ↔ layeredVendor.Unloadable) ∧
      Throughout (fun u e ↦ Permitted (deviceState u) e.call) o.trace ∧
        (deviceState o.trace).closes = (deviceState o.trace).opens ∧
          (deviceState o.trace).opens.length ≤ 1 ∧
            (∀ hal, o.value = some (.gralloc1 hal) → hal.mDispatch = (deviceState o.trace).found) ∧
              ∀ e ∈ o.trace, ∀ desc, dispatched e.call = some desc →
                ∃ hal, o.value = some (.gralloc1 hal) ∧ hal.mDispatch desc = true :=
  lifetime_lifecycle layeredVendor _ _ (runs_run _ () _)
    (forall_mem_trace _ layeredVendor.handler_answers () _)

end Allocator

end XenvmHal
