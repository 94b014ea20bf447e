import XenvmHal.Allocator.Gralloc0Hal
import XenvmHal.Allocator.Gralloc1Hal

/-!
# The loader and the life of an allocator

`GrallocLoader` finds the vendor's module, opens the back end its version asks for and wraps it
in an allocator. `Allocator.lifetime` is the life of the object it returns: any number of
requests, then the destructor, which closes the device through the HAL it owns.
-/

namespace XenvmHal

open Interaction Program

/-- The HAL object an allocator owns, by its dynamic type. -/
inductive Hal
  | gralloc0 (hal : Gralloc0Hal)
  | gralloc1 (hal : Gralloc1Hal)

namespace Hal

/-- The virtual methods. -/
def toAllocatorHal (decode : Decoder) : Hal → AllocatorHal
  | gralloc0 hal => hal.toAllocatorHal decode
  | gralloc1 hal => hal.toAllocatorHal decode

/-- The virtual destructor. -/
def destroy : Hal → Prog Unit
  | gralloc0 hal => hal.destroy
  | gralloc1 hal => hal.destroy

end Hal

namespace GrallocLoader

/-- `loadModule`: the version word of the module, if there is one. -/
def loadModule : Prog (Option UInt16) := do
  let (error, version) ← perform .hwGetModule
  if error ≠ 0 then pure none else pure (some version)

/-- `getModuleMajorApiVersion`. -/
def getModuleMajorApiVersion (version : UInt16) : UInt16 :=
  (version >>> 8) &&& 0xff

/-- `createHal`: an object whose initialisation fails is destroyed on the way out. -/
def createHal (version : UInt16) : Prog (Option Hal) :=
  if getModuleMajorApiVersion version = 1 then do
    let (ok, hal) ← Gralloc1Hal.initWithModule
    if ok then pure (some (.gralloc1 hal))
    else do
      hal.destroy
      pure none
  else if getModuleMajorApiVersion version = 0 then do
    let (ok, hal) ← Gralloc0Hal.initWithModule
    if ok then pure (some (.gralloc0 hal))
    else do
      hal.destroy
      pure none
  else pure none

/-- `load`. `AllocatorImpl::init` always succeeds, so `createAllocator` only hands the HAL over. -/
def load : Prog (Option Hal) := do
  let module ← loadModule
  match module with
  | none => pure none
  | some version => createHal version

end GrallocLoader

/-! ### Which calls the loader makes -/

/-- The calls of the loader. -/
def IsLoadCall : Call → Prop
  | .hwGetModule | .gralloc1Open | .gralloc1Close _ | .grallocOpen | .grallocClose _
  | .getCapabilities _ | .getFunction _ => True
  | _ => False

theorem Hal.destroy_only (mHal : Hal) : Only IsLoadCall mHal.destroy := by
  cases mHal with
  | gralloc0 hal =>
    show Only _ hal.destroy
    unfold Gralloc0Hal.destroy
    split
    · exact ⟨trivial, fun _ ↦ trivial⟩
    · trivial
  | gralloc1 hal =>
    show Only _ hal.destroy
    unfold Gralloc1Hal.destroy
    split
    · exact ⟨trivial, fun _ ↦ trivial⟩
    · trivial

namespace Gralloc1Hal

theorem initDispatch₁_only (mDispatch : Gralloc1Function → Bool) (desc : Gralloc1Function) :
    Only IsLoadCall (initDispatch₁ mDispatch desc) := by
  refine ⟨trivial, fun pfn ↦ ?_⟩
  simp only [Program.bind]
  split <;> trivial

theorem initDispatchAll_only (mDispatch : Gralloc1Function → Bool)
    (descs : List Gralloc1Function) : Only IsLoadCall (initDispatchAll mDispatch descs) := by
  induction descs generalizing mDispatch with
  | nil => trivial
  | cons desc descs ih =>
    refine (initDispatch₁_only mDispatch desc).bind ?_
    rintro ⟨found, mDispatch⟩
    dsimp only
    split
    · exact ih mDispatch
    · trivial

theorem initDispatch_only (layeredBuffers : Bool) :
    Only IsLoadCall (initDispatch layeredBuffers) := by
  refine (initDispatchAll_only _ _).bind ?_
  rintro ⟨found, mDispatch⟩
  dsimp only
  split_ifs
  · exact initDispatch₁_only _ _
  · trivial
  · trivial

theorem initWithModule_only : Only IsLoadCall initWithModule := by
  refine ⟨trivial, fun x ↦ ?_⟩
  simp only [Program.bind]
  split
  · trivial
  · have hcapabilities : Only IsLoadCall initCapabilities :=
      ⟨trivial, fun _ ↦ ⟨trivial, fun _ ↦ trivial⟩⟩
    refine hcapabilities.bind fun layered ↦ (initDispatch_only layered).bind ?_
    rintro ⟨found, mDispatch⟩
    dsimp only
    split
    · trivial
    · exact ⟨trivial, fun _ ↦ trivial⟩

end Gralloc1Hal

theorem Gralloc0Hal.initWithModule_only : Only IsLoadCall initWithModule := by
  refine ⟨trivial, fun x ↦ ?_⟩
  simp only [Program.bind]
  split <;> trivial

/-- The loader makes load calls only. -/
theorem GrallocLoader.load_only : Only IsLoadCall load := by
  refine Only.bind ⟨trivial, fun x ↦ ?_⟩ fun module ↦ ?_
  · simp only [Program.bind]
    split <;> trivial
  · cases module with
    | none => trivial
    | some version =>
      show Only _ (createHal version)
      unfold createHal
      split_ifs
      · refine Gralloc1Hal.initWithModule_only.bind ?_
        rintro ⟨ok, hal⟩
        dsimp only
        split
        · trivial
        · exact ((Hal.gralloc1 hal).destroy_only).bind fun _ ↦ trivial
      · refine Gralloc0Hal.initWithModule_only.bind ?_
        rintro ⟨ok, hal⟩
        dsimp only
        split
        · trivial
        · exact ((Hal.gralloc0 hal).destroy_only).bind fun _ ↦ trivial
      · trivial

namespace Allocator

/-- A call a client makes on the service. -/
inductive Request
  | allocate (descriptor : BufferDescriptor) (count : UInt32)
  | dumpDebugInfo

/-- Serve one request. -/
def serve (decode : Decoder) (mHal : Hal) : Request → Prog Unit
  | .allocate descriptor count => allocate (mHal.toAllocatorHal decode) descriptor count
  | .dumpDebugInfo => dumpDebugInfo (mHal.toAllocatorHal decode)

/-- Serve requests one after the other. -/
def serveAll (decode : Decoder) (mHal : Hal) : List Request → Prog Unit
  | [] => pure ()
  | request :: requests => do
    serve decode mHal request
    serveAll decode mHal requests

/-- From the loader to the destructor of the allocator: the HAL that was loaded, if any. -/
def lifetime (decode : Decoder) (requests : List Request) : Prog (Option Hal) := do
  let hal ← GrallocLoader.load
  match hal with
  | none => pure none
  | some mHal => do
    serveAll decode mHal requests
    mHal.destroy
    pure (some mHal)

end Allocator

end XenvmHal
