import OpenLighting.TransitionSystem
import OpenLighting.Universe

namespace OpenLighting

inductive Direction where
  | input
  | output
  deriving DecidableEq

def Direction.opposite : Direction → Direction
  | .input => .output
  | .output => .input

variable (state : Universe)

namespace Universe

def ports (state : Universe) : Direction → List Nat
  | .input => state.inputPorts
  | .output => state.outputPorts

def addPort (state : Universe) : Direction → Nat → Universe
  | .input, port => state.addInputPort port
  | .output, port => state.addOutputPort port

def removePort (state : Universe) : Direction → Nat → Universe
  | .input, port => state.removeInputPort port
  | .output, port => state.removeOutputPort port

@[simp] theorem addPort_universeId (direction : Direction) (port : Nat) :
    (state.addPort direction port).universeId = state.universeId := by
  cases direction <;> rfl

@[simp] theorem removePort_universeId (direction : Direction) (port : Nat) :
    (state.removePort direction port).universeId = state.universeId := by
  cases direction with
  | input => rfl
  | output =>
    unfold removePort removeOutputPort
    dsimp only
    split <;> rfl

theorem mem_addPort (direction side : Direction) (port other : Nat) :
    other ∈ (state.addPort direction port).ports side ↔
      (side = direction ∧ other = port) ∨ other ∈ state.ports side := by
  cases direction <;> cases side <;>
    simp [addPort, ports, addInputPort, addOutputPort, mem_genericAddPort]

theorem mem_removePort (direction side : Direction) (port other : Nat) :
    other ∈ (state.removePort direction port).ports side ↔
      ¬ (side = direction ∧ other = port) ∧ other ∈ state.ports side := by
  have inputs := state.distinctInputs
  have outputs := state.distinctOutputs
  cases direction with
  | input =>
    cases side with
    | input => simp [removePort, ports, removeInputPort, inputs.mem_erase_iff]
    | output => simp [removePort, ports, removeInputPort]
  | output =>
    unfold removePort removeOutputPort
    dsimp only
    by_cases bound : port ∈ state.outputPorts
    · rw [if_pos bound]
      cases side with
      | input => simp [ports]
      | output => simp [ports, outputs.mem_erase_iff]
    · rw [if_neg bound]
      cases side with
      | input => simp [ports]
      | output =>
        simp only [ports, true_and]
        constructor
        · intro member
          refine ⟨?_, member⟩
          rintro rfl
          exact bound member
        · exact And.right

theorem ports_of_not_isActive {state : Universe} (unused : state.isActive = false)
    (direction : Direction) : state.ports direction = [] := by
  unfold isActive at unused
  simp only [Bool.not_eq_false', Bool.and_eq_true, List.isEmpty_iff] at unused
  cases direction with
  | input => exact unused.1.1.2
  | output => exact unused.1.1.1

end Universe

variable (world : World)

namespace PortManager

open TransitionSystem

/-- The devices and their ports. A device has only its own ports. -/
structure Rig where
  getDevice : Direction → Nat → Option Nat
  devicePorts : Nat → Direction → List Nat
  allowLooping : Nat → Bool
  allowMultiPortPatching : Nat → Bool
  own : ∀ device direction, ∀ port ∈ devicePorts device direction,
    getDevice direction port = some device

/-- The universes with their `UniverseStore`, and what the ports refer to. A universe is
known by its address; `memory` is what is found there. -/
structure World where
  memory : Nat → Universe
  universeMap : AList (fun _ : Nat => Nat)
  deletionCandidates : List Nat
  next : Nat
  getUniverse : Direction → Nat → Option Nat
  brokerPorts : Finset (Direction × Nat)

variable (direction : Direction)

namespace World

/-- Nothing is patched. -/
def initial : World where
  memory := fun _ => .new 0
  universeMap := ∅
  deletionCandidates := []
  next := 0
  getUniverse := fun _ _ => none
  brokerPorts := ∅

def addUniverseGarbageCollection (address : Nat) : World :=
  { world with
    deletionCandidates :=
      if address ∈ world.deletionCandidates then world.deletionCandidates
      else world.deletionCandidates ++ [address] }

def store (address : Nat) (state : Universe) : World :=
  { world with memory := Function.update world.memory address state }

/-- `Universe::RemovePort`: a universe that is no longer in use is queued for deletion. -/
def removePort (world : World) (address : Nat) (direction : Direction) (port : Nat) : World :=
  let state := world.memory address
  if port ∈ state.ports direction then
    let state := state.removePort direction port
    let world := world.store address state
    if state.isActive then world else world.addUniverseGarbageCollection address
  else world

def addPort (world : World) (address : Nat) (direction : Direction) (port : Nat) : World :=
  world.store address ((world.memory address).addPort direction port)

/-- `UniverseStore::GetUniverseOrCreate`. -/
def getUniverseOrCreate (universeId : Nat) : World × Nat :=
  match world.universeMap.lookup universeId with
  | some address => (world, address)
  | none =>
    let address := world.next
    ({ world.store address (.new universeId) with
        universeMap := world.universeMap.insert universeId address
        next := address + 1 },
      address)

/-- `SetUniverse` of `BasicInputPort` and `BasicOutputPort`; `accepts` is what
`PreSetUniverse` returns. -/
def setUniverse (port : Nat) (target : Option Nat) (accepts : Bool) : World × Bool :=
  if world.getUniverse direction port = target then (world, true)
  else if accepts then
    ({ world with
        getUniverse := fun side other =>
          if side = direction ∧ other = port then target else world.getUniverse side other },
      true)
  else (world, false)

def universeId (world : World) (direction : Direction) (port : Nat) : Option Nat :=
  (world.getUniverse direction port).map (fun address => (world.memory address).universeId)

def checkForPortMatchingUniverse (ports : List Nat) (universeId : Nat) : Bool :=
  ports.any (fun port => world.universeId direction port == some universeId)

/-- The checks that the device of a port asks for: ports of the other direction, then
ports of the same direction. -/
def refused (rig : Rig) (direction : Direction) (port universeId : Nat) : Bool :=
  match rig.getDevice direction port with
  | none => false
  | some device =>
    (!rig.allowLooping device &&
      world.checkForPortMatchingUniverse direction.opposite
        (rig.devicePorts device direction.opposite) universeId) ||
    (!rig.allowMultiPortPatching device &&
      world.checkForPortMatchingUniverse direction (rig.devicePorts device direction) universeId)

/-- The part of `GenericPatchPort` that unpatches the port if required. -/
def unpatchIfRequired (port : Nat) : World :=
  match world.getUniverse direction port with
  | none => world
  | some address =>
    { world with
      brokerPorts := world.brokerPorts.erase (direction, port) }.removePort address direction port

/-- The rest of `GenericPatchPort`. -/
def bindPort (port newUniverseId : Nat) (accepts : Bool) : World :=
  let (world, address) := world.getUniverseOrCreate newUniverseId
  match world.setUniverse direction port (some address) accepts with
  | (world, true) =>
    { world with
      brokerPorts := insert (direction, port) world.brokerPorts }.addPort address direction port
  | (world, false) =>
    if (world.memory address).isActive then world
    else world.addUniverseGarbageCollection address

/-- `GenericPatchPort`. -/
def patchPort (rig : Rig) (direction : Direction) (port newUniverseId : Nat)
    (accepts : Bool) : World × Bool :=
  if world.universeId direction port = some newUniverseId then (world, true)
  else if world.refused rig direction port newUniverseId then (world, false)
  else
    ((world.unpatchIfRequired direction port).bindPort direction port newUniverseId accepts, true)

/-- `GenericUnPatchPort`. -/
def unPatchPort (port : Nat) (accepts : Bool) : World :=
  let current := world.getUniverse direction port
  let world := { world with brokerPorts := world.brokerPorts.erase (direction, port) }
  match current with
  | none => world
  | some address =>
    ((world.removePort address direction port).setUniverse direction port none accepts).1

def garbageCollectUniverses : World :=
  { world with
    universeMap := world.deletionCandidates.foldl
      (fun universeMap address =>
        if (world.memory address).isActive then universeMap
        else universeMap.erase (world.memory address).universeId)
      world.universeMap
    deletionCandidates := [] }

end World

/-- The calls of `PortManager`, with the answer of the port's hook. -/
inductive Call where
  | patchPort (direction : Direction) (port universeId : Nat) (accepts : Bool)
  | unPatchPort (direction : Direction) (port : Nat) (accepts : Bool)

def World.call (rig : Rig) (world : World) : Call → World
  | .patchPort direction port universeId accepts =>
    (world.patchPort rig direction port universeId accepts).1
  | .unPatchPort direction port accepts => world.unPatchPort direction port accepts

inductive Input where
  | call (call : Call)
  | garbageCollectUniverses

def World.step (rig : Rig) (world : World) : Input → World
  | .call call => world.call rig call
  | .garbageCollectUniverses => world.garbageCollectUniverses

end PortManager

end OpenLighting
