import OpenLighting.PortManagerRestrictions
import OpenLighting.Preferences

namespace OpenLighting.DeviceManager

open PortManager (World Call)
open Preferences (PreferencesMap order)
open StringUtils TransitionSystem

/-- `port_priority_capability`. -/
inductive Capability where
  | none
  | static
  | full
  deriving DecidableEq

/-- `port_priority_mode`. -/
inductive PriorityMode where
  | inherit
  | override
  deriving DecidableEq

def PriorityMode.toNat : PriorityMode → Nat
  | .inherit => 0
  | .override => 1

def sourcePriorityDefault : Nat := 100
def sourcePriorityMax : Nat := 200

/-- The priority of a port. `SetPriority` takes none above the maximum. -/
@[ext]
structure PortPriority where
  priority : Nat
  mode : PriorityMode
  bounded : priority ≤ sourcePriorityMax
  deriving DecidableEq

variable (setting : PortPriority)

namespace PortPriority

/-- What the constructors of the ports set. -/
def initial : PortPriority := ⟨sourcePriorityDefault, .inherit, by decide⟩

def setPriorityMode (mode : PriorityMode) : PortPriority :=
  { setting with mode := mode }

def setPriority (priority : Nat) : PortPriority :=
  if bounded : priority ≤ sourcePriorityMax then ⟨priority, setting.mode, bounded⟩ else setting

def setPriorityInherit (capability : Capability) : PortPriority :=
  if capability = .none then setting
  else if setting.mode ≠ .inherit then setting.setPriorityMode .inherit
  else setting

def setPriorityOverride (capability : Capability) (value : Nat) : PortPriority :=
  if capability = .none then setting
  else
    let setting :=
      if capability = .full ∧ setting.mode ≠ .override then setting.setPriorityMode .override
      else setting
    let value := if value > sourcePriorityMax then sourcePriorityMax else value
    if setting.priority ≠ value then setting.setPriority value else setting

end PortPriority

/-- The devices and their ports. The ports of a device are in the order of their ids. -/
structure Rig extends PortManager.Rig where
  uniqueId : Nat → List UInt8
  portId : Direction → Nat → Nat
  supportsPriorities : Direction → Nat → Bool
  supportsTimeCode : Nat → Bool
  ordered : ∀ device direction,
    ((devicePorts device direction).map (portId direction)).Pairwise (· < ·)

variable (rig : Rig) (direction : Direction)

namespace Rig

/-- What stands between the id of the device and that of the port: `-I-` or `-O-`. -/
def separator : Direction → List UInt8
  | .input => [45, 73, 45]
  | .output => [45, 79, 45]

/-- `UniqueId` of `BasicInputPort` and `BasicOutputPort`. -/
def portUniqueId (port : Nat) : List UInt8 :=
  match rig.getDevice direction port with
  | none => []
  | some device =>
    rig.uniqueId device ++ (separator direction ++ intToString (rig.portId direction port))

/-- `PriorityCapability` of `BasicInputPort` and `BasicOutputPort`. -/
def priorityCapability (port : Nat) : Capability :=
  if rig.supportsPriorities direction port then .full
  else
    match direction with
    | .input => .static
    | .output => .none

/-- The ports that `SendTimeCode` writes to. -/
def timecodePorts (device : Nat) : List Nat :=
  (rig.devicePorts device .output).filter rig.supportsTimeCode

end Rig

/-- `PRIORITY_VALUE_SUFFIX`, `_priority_value`. -/
def priorityValueSuffix : List UInt8 :=
  [95, 112, 114, 105, 111, 114, 105, 116, 121, 95, 118, 97, 108, 117, 101]

/-- `PRIORITY_MODE_SUFFIX`, `_priority_mode`. -/
def priorityModeSuffix : List UInt8 :=
  [95, 112, 114, 105, 111, 114, 105, 116, 121, 95, 109, 111, 100, 101]

structure DeviceAliasPair where
  deviceAlias : UInt32
  device : Option Nat
  deriving DecidableEq

def firstDeviceAlias : UInt32 := 1

/-- A `DeviceManager` with what it works on: the universes, the priorities of the ports
and the port preferences. -/
structure State where
  world : World
  priorities : Direction → Nat → PortPriority
  portPreferences : Option PreferencesMap
  devices : AList (fun _ : List UInt8 => DeviceAliasPair)
  aliasMap : AList (fun _ : UInt32 => Nat)
  nextDeviceAlias : UInt32
  timecodePorts : Finset Nat

variable (state : State)

namespace State

def initial (portPreferences : Option PreferencesMap) : State where
  world := .initial
  priorities := fun _ _ => .initial
  portPreferences := portPreferences
  devices := ∅
  aliasMap := ∅
  nextDeviceAlias := firstDeviceAlias
  timecodePorts := ∅

def adjust (direction : Direction) (port : Nat) (change : PortPriority → PortPriority) : State :=
  { state with
    priorities := fun side other =>
      if side = direction ∧ other = port then change (state.priorities direction port)
      else state.priorities side other }

end State

/-- `SavePortPatchings`: a port without an id ends the loop. -/
def savePortPatchings (rig : Rig) (world : World) (direction : Direction) :
    PreferencesMap → List Nat → PreferencesMap
  | preferences, [] => preferences
  | preferences, port :: ports =>
    let key := rig.portUniqueId direction port
    if key.isEmpty then preferences
    else
      savePortPatchings rig world direction
        (match world.universeId direction port with
        | some universeId => preferences.setValue key (intToString universeId)
        | none => preferences.removeValue key)
        ports

def savePortPriority (priorities : Direction → Nat → PortPriority)
    (direction : Direction) (preferences : PreferencesMap) (port : Nat) : PreferencesMap :=
  let capability := rig.priorityCapability direction port
  if capability = .none then preferences
  else
    let key := rig.portUniqueId direction port
    if key.isEmpty then preferences
    else
      let setting := priorities direction port
      let preferences :=
        preferences.setValue (key ++ priorityValueSuffix) (intToString setting.priority)
      if capability = .full then
        preferences.setValue (key ++ priorityModeSuffix) (intToString setting.mode.toNat)
      else preferences

/-- What `ReleaseDevice` saves. -/
def saveDevice (preferences : PreferencesMap) (device : Nat) : PreferencesMap :=
  let inputs := rig.devicePorts device .input
  let outputs := rig.devicePorts device .output
  let preferences := savePortPatchings rig state.world .input preferences inputs
  let preferences := savePortPatchings rig state.world .output preferences outputs
  let preferences := inputs.foldl (savePortPriority rig state.priorities .input) preferences
  outputs.foldl (savePortPriority rig state.priorities .output) preferences

/-- The universe id that `RestorePortSettings` reads: the result of `strtol` as an `int`. -/
def savedUniverseId (value : List UInt8) : Option Nat :=
  let number := strtol value
  let id := number.value.bmod 0x100000000
  if (id = 0 ∧ number.error) ∨ id < 0 then none else some id.toNat

def restorePortPriority (preferences : PreferencesMap) (direction : Direction)
    (state : State) (port : Nat) : State :=
  let capability := rig.priorityCapability direction port
  let key := rig.portUniqueId direction port
  let value := preferences.getValue (key ++ priorityValueSuffix)
  let mode := preferences.getValue (key ++ priorityModeSuffix)
  if capability = .none ∨ key.isEmpty ∨ (value.isEmpty ∧ mode.isEmpty) then state
  else
    state.adjust direction port (fun setting =>
      let setting :=
        match stringToUInt8 value with
        | some priority => setting.setPriorityOverride capability priority
        | none => setting
      match stringToUInt8 mode with
      | some mode =>
        if mode = PriorityMode.inherit.toNat then setting.setPriorityInherit capability
        else setting
      | none => setting)

/-- One round of the loop of `RestorePortSettings`; `accepts` is what `PreSetUniverse`
returns for a universe. -/
def restorePort (preferences : PreferencesMap)
    (accepts : Direction → Nat → Nat → Bool) (direction : Direction) (state : State) (port : Nat) :
    State :=
  let state := restorePortPriority rig preferences direction state port
  let key := rig.portUniqueId direction port
  if key.isEmpty then state
  else
    let value := preferences.getValue key
    if value.isEmpty then state
    else
      match savedUniverseId value with
      | none => state
      | some universeId =>
        { state with
          world := (state.world.patchPort rig.toRig direction port universeId
            (accepts direction port universeId)).1 }

def restorePortSettings (accepts : Direction → Nat → Nat → Bool)
    (direction : Direction) (state : State) (ports : List Nat) : State :=
  match state.portPreferences with
  | none => state
  | some preferences => ports.foldl (restorePort rig preferences accepts direction) state

namespace State

def releaseDevice (device : Nat) : State :=
  match state.portPreferences with
  | none => state
  | some preferences =>
    { state with
      portPreferences := some (saveDevice rig state preferences device)
      timecodePorts := state.timecodePorts \ (rig.devicePorts device .output).toFinset }

/-- The part of `RegisterDevice` behind the checks. -/
def install (deviceAlias : UInt32) (device : Nat)
    (accepts : Direction → Nat → Nat → Bool) : State :=
  let state := { state with aliasMap := state.aliasMap.insert deviceAlias device }
  let state := restorePortSettings rig accepts .input state (rig.devicePorts device .input)
  let state := restorePortSettings rig accepts .output state (rig.devicePorts device .output)
  { state with timecodePorts := state.timecodePorts ∪ (rig.timecodePorts device).toFinset }

def registerDevice (device : Option Nat) (accepts : Direction → Nat → Nat → Bool) : State × Bool :=
  match device with
  | none => (state, false)
  | some device =>
    let deviceId := rig.uniqueId device
    if deviceId.isEmpty then (state, false)
    else
      match state.devices.lookup deviceId with
      | some ⟨_, some _⟩ => (state, false)
      | some ⟨deviceAlias, none⟩ =>
        ({ state with devices := state.devices.insert deviceId ⟨deviceAlias, some device⟩ }.install
          rig deviceAlias device accepts, true)
      | none =>
        let deviceAlias := state.nextDeviceAlias
        ({ state with
            devices := state.devices.insert deviceId ⟨deviceAlias, some device⟩
            nextDeviceAlias := deviceAlias + 1 }.install rig deviceAlias device accepts, true)

def releaseEntry (deviceId : List UInt8) : State :=
  match state.devices.lookup deviceId with
  | some ⟨deviceAlias, some device⟩ =>
    let state := state.releaseDevice rig device
    { state with devices := state.devices.insert deviceId ⟨deviceAlias, none⟩ }
  | _ => state

def unregisterDeviceId (deviceId : List UInt8) : State × Bool :=
  match state.devices.lookup deviceId with
  | some ⟨deviceAlias, some _⟩ =>
    ({ state.releaseEntry rig deviceId with aliasMap := state.aliasMap.erase deviceAlias }, true)
  | _ => (state, false)

def unregisterDevice (device : Option Nat) : State × Bool :=
  match device with
  | none => (state, false)
  | some device =>
    let deviceId := rig.uniqueId device
    if deviceId.isEmpty then (state, false) else state.unregisterDeviceId rig deviceId

def deviceIds : List (List UInt8) :=
  state.devices.keys.insertionSort (fun first second => order first < order second)

def unregisterAllDevices : State :=
  { state.deviceIds.foldl (releaseEntry rig) state with aliasMap := ∅ }

end State

inductive Input where
  | registerDevice (device : Option Nat) (accepts : Direction → Nat → Nat → Bool)
  | unregisterDeviceId (deviceId : List UInt8)
  | unregisterDevice (device : Option Nat)
  | unregisterAllDevices
  | call (call : Call)
  | setPriorityInherit (direction : Direction) (port : Nat)
  | setPriorityOverride (direction : Direction) (port : Nat) (value : UInt8)

def State.step (rig : Rig) (state : State) : Input → State
  | .registerDevice device accepts => (state.registerDevice rig device accepts).1
  | .unregisterDeviceId deviceId => (state.unregisterDeviceId rig deviceId).1
  | .unregisterDevice device => (state.unregisterDevice rig device).1
  | .unregisterAllDevices => state.unregisterAllDevices rig
  | .call call => { state with world := state.world.call rig.toRig call }
  | .setPriorityInherit direction port =>
    state.adjust direction port
      (fun setting => setting.setPriorityInherit (rig.priorityCapability direction port))
  | .setPriorityOverride direction port value =>
    state.adjust direction port
      (fun setting => setting.setPriorityOverride (rig.priorityCapability direction port) value.toNat)

end OpenLighting.DeviceManager
