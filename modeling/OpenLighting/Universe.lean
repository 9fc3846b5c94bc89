import OpenLighting.Clock
import OpenLighting.DmxBuffer
import OpenLighting.FiniteMap
import OpenLighting.Uid

namespace OpenLighting

structure DmxSource where
  data : DmxBuffer
  timestamp : TimeVal
  priority : UInt8

namespace DmxSource

/-- `TIMEOUT_INTERVAL`, 2.5 seconds. -/
def timeoutInterval : TimeVal := .ofMicroseconds 2500000

def isActive (source : DmxSource) (now : TimeVal) : Bool :=
  now.before (source.timestamp.add timeoutInterval)

def isSet (source : DmxSource) : Bool := source.timestamp.isSet

end DmxSource

def sourcePriorityMin : UInt8 := 0

/- Ports and clients are known by their addresses. -/
abbrev InputPort := Nat
abbrev OutputPort := Nat
abbrev Client := Nat

inductive MergeMode where
  | htp
  | ltp
  deriving DecidableEq

/-- A universe. A source client comes with its stale flag. -/
structure Universe where
  universeId : Nat
  activePriority : UInt8
  mergeMode : MergeMode
  inputPorts : List InputPort
  outputPorts : List OutputPort
  sinkClients : Finset Client
  sourceClients : AList (fun _ : Client => Bool)
  buffer : DmxBuffer
  outputUids : AList (fun _ : UID => OutputPort)
  distinctInputs : inputPorts.Nodup
  distinctOutputs : outputPorts.Nodup

variable (state : Universe) (uids : AList (fun _ : UID => OutputPort))

namespace Universe

/-- `Universe(universe_id)`. -/
def new (universeId : Nat) : Universe where
  universeId := universeId
  activePriority := sourcePriorityMin
  mergeMode := .ltp
  inputPorts := []
  outputPorts := []
  sinkClients := ∅
  sourceClients := ∅
  buffer := .new
  outputUids := ∅
  distinctInputs := .nil
  distinctOutputs := .nil

def genericAddPort (port : Nat) (ports : List Nat) : List Nat :=
  if port ∈ ports then ports else ports ++ [port]

theorem genericAddPort_nodup (port : Nat) {ports : List Nat} (distinct : ports.Nodup) :
    (genericAddPort port ports).Nodup := by
  unfold genericAddPort
  by_cases bound : port ∈ ports
  · rw [if_pos bound]
    exact distinct
  · rw [if_neg bound, ← List.concat_eq_append]
    exact List.Nodup.concat bound distinct

theorem mem_genericAddPort (port other : Nat) (ports : List Nat) :
    other ∈ genericAddPort port ports ↔ other = port ∨ other ∈ ports := by
  unfold genericAddPort
  by_cases bound : port ∈ ports
  · rw [if_pos bound]
    constructor
    · exact Or.inr
    · rintro (rfl | member)
      · omega
      · exact member
  · rw [if_neg bound, List.mem_append, List.mem_singleton, or_comm]

def isActive : Bool :=
  !(state.outputPorts.isEmpty && state.inputPorts.isEmpty &&
    state.sourceClients.entries.isEmpty && decide (state.sinkClients = ∅))

/-- `AddPort` for an input port. -/
def addInputPort (port : InputPort) : Universe :=
  { state with
    inputPorts := genericAddPort port state.inputPorts
    distinctInputs := genericAddPort_nodup port state.distinctInputs }

/-- `AddPort` for an output port. -/
def addOutputPort (port : OutputPort) : Universe :=
  { state with
    outputPorts := genericAddPort port state.outputPorts
    distinctOutputs := genericAddPort_nodup port state.distinctOutputs }

/-- `RemovePort` for an input port. -/
def removeInputPort (port : InputPort) : Universe :=
  { state with
    inputPorts := state.inputPorts.erase port
    distinctInputs := state.distinctInputs.erase port }

/-- The UIDs of the map that pass a check of the UID and its port. -/
def keepUids (check : UID → OutputPort → Bool) : AList (fun _ : UID => OutputPort) :=
  ⟨uids.entries.filter (fun entry => check entry.1 entry.2),
    uids.nodupKeys.sublist List.filter_sublist⟩

/-- `RemovePort` for an output port: the UIDs that were mapped to it go as well,
unless it was not there. -/
def removeOutputPort (port : OutputPort) : Universe :=
  if port ∈ state.outputPorts then
    { state with
      outputPorts := state.outputPorts.erase port
      outputUids := keepUids state.outputUids (fun _ target => target != port)
      distinctOutputs := state.distinctOutputs.erase port }
  else state

def addSourceClient (client : Client) : Universe :=
  { state with sourceClients := state.sourceClients.insert client false }

theorem lookup_keepUids (check : UID → OutputPort → Bool) (uid : UID) :
    (keepUids uids check).lookup uid = (uids.lookup uid).filter (check uid) :=
  FiniteMap.lookup_filter check uids uid

end Universe

end OpenLighting
