import OpenLighting.DmxBuffer
import OpenLighting.IPV4Address
import Mathlib.Data.Fintype.Basic

/- The output ports of an `ArtNetNodeImpl`: their addresses, and how the ArtDmx packets for them
are merged. -/
namespace OpenLighting.ArtNet

open OpenLighting.Network

/-- `IPV4Address()`. -/
def wildcard : IPV4Address := ⟨0, 0, 0, 0⟩

/-- `ARTNET_MAX_PORTS`, `MAX_MERGE_SOURCES` and, in microseconds, `MERGE_TIMEOUT`. -/
def artnetMaxPorts : Nat := 4
def maxMergeSources : Nat := 2
def mergeTimeout : Int := 10000000

def artnetVersion : UInt16 := 14

inductive MergeMode where
  | htp
  | ltp
  deriving DecidableEq

structure DMXSource where
  buffer : DmxBuffer
  timestamp : Int
  address : IPV4Address

/-- A slot that tracks nothing. -/
def DMXSource.empty : DMXSource := ⟨.new, 0, wildcard⟩

/-- An `OutputPort`. `onData` says whether there is a callback. -/
structure OutputPort where
  universeAddress : UInt8
  enabled : Bool
  mergeMode : MergeMode
  isMerging : Bool
  sources : List DMXSource
  buffer : Option DmxBuffer
  onData : Bool
  full : sources.length = maxMergeSources

variable (threshold : Int) (address : IPV4Address)

namespace OutputPort

/-- What the constructor of the node makes of a port. -/
def initial : OutputPort :=
  ⟨0, false, .htp, false, List.replicate maxMergeSources .empty, none, false,
    List.length_replicate⟩

/-- What the loop over the slots has found: the slots with old sources timed out, the first empty
slot and the slot of the packet's source, or `MAX_MERGE_SOURCES`, and how many others there are. -/
structure Scan where
  sources : List DMXSource
  firstEmptySlot : Nat
  sourceSlot : Nat
  activeSources : Nat

/-- The slot of a source that is not heard from any more is emptied. -/
def timeOut (slot : DMXSource) : DMXSource :=
  if slot.timestamp < threshold then { slot with address := wildcard } else slot

def Scan.consider (scan : Scan) (slot : DMXSource) : Scan :=
  let index := scan.sources.length
  if slot.address = address then
    { scan with
      sources := scan.sources ++ [slot]
      sourceSlot := index }
  else
    let slot := timeOut threshold slot
    let scan := { scan with sources := scan.sources ++ [slot] }
    if slot.address ≠ wildcard then { scan with activeSources := scan.activeSources + 1 }
    else if index < scan.firstEmptySlot then { scan with firstEmptySlot := index }
    else scan

/-- The loop. -/
def scan (slots : List DMXSource) : Scan :=
  slots.foldl (Scan.consider threshold address) ⟨[], maxMergeSources, maxMergeSources, 0⟩

/-- The HTP merge of the sources in the slots. The first one is copied. -/
def htpMerge (buffer : DmxBuffer) (slots : List DMXSource) : DmxBuffer :=
  match slots.filter (fun slot => slot.address ≠ wildcard) with
  | [] => buffer
  | first :: rest => rest.foldl (fun buffer slot => buffer.htpMerge slot.buffer) first.buffer

/-- What is merged and shown once the source has its slot. -/
def merge (port : OutputPort) (source : DMXSource) (buffer : DmxBuffer) : DmxBuffer :=
  match port.mergeMode with
  | .ltp => source.buffer
  | .htp => htpMerge buffer port.sources

theorem length_scan (slots : List DMXSource) (start : Scan) :
    (slots.foldl (Scan.consider threshold address) start).sources.length =
      start.sources.length + slots.length := by
  induction slots generalizing start with
  | nil => rfl
  | cons slot rest ih =>
    rw [List.foldl_cons, ih, List.length_cons]
    have one : (Scan.consider threshold address start slot).sources.length =
        start.sources.length + 1 := by
      unfold Scan.consider
      dsimp only
      split
      · exact List.length_append
      · split
        · exact List.length_append
        · split <;> exact List.length_append
    omega

/-- `UpdatePortFromSource` on a port with a buffer, and whether `on_data` is run. -/
def updatePortFromSource (port : OutputPort) (now : Int) (buffer : DmxBuffer)
    (source : DMXSource) : OutputPort × Bool :=
  let found := scan (now - mergeTimeout) source.address port.sources
  have full : found.sources.length = maxMergeSources := by
    unfold found scan
    rw [length_scan, port.full]
    rfl
  let fill (slot : Nat) (isMerging : Bool) : OutputPort × Bool :=
    let port : OutputPort := { port with
      isMerging := isMerging
      sources := found.sources.set slot source
      full := by rw [List.length_set, full] }
    ({ port with buffer := some (port.merge source buffer) }, true)
  if found.sourceSlot = maxMergeSources then
    if found.firstEmptySlot = maxMergeSources then
      ({ port with
          sources := found.sources
          full := full }, false)
    else fill found.firstEmptySlot (found.activeSources ≠ 0)
  else fill found.sourceSlot (if found.activeSources = 1 then false else port.isMerging)

end OutputPort

/-- An ArtDmx packet, as far as it is looked at. `data` are the bytes that were received from the
data on. -/
structure DmxPacket where
  version : UInt16
  net : UInt8
  universeId : UInt8
  length : UInt16
  data : List UInt8
  deriving DecidableEq

def DmxPacket.buffer (packet : DmxPacket) : DmxBuffer :=
  (DmxBuffer.new.set (some (packet.data.take packet.length.toNat))).1

/-- An `ArtNetNodeImpl`, as far as the addresses and the data of the output ports depend on it:
the port addresses of the input ports and the output ports. -/
structure ArtNetNode where
  netAddress : UInt8
  inputPorts : List UInt8
  outputPorts : Fin artnetMaxPorts → OutputPort

variable (node : ArtNetNode)

namespace ArtNetNode

def firstPort : Fin artnetMaxPorts := ⟨0, by decide⟩

def setNetAddress (netAddress : UInt8) : ArtNetNode :=
  let netAddress := if netAddress &&& 0x80 ≠ 0 then netAddress &&& 0x7f else netAddress
  if netAddress = node.netAddress then node else { node with netAddress := netAddress }

/-- `InputPort::SetSubNetAddress`, and whether the address changed. -/
def setInputSubNet (subnetAddress portAddress : UInt8) : UInt8 × Bool :=
  let subnetAddress := subnetAddress <<< 4
  if subnetAddress = portAddress &&& 0xf0 then (portAddress, false)
  else (subnetAddress ||| (portAddress &&& 0x0f), true)

def setSubnetAddress (subnetAddress : UInt8) : ArtNetNode :=
  let changed := node.inputPorts.any (fun port => (setInputSubNet subnetAddress port).2)
  let node := { node with
    inputPorts := node.inputPorts.map (fun port => (setInputSubNet subnetAddress port).1) }
  let oldAddress : UInt8 := (node.outputPorts firstPort).universeAddress >>> (4 : UInt8)
  if oldAddress = subnetAddress ∧ changed = false then node
  else
    { node with
      outputPorts := fun portId =>
        let port := node.outputPorts portId
        { port with
          universeAddress := (subnetAddress <<< 4) ||| (port.universeAddress &&& 0x0f) } }

/-- `SetOutputPortUniverse` for a valid port. -/
def setOutputPortUniverse (portId : Fin artnetMaxPorts) (universeId : UInt8) : ArtNetNode :=
  let port := node.outputPorts portId
  if port.enabled = true ∧ port.universeAddress &&& 0xf = universeId &&& 0xf then node
  else
    { node with
      outputPorts := Function.update node.outputPorts portId
        { port with
          universeAddress := (universeId &&& 0x0f) ||| (port.universeAddress &&& 0xf0)
          enabled := true } }

/-- `DisableOutputPort` for a valid port. -/
def disableOutputPort (portId : Fin artnetMaxPorts) : ArtNetNode :=
  { node with
    outputPorts := Function.update node.outputPorts portId
      { node.outputPorts portId with enabled := false } }

/-- The packet passes the checks of `HandleDataPacket`. -/
def accepts (packet : DmxPacket) : Bool :=
  2 ≤ packet.data.length && packet.version == artnetVersion && packet.net == node.netAddress

/-- What `HandleDataPacket` does with one of the ports. -/
def receive (now : Int) (address : IPV4Address) (packet : DmxPacket) (port : OutputPort) :
    OutputPort × Bool :=
  match port.buffer with
  | none => (port, false)
  | some buffer =>
    if port.enabled = true ∧ port.universeAddress = packet.universeId ∧ port.onData = true then
      port.updatePortFromSource now buffer ⟨packet.buffer, now, address⟩
    else (port, false)

/-- `HandleDataPacket`, and the ports whose `on_data` is run. -/
def handleDataPacket (now : Int) (address : IPV4Address)
    (packet : DmxPacket) : ArtNetNode × (Fin artnetMaxPorts → Bool) :=
  if node.accepts packet then
    ({ node with
        outputPorts := fun portId => (receive now address packet (node.outputPorts portId)).1 },
      fun portId => (receive now address packet (node.outputPorts portId)).2)
  else (node, fun _ => false)

end ArtNetNode

end OpenLighting.ArtNet
