import OpenLighting.ByteCodec
import OpenLighting.DmxBuffer
import OpenLighting.FiniteMap
import OpenLighting.IPV4Address
import OpenLighting.TransitionSystem

/- A `PathportNode` and the buffers of the ports, which its handlers point to. -/
namespace OpenLighting.Pathport

open OpenLighting.Network ByteCodec TransitionSystem

/-- `MAX_UNIVERSES`, which is the last universe. -/
def maxUniverses : Nat := 127

def pathportProtocol : UInt16 := 0xed01
def majorVersion : UInt8 := 2
def minorVersion : UInt8 := 0
def pathportConfigGroup : UInt32 := 0xefffed02
def pathportDataGroup : UInt32 := 0xefffed01
def pathportStatusGroup : UInt32 := 0xefffedff
def pathportIdBroadcast : UInt32 := 0xffffffff
def pathportData : UInt16 := 0x0100
def pathportArpRequest : UInt16 := 0x0301
def pathportArpReply : UInt16 := 0x0302
def xdmxDataFlat : UInt16 := 0x0101

/-- The sizes of the structures. -/
def packetSize : Nat := 1500
def headerSize : Nat := 20
def pduHeaderSize : Nat := 4
def pduDataSize : Nat := 8

/-- What goes wrong in a call: a read behind the datagram, or a loop that does not end. -/
inductive Fault where
  | overread
  | endless
  deriving DecidableEq

/-- What a reader gets from the bytes of a datagram. -/
def reading {α : Type} (reader : Reader α) (bytes : List UInt8) : Except Fault (α × List UInt8) :=
  match reader bytes with
  | none => .error .overread
  | some result => .ok result

/-- `pathport_packet_header`. The reserved bytes are zero and nothing looks at them. -/
structure Header where
  protocol : UInt16
  versionMajor : UInt8
  versionMinor : UInt8
  sequence : UInt16
  source : UInt32
  destination : UInt32

def Header.pack (header : Header) : List UInt8 :=
  bigEndian 2 header.protocol.toNat ++ [header.versionMajor] ++ [header.versionMinor] ++
    bigEndian 2 header.sequence.toNat ++ List.replicate 6 0 ++ bigEndian 4 header.source.toNat ++
      bigEndian 4 header.destination.toNat

def readHeader : Reader Header := do
  let protocol ← uint16
  let versionMajor ← uint8
  let versionMinor ← uint8
  let sequence ← uint16
  let _ ← take 6
  let source ← uint32
  let destination ← uint32
  pure ⟨protocol, versionMajor, versionMinor, sequence, source, destination⟩

structure PduHeader where
  type : UInt16
  len : UInt16

def PduHeader.pack (header : PduHeader) : List UInt8 :=
  bigEndian 2 header.type.toNat ++ bigEndian 2 header.len.toNat

def readPduHeader : Reader PduHeader := do
  let type ← uint16
  let len ← uint16
  pure ⟨type, len⟩

/-- `pathport_pdu_data` without its data. -/
structure PduData where
  type : UInt16
  channelCount : UInt16
  universeId : UInt8
  startCode : UInt8
  offset : UInt16

def PduData.pack (head : PduData) : List UInt8 :=
  bigEndian 2 head.type.toNat ++ bigEndian 2 head.channelCount.toNat ++ [head.universeId] ++
    [head.startCode] ++ bigEndian 2 head.offset.toNat

def readPduData : Reader PduData := do
  let type ← uint16
  let channelCount ← uint16
  let universeId ← uint8
  let startCode ← uint8
  let offset ← uint16
  pure ⟨type, channelCount, universeId, startCode, offset⟩

/-- `universe_handler`: which buffer, and which closure. -/
structure UniverseHandler where
  buffer : Nat
  closure : Nat

/-- A `PathportNode`, the memory its handlers point to, the closures that have run, and what was
sent to which group. -/
structure PathportNode where
  running : Bool
  deviceId : UInt32
  sequenceNumber : UInt16
  ipAddress : IPV4Address
  handlers : AList (fun _ : UInt8 => UniverseHandler)
  buffers : Nat → DmxBuffer
  ran : List Nat
  sent : List (UInt32 × List UInt8)

variable (node : PathportNode)

namespace PathportNode

/-- `SetHandler`. A universe that has a handler keeps its buffer. -/
def setHandler (universeId : UInt8) (buffer : Nat) (closure : Option Nat) : PathportNode × Bool :=
  match closure with
  | none => (node, false)
  | some closure =>
    match node.handlers.lookup universeId with
    | none =>
      ({ node with handlers := node.handlers.insert universeId ⟨buffer, closure⟩ }, true)
    | some handler =>
      ({ node with handlers := node.handlers.insert universeId { handler with closure } }, true)

def removeHandler (universeId : UInt8) : PathportNode × Bool :=
  match node.handlers.lookup universeId with
  | some _ => ({ node with handlers := node.handlers.erase universeId }, true)
  | none => (node, false)

def populateHeader (destination : UInt32) : Header :=
  ⟨pathportProtocol, majorVersion, minorVersion, node.sequenceNumber, node.deviceId, destination⟩

def validateHeader (header : Header) : Bool :=
  header.protocol == pathportProtocol && header.versionMajor == majorVersion &&
    header.versionMinor == minorVersion

def sendArpReply : PathportNode :=
  if node.running then
    let ip := node.ipAddress
    let reply := bigEndian 4 node.deviceId.toNat ++ [ip.first, ip.second, ip.third, ip.fourth] ++
      [0x28, 0, 0, 1]
    let packet := (node.populateHeader pathportStatusGroup).pack ++
      PduHeader.pack ⟨pathportArpReply, 12⟩ ++ reply
    { node with sent := node.sent ++ [(pathportConfigGroup, packet)] }
  else node

/-- The bytes that `SendDMX` sends, or nothing. What pads the data is what happens to be on the
stack. -/
def sendDMX (universeId : Nat) (buffer : DmxBuffer) (stack : Nat → UInt8) : Option (List UInt8) :=
  if ¬ node.running ∨ maxUniverses < universeId then none
  else
    let paddedSize := (buffer.size + 3) / 4 * 4
    let padding := (List.range (paddedSize - buffer.size)).map stack
    some ((node.populateHeader pathportDataGroup).pack ++
      (PduHeader.pack ⟨pathportData, UInt16.ofNat (paddedSize + pduDataSize)⟩ ++
        (PduData.pack ⟨xdmxDataFlat, UInt16.ofNat buffer.size, 0, 0,
            UInt16.ofNat (dmxUniverseSize * universeId)⟩ ++
          (buffer.slots ++ padding))))

/-- The body of the loop in `HandleDmxData`: some channels for one universe. -/
def runHandler (universeId offset channels : Nat) (dmxData : List UInt8) :
    Except Fault PathportNode :=
  match node.handlers.lookup (UInt8.ofNat universeId) with
  | none => .ok node
  | some handler => do
    let (bytes, _) ← reading (take channels) dmxData
    let buffer := ((node.buffers handler.buffer).setRange offset (some bytes)).1
    .ok { node with
      buffers := Function.update node.buffers handler.buffer buffer
      ran := node.ran ++ [handler.closure] }

/-- The loop in `HandleDmxData`, for so many rounds. -/
def handleLoop : Nat → Nat → Nat → Nat → List UInt8 → PathportNode → Except Fault PathportNode
  | 0, _, universeId, dataSize, _, node =>
    if 0 < dataSize ∧ universeId ≤ maxUniverses then .error .endless else .ok node
  | rounds + 1, offset, universeId, dataSize, dmxData, node =>
    if 0 < dataSize ∧ universeId ≤ maxUniverses then do
      let channels := min dataSize (dmxUniverseSize - offset)
      let node ← node.runHandler universeId offset channels dmxData
      handleLoop rounds 0 (universeId + 1) (dataSize - channels) (dmxData.drop channels) node
    else .ok node

/-- `HandleDmxData` for the bytes of a PDU behind its header. -/
def handleDmxData (packet : List UInt8) : Except Fault PathportNode :=
  if packet.length < pduDataSize then .ok node
  else do
    let (head, data) ← reading readPduData packet
    if head.type ≠ xdmxDataFlat then .ok node
    else if head.startCode ≠ 0 then .ok node
    else
      let dataSize := min head.channelCount.toNat
        (UInt16.ofNat (packet.length - pduDataSize)).toNat
      handleLoop dataSize (head.offset.toNat % dmxUniverseSize)
        (head.offset.toNat / dmxUniverseSize) dataSize data node

/-- `SocketReady` with a datagram from an address. -/
def socketReady (source : IPV4Address) (datagram : List UInt8) : Except Fault PathportNode :=
  let packet := datagram.take packetSize
  if source = node.ipAddress then .ok node
  else if packet.length < headerSize then .ok node
  else do
    let (header, rest) ← reading readHeader packet
    if ¬ validateHeader header then .ok node
    else if header.destination ≠ node.deviceId ∧ header.destination ≠ pathportIdBroadcast ∧
        header.destination ≠ pathportStatusGroup ∧ header.destination ≠ pathportConfigGroup ∧
        header.destination ≠ pathportDataGroup then .ok node
    else if rest.length < pduHeaderSize then .ok node
    else do
      let (pdu, data) ← reading readPduHeader rest
      if pdu.type = pathportData then node.handleDmxData data
      else if pdu.type = pathportArpRequest then .ok node.sendArpReply
      else .ok node

end PathportNode

/-- What a node is asked to do. -/
inductive Event where
  | setHandler (universeId : UInt8) (buffer : Nat) (closure : Option Nat)
  | removeHandler (universeId : UInt8)
  | received (source : IPV4Address) (datagram : List UInt8)

variable (world : Except Fault PathportNode)

def step (event : Event) : Except Fault PathportNode := do
  let node ← world
  match event with
  | .setHandler universeId buffer closure => .ok (node.setHandler universeId buffer closure).1
  | .removeHandler universeId => .ok (node.removeHandler universeId).1
  | .received source datagram => node.socketReady source datagram

/-- A node without handlers, and buffers that hold nothing yet. -/
def PathportNode.new (running : Bool) (deviceId : UInt32) (ipAddress : IPV4Address) :
    PathportNode :=
  ⟨running, deviceId, 1, ipAddress, ∅, fun _ => DmxBuffer.new, [], []⟩

/-- What the ports promise: universes are in range, and every port has a buffer of its own. -/
def Lent (event : Event) : Prop :=
  match world, event with
  | .ok node, .setHandler universeId buffer _ =>
    universeId.toNat ≤ maxUniverses ∧
      ∀ entry ∈ node.handlers.entries, entry.2.buffer = buffer → entry.1 = universeId
  | _, _ => True

instance : ∀ world event, Decidable (Lent world event)
  | .ok _, .setHandler _ _ _ => inferInstanceAs (Decidable (_ ∧ ∀ entry ∈ _, _))
  | .ok _, .removeHandler _ => .isTrue trivial
  | .ok _, .received _ _ => .isTrue trivial
  | .error _, _ => .isTrue trivial

end OpenLighting.Pathport
