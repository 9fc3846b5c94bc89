import OpenLighting.E131Packet
import OpenLighting.IPV4Address

namespace OpenLighting.E131

open FiniteMap OpenLighting.Acn OpenLighting.Network OpenLighting.StringUtils

structure TxUniverse where
  source : List UInt8
  sequence : UInt8

/-- A datagram and the multicast group that it is sent to. -/
structure Datagram where
  destination : IPV4Address
  bytes : List UInt8

/-- `E131Node`. There is a send buffer, with room for a start code, unless the node uses the
draft. -/
structure E131Node where
  cid : CID
  useRev2 : Bool
  txUniverses : AList (fun _ : Nat => TxUniverse)
  inflator : DMPE131Inflator CID

def universeIP (universeId : Nat) : Option IPV4Address :=
  if universeId ≠ 0 ∧ universeId % 65536 ≠ 65535 then
    some ⟨239, 255, UInt8.ofNat (universeId / 256), UInt8.ofNat universeId⟩
  else none

/-- `E131Sender::SendDMP`. Without data there is nothing to pack. -/
def sendDMP (cid : CID) (header : E131Header) (address : List UInt8) (data : Option (List UInt8)) :
    Option Datagram :=
  match universeIP header.universeId.toNat, data with
  | some destination, some data =>
    (packPreamble [rootPDU cid header (newRangeDMPSetProperty address data)]).map
      (Datagram.mk destination)
  | _, _ => none

/-- `SetupOutgoingSettings`: the source is named after the universe. -/
def setupOutgoingSettings (universeId : Nat) : TxUniverse :=
  ⟨[85, 110, 105, 118, 101, 114, 115, 101, 32] ++ intToString universeId, 0⟩

variable (node : E131Node) (universeId : UInt16)

namespace E131Node

/-- The constructor. -/
def new (cid : CID) (useRev2 ignorePreview : Bool) : E131Node :=
  ⟨cid, useRev2, ∅, ⟨ignorePreview, ∅⟩⟩

def setSourceName (universeId : Nat) (source : List UInt8) : E131Node :=
  let settings := (node.txUniverses.lookup universeId).getD (setupOutgoingSettings universeId)
  { node with
    txUniverses := node.txUniverses.insert universeId { settings with source := source } }

def sendDMXWithSequenceOffset (buffer : DmxBuffer)
    (sequenceOffset : Int8) (priority : UInt8) (preview : Bool) : E131Node × Option Datagram :=
  let settings :=
    (node.txUniverses.lookup universeId.toNat).getD (setupOutgoingSettings universeId.toNat)
  let data := if node.useRev2 then buffer.data else some (0 :: buffer.slots)
  let length := if node.useRev2 then buffer.size else buffer.size + 1
  let header : E131Header :=
    ⟨settings.source, priority, settings.sequence + sequenceOffset.toUInt8, universeId, preview,
      false, node.useRev2⟩
  let sent := sendDMP node.cid header (packTwoByteRange 0 1 (UInt16.ofNat length)) data
  let sequence :=
    if sent.isSome ∧ sequenceOffset = 0 then settings.sequence + 1 else settings.sequence
  ({ node with
    txUniverses := node.txUniverses.insert universeId.toNat
      { settings with sequence := sequence } }, sent)

def sendDMX (buffer : DmxBuffer) (priority : UInt8) (preview : Bool) : E131Node × Option Datagram :=
  node.sendDMXWithSequenceOffset universeId buffer 0 priority preview

/-- `StreamTerminated`. If there are slots, they are copied to the send buffer behind its first
byte, and there is no result if that buffer does not exist. -/
def streamTerminated (buffer : DmxBuffer)
    (priority : UInt8) : Option (E131Node × Option Datagram) :=
  if node.useRev2 = true ∧ buffer.slots ≠ [] then none
  else
    let known := node.txUniverses.lookup universeId.toNat
    let settings := known.getD ⟨[], 0⟩
    let data := if node.useRev2 then none else some (0 :: buffer.slots)
    let header : E131Header :=
      ⟨settings.source, priority, settings.sequence, universeId, false, true, false⟩
    let sent := sendDMP node.cid header (packTwoByteRange 0 1 (UInt16.ofNat buffer.size)) data
    let txUniverses :=
      if sent.isSome ∧ known.isSome then
        node.txUniverses.insert universeId.toNat
          { settings with sequence := settings.sequence + 1 }
      else node.txUniverses
    some ({ node with txUniverses := txUniverses }, sent)

/-- `SetHandler`. Joining the multicast group does not fail. -/
def setHandler (node : E131Node) (universeId : Nat) (buffer : DmxBuffer)
    (priority : Option UInt8) : E131Node :=
  if (universeIP universeId).isSome then
    { node with inflator := node.inflator.setHandler universeId buffer priority }
  else node

/-- A datagram arrives. -/
def receive (now : Int) (datagram : Datagram) : E131Node :=
  { node with
    inflator := (datagramMessages datagram.bytes).foldl
      (fun inflator message => inflator.handlePDUData now message) node.inflator }

end E131Node

section Sending
variable {cid : CID} {header : E131Header} {address : List UInt8} {data : Option (List UInt8)}

theorem sendDMP_messages {datagram : Datagram} (packable : header.Packable)
    (small : ∀ bytes ∈ data, (address ++ bytes).length ≤ 519)
    (sent : sendDMP cid header address data = some datagram) :
    ∃ bytes, data = some bytes ∧ (universeIP header.universeId.toNat).isSome ∧
      datagramMessages datagram.bytes = [rangeMessage cid header.received address bytes] := by
  unfold sendDMP at sent
  split at sent
  · rename_i destination bytes group
    obtain ⟨packed, found, messages⟩ := packPreamble_messages cid packable (small bytes rfl)
    rw [found] at sent
    rw [← Option.some.inj sent, group]
    exact ⟨bytes, rfl, rfl, messages⟩
  · cases sent

/-- What has data is sent, if there is a group for the universe. -/
theorem sendDMP_isSome (packable : header.Packable)
    (small : ∀ bytes ∈ data, (address ++ bytes).length ≤ 519) :
    (sendDMP cid header address data).isSome =
      ((universeIP header.universeId.toNat).isSome && data.isSome) := by
  unfold sendDMP
  cases group : universeIP header.universeId.toNat with
  | none => rfl
  | some destination =>
    cases data with
    | none => rfl
    | some bytes =>
      obtain ⟨packed, found, _⟩ := packPreamble_messages cid packable (small bytes rfl)
      dsimp only
      rw [found]
      rfl

end Sending

end OpenLighting.E131
