import OpenLighting.AcnPdu
import OpenLighting.E131Sources

/- The layers of an E1.31 packet: what `E131PDU`, `RootPDU` and `PreamblePacker` write, and what
the inflators make of a datagram. -/
namespace OpenLighting.E131

open ByteCodec OpenLighting.Acn

def vectorRootE131Rev2 : UInt32 := 3
def vectorRootE131 : UInt32 := 4
def vectorE131Dmp : UInt32 := 2

def cidLength : Nat := 16

structure CID where
  bytes : List UInt8
  full : bytes.length = cidLength
  deriving DecidableEq

variable (cid : CID)

def CID.isNil : Bool := cid.bytes.all (fun byte => byte == 0)

/-- `SOURCE_NAME_LEN` and `REV2_SOURCE_NAME_LEN`. -/
def sourceNameLength : Nat := 64
def rev2SourceNameLength : Nat := 32

def previewDataMask : UInt8 := 0x80
def streamTerminatedMask : UInt8 := 0x40

/-- What `strncpy` leaves in an array of this length. -/
def packName (length : Nat) (name : List UInt8) : List UInt8 :=
  let text := (name.takeWhile (fun byte => byte != 0)).take length
  text ++ List.replicate (length - text.length) 0

/-- The string in such an array, of which the last byte is cleared first. -/
def unpackName (length : Nat) (bytes : List UInt8) : List UInt8 :=
  (bytes.take (length - 1)).takeWhile (fun byte => byte != 0)

def E131Header.pack (header : E131Header) : List UInt8 :=
  if header.usingRev2 then
    packName rev2SourceNameLength header.source ++ ([header.priority] ++ ([header.sequence] ++
      bigEndian 2 header.universeId.toNat))
  else
    packName sourceNameLength header.source ++ ([header.priority] ++ (bigEndian 2 0 ++
      ([header.sequence] ++ ([(if header.previewData then previewDataMask else 0) |||
        (if header.streamTerminated then streamTerminatedMask else 0)] ++
          bigEndian 2 header.universeId.toNat))))

def decodeE131Header : Reader E131Header := do
  let source ← take sourceNameLength
  let priority ← uint8
  let _ ← uint16
  let sequence ← uint8
  let options ← uint8
  let universeId ← uint16
  pure ⟨unpackName sourceNameLength source, priority, sequence, universeId,
    decide (options &&& previewDataMask ≠ 0), decide (options &&& streamTerminatedMask ≠ 0), false⟩

def decodeE131Rev2Header : Reader E131Header := do
  let source ← take rev2SourceNameLength
  let priority ← uint8
  let sequence ← uint8
  let universeId ← uint16
  pure ⟨unpackName rev2SourceNameLength source, priority, sequence, universeId, false, false, true⟩

/-- `RootInflator::DecodeHeader`. -/
def decodeCID : Reader CID := fun bytes =>
  if enough : cidLength ≤ bytes.length then
    some (⟨bytes.take cidLength, List.length_take_of_le enough⟩, bytes.drop cidLength)
  else none

/-- `RootInflator`. A CID that is nil is no header. -/
def rootInflator : Layer CID := ⟨.fourBytes, decodeCID, fun cid => !cid.isNil⟩

def e131Inflator : Layer E131Header := ⟨.fourBytes, decodeE131Header, fun _ => true⟩

def e131Rev2Inflator : Layer E131Header := ⟨.fourBytes, decodeE131Rev2Header, fun _ => true⟩

def dmpInflator : Layer DMPHeader := ⟨.oneByte, DMPHeader.mk <$> uint8, fun _ => true⟩

/-- The PDUs that come to `HandlePDUData` of the DMP layer. -/
def dmpMessages (header : E131Header) (data : List UInt8) : List (DMPMessage CID) :=
  (dmpInflator.inflatePDUBlock data).1.map (fun pdu =>
    ⟨pdu.vector, cid, header, pdu.header, pdu.data⟩)

/-- The same for a block of the E1.31 layer. -/
def e131Messages (layer : Layer E131Header) (cid : CID) (data : List UInt8) :
    List (DMPMessage CID) :=
  (layer.inflatePDUBlock data).1.flatMap (fun pdu =>
    if pdu.vector = vectorE131Dmp then dmpMessages cid pdu.header pdu.data else [])

/-- The same for a block of the root layer. -/
def rootMessages (data : List UInt8) : List (DMPMessage CID) :=
  (rootInflator.inflatePDUBlock data).1.flatMap (fun pdu =>
    if pdu.vector = vectorRootE131 then e131Messages e131Inflator pdu.header pdu.data
    else if pdu.vector = vectorRootE131Rev2 then
      e131Messages e131Rev2Inflator pdu.header pdu.data
    else [])

def acnHeader : List UInt8 :=
  [0x00, 0x10, 0x00, 0x00, 0x41, 0x53, 0x43, 0x2d, 0x45, 0x31, 0x2e, 0x31, 0x37, 0x00, 0x00, 0x00]

def maxDatagramSize : Nat := 1472

/-- `IncomingUDPTransport::Receive`: the PDUs of a datagram. -/
def datagramMessages (datagram : List UInt8) : List (DMPMessage CID) :=
  let received := datagram.take maxDatagramSize
  if received.length < acnHeader.length then []
  else if received.take acnHeader.length ≠ acnHeader then []
  else rootMessages (received.drop acnHeader.length)

def packPreamble (block : List PDU) : Option (List UInt8) :=
  (packBlock (maxDatagramSize - acnHeader.length) block).map (fun bytes => acnHeader ++ bytes)

/-- `NewRangeDMPSetProperty` for one address with its data. -/
def newRangeDMPSetProperty (address : List UInt8) (data : List UInt8) : PDU :=
  ⟨.oneByte, dmpSetPropertyVector, [(DMPHeader.ofParts true false .rangeEqual .twoBytes).header],
    address ++ data⟩

def e131PDU (header : E131Header) (pdu : PDU) : PDU :=
  ⟨.fourBytes, vectorE131Dmp, header.pack, pdu.bytes⟩

/-- The `RootPDU` of `E131Sender::SendDMP`. -/
def rootPDU (header : E131Header) (pdu : PDU) : PDU :=
  ⟨.fourBytes, if header.usingRev2 then vectorRootE131Rev2 else vectorRootE131, cid.bytes,
    (e131PDU header pdu).bytes⟩

def E131Header.received (header : E131Header) : E131Header :=
  let length := if header.usingRev2 then rev2SourceNameLength else sourceNameLength
  { header with source := unpackName length (packName length header.source) }

def rangeMessage (header : E131Header) (address data : List UInt8) : DMPMessage CID :=
  ⟨dmpSetPropertyVector, cid, header, DMPHeader.ofParts true false .rangeEqual .twoBytes,
    address ++ data⟩

section RoundTrip

theorem length_packName (length : Nat) (name : List UInt8) :
    (packName length name).length = length := by
  unfold packName
  rw [List.length_append, List.length_replicate]
  have bound := List.length_take_le length (name.takeWhile (fun byte => byte != 0))
  omega

theorem length_packHeader (header : E131Header) : header.pack.length ≤ 71 := by
  unfold E131Header.pack
  split
  · simp [length_packName, rev2SourceNameLength]
  · simp [length_packName, sourceNameLength]

theorem reads_header {header : E131Header} (final : header.usingRev2 = false) :
    Reads decodeE131Header header.pack header.received := by
  have options : ∀ preview terminated : Bool,
      decide (((if preview then previewDataMask else 0) |||
          (if terminated then streamTerminatedMask else 0)) &&& previewDataMask ≠ 0) = preview ∧
        decide (((if preview then previewDataMask else 0) |||
          (if terminated then streamTerminatedMask else 0)) &&& streamTerminatedMask ≠ 0) =
            terminated := by
    decide
  have flags := options header.previewData header.streamTerminated
  unfold decodeE131Header E131Header.pack
  rw [final, if_neg (by decide)]
  apply Reads.bind (reads_take_of_length (length_packName sourceNameLength header.source))
  apply Reads.bind (reads_byte header.priority)
  apply Reads.bind (reads_uint16_ofNat 0)
  apply Reads.bind (reads_byte header.sequence)
  apply Reads.bind (reads_byte _)
  apply Reads.last (reads_uint16 header.universeId)
  rw [flags.1, flags.2, E131Header.received, final]
  exact reads_pure _

/-- The draft has no options. -/
theorem reads_rev2Header {header : E131Header} (draft : header.usingRev2 = true)
    (shown : header.previewData = false) (goes : header.streamTerminated = false) :
    Reads decodeE131Rev2Header header.pack header.received := by
  unfold decodeE131Rev2Header E131Header.pack
  rw [draft, if_pos rfl]
  apply Reads.bind (reads_take_of_length (length_packName rev2SourceNameLength header.source))
  apply Reads.bind (reads_byte header.priority)
  apply Reads.bind (reads_byte header.sequence)
  apply Reads.last (reads_uint16 header.universeId)
  rw [E131Header.received, draft, shown, goes]
  exact reads_pure _

theorem reads_cid : Reads decodeCID cid.bytes cid := by
  intro rest
  have enough : cidLength ≤ (cid.bytes ++ rest).length := by
    rw [List.length_append, cid.full]
    omega
  unfold decodeCID
  rw [dif_pos enough]
  simp only [List.take_left' cid.full, List.drop_left' cid.full]

/-- The draft has no options in its header. -/
def E131Header.Packable (header : E131Header) : Prop :=
  header.usingRev2 = true → header.previewData = false ∧ header.streamTerminated = false

variable {header : E131Header} {address data : List UInt8}

theorem size_dmp (small : (address ++ data).length ≤ 519) :
    (newRangeDMPSetProperty address data).size ≤ 523 := by
  apply @PDU.size_le (newRangeDMPSetProperty address data) 521 _ (by decide)
  show 1 + 1 + (address ++ data).length ≤ 521
  omega

theorem size_e131 (header : E131Header) {pdu : PDU} (small : pdu.size ≤ 523) :
    (e131PDU header pdu).size ≤ 600 := by
  have bound := length_packHeader header
  apply @PDU.size_le (e131PDU header pdu) 598 _ (by decide)
  show 4 + header.pack.length + pdu.bytes.length ≤ 598
  rw [PDU.length_bytes]
  omega

theorem size_root (header : E131Header) {pdu : PDU} (small : pdu.size ≤ 523) :
    (rootPDU cid header pdu).size ≤ 622 := by
  have inner := size_e131 header small
  apply @PDU.size_le (rootPDU cid header pdu) 620 _ (by decide)
  show 4 + cid.bytes.length + (e131PDU header pdu).bytes.length ≤ 620
  rw [PDU.length_bytes, cid.full]
  show 4 + 16 + (e131PDU header pdu).size ≤ 620
  omega

theorem dmpMessages_packed (header : E131Header) (small : (address ++ data).length ≤ 519) :
    dmpMessages cid header (newRangeDMPSetProperty address data).bytes =
      [rangeMessage cid header address data] := by
  have read : Reads dmpInflator.decodeHeader (newRangeDMPSetProperty address data).header
      (DMPHeader.ofParts true false .rangeEqual .twoBytes) := (reads_byte _).map DMPHeader.mk
  have fits : dmpSetPropertyVector.toNat < 256 ^ 1 := by decide
  unfold dmpMessages
  rw [Layer.inflatePDUBlock_bytes rfl (le_trans (size_dmp small) (by decide)) fits read]
  rfl

theorem e131Messages_packed {layer : Layer E131Header} (cid : CID)
    (four : layer.vectorSize = .fourBytes)
    (read : Reads layer.decodeHeader header.pack header.received)
    (small : (address ++ data).length ≤ 519) :
    e131Messages layer cid (e131PDU header (newRangeDMPSetProperty address data)).bytes =
      [rangeMessage cid header.received address data] := by
  have short := size_e131 header (size_dmp small)
  have fits : vectorE131Dmp.toNat < 256 ^ 4 := by decide
  unfold e131Messages
  rw [Layer.inflatePDUBlock_bytes four (le_trans short (by decide)) fits read]
  simp only [List.flatMap_cons, List.flatMap_nil, List.append_nil]
  exact dmpMessages_packed cid header.received small

theorem rootMessages_packed (packable : header.Packable) (small : (address ++ data).length ≤ 519) :
    rootMessages (rootPDU cid header (newRangeDMPSetProperty address data)).bytes =
      [rangeMessage cid header.received address data] := by
  have short := size_root cid header (size_dmp small)
  have fits : (rootPDU cid header (newRangeDMPSetProperty address data)).vector.toNat < 256 ^ 4 :=
    UInt32.toNat_lt _
  unfold rootMessages
  rw [Layer.inflatePDUBlock_bytes rfl (le_trans short (by decide)) fits (reads_cid cid)]
  simp only [List.flatMap_cons, List.flatMap_nil, List.append_nil]
  unfold rootPDU
  dsimp only
  by_cases draft : header.usingRev2 = true
  · rw [if_pos draft, if_neg (by decide), if_pos rfl]
    have plain := packable draft
    exact e131Messages_packed cid rfl (reads_rev2Header draft plain.1 plain.2) small
  · rw [if_neg draft, if_pos rfl]
    exact e131Messages_packed cid rfl (reads_header (by simpa using draft)) small

theorem packPreamble_messages (packable : header.Packable)
    (small : (address ++ data).length ≤ 519) :
    ∃ datagram,
      packPreamble [rootPDU cid header (newRangeDMPSetProperty address data)] = some datagram ∧
      datagramMessages datagram = [rangeMessage cid header.received address data] := by
  have short := size_root cid header (size_dmp small)
  have length := (rootPDU cid header (newRangeDMPSetProperty address data)).length_bytes
  have preamble : acnHeader.length = 16 := rfl
  have room : maxDatagramSize - acnHeader.length = 1456 := rfl
  refine ⟨acnHeader ++ (rootPDU cid header (newRangeDMPSetProperty address data)).bytes, ?_, ?_⟩
  · rw [packPreamble, packBlock, packBlock, room, PDU.pack, if_neg (by omega)]
    simp
  · have whole : (acnHeader ++
        (rootPDU cid header (newRangeDMPSetProperty address data)).bytes).length ≤
          maxDatagramSize := by
      rw [List.length_append, length, preamble]
      omega
    unfold datagramMessages
    rw [List.take_of_length_le whole, if_neg (by simp), List.take_left' rfl, List.drop_left' rfl,
      if_neg (by simp)]
    exact rootMessages_packed cid packable small

end RoundTrip

end OpenLighting.E131
