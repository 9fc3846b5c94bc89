import OpenLighting.AcnPduReads
import OpenLighting.E131Packet

/- What the inflators of E1.31 read of a packet. -/
namespace OpenLighting.E131

open ByteCodec BoundedReads FiniteMap OpenLighting.Acn

/-- `sizeof(addr2)` and `sizeof(addr4)`. -/
def addr2Size : Nat := 6
def addr4Size : Nat := 12

/-- A number of an address: a byte of the packet, or an element of one of the arrays. -/
def addressFieldAt (packet : List UInt8) (size : DMPAddressSize) (addr2 addr4 : List UInt8)
    (offset position : Nat) : Except Fault Nat :=
  match size with
  | .oneByte => UInt8.toNat <$> elementAt packet (offset + position)
  | .twoBytes => pure (addressField .twoBytes addr2 position)
  | _ => pure (addressField .fourBytes addr4 position)

/-- `DecodeAddress`. Both arrays are copied in full, whatever the size of an address is. -/
def decodeAddressAt (packet : List UInt8) (size : DMPAddressSize) (type : DMPAddressType)
    (offset length : Nat) : Except Fault (Option (DMPAddress × Nat)) :=
  let byteCount := (if type = .nonRange then 1 else 3) * dmpSizeToByteSize size
  if size = .resBytes ∨ length < byteCount then pure none
  else do
    let addr2 ← copy packet offset addr2Size
    let addr4 ← copy packet offset addr4Size
    let start ← addressFieldAt packet size addr2 addr4 offset 0
    if type = .nonRange then pure (some (⟨start, 0, 1⟩, byteCount))
    else
      let increment ← addressFieldAt packet size addr2 addr4 offset 1
      let number ← addressFieldAt packet size addr2 addr4 offset 2
      pure (some (⟨start, increment, number⟩, byteCount))

section Address
variable {packet data : List UInt8} {offset : Nat}

variable {size : DMPAddressSize}

theorem addressField_copy (lies : LiesAt packet offset data) {position count : Nat}
    (inside : (position + 1) * dmpSizeToByteSize size ≤ data.length)
    (copied : (position + 1) * dmpSizeToByteSize size ≤ count) :
    addressField size ((packet.drop offset).take count) position =
      addressField size data position := by
  have ⟨rest, whole⟩ := lies
  rw [Nat.add_mul, Nat.one_mul] at inside copied
  unfold addressField
  rw [← whole, List.drop_take, List.take_take, Nat.min_eq_left (by omega),
    List.drop_append_of_le_length (by omega), List.take_append_of_le_length (by
      rw [List.length_drop]
      omega)]

theorem addressField_byte {position : Nat} (inside : position < data.length) :
    addressField .oneByte data position = data[position].toNat := by
  have split := List.drop_eq_getElem_cons inside
  show number ((data.drop (position * 1)).take 1) = _
  rw [Nat.mul_one, split]
  show 0 * 256 + data[position].toNat = _
  omega

theorem decodeAddress_used {type : DMPAddressType} {address : DMPAddress} {used : Nat}
    (decoded : decodeAddress size type data = some (address, used)) : used ≤ data.length := by
  unfold decodeAddress at decoded
  by_cases missing : size = .resBytes ∨
      data.length < (if type = .nonRange then 1 else 3) * dmpSizeToByteSize size
  · rw [if_pos missing] at decoded
    cases decoded
  · rw [if_neg missing] at decoded
    generalize (if type = .nonRange then 1 else 3) * dmpSizeToByteSize size = byteCount at *
    split at decoded <;> cases decoded <;> omega

theorem addressFieldAt_lies (lies : LiesAt packet offset data) (known : size ≠ .resBytes)
    {position : Nat} (three : position < 3)
    (inside : (position + 1) * dmpSizeToByteSize size ≤ data.length) :
    addressFieldAt packet size ((packet.drop offset).take addr2Size)
        ((packet.drop offset).take addr4Size) offset position =
      .ok (addressField size data position) := by
  cases size with
  | oneByte =>
    simp only [dmpSizeToByteSize, Nat.mul_one] at inside
    show UInt8.toNat <$> elementAt packet (offset + position) = _
    rw [lies.elementAt inside, addressField_byte inside]
    rfl
  | twoBytes =>
    have copied : (position + 1) * dmpSizeToByteSize .twoBytes ≤ addr2Size := by
      simp only [dmpSizeToByteSize, addr2Size]
      omega
    rw [← addressField_copy lies inside copied]
    rfl
  | fourBytes =>
    have copied : (position + 1) * dmpSizeToByteSize .fourBytes ≤ addr4Size := by
      simp only [dmpSizeToByteSize, addr4Size]
      omega
    rw [← addressField_copy lies inside copied]
    rfl
  | resBytes => exact absurd rfl known

/-- An address that is there is decoded if the packet has as many bytes as the larger array. -/
theorem decodeAddressAt_lies (lies : LiesAt packet offset data) (size : DMPAddressSize)
    (type : DMPAddressType) :
    decodeAddressAt packet size type offset data.length =
      if (decodeAddress size type data).isSome → offset + addr4Size ≤ packet.length then
        .ok (decodeAddress size type data)
      else .error .outside := by
  unfold decodeAddressAt decodeAddress
  by_cases missing : size = .resBytes ∨
      data.length < (if type = .nonRange then 1 else 3) * dmpSizeToByteSize size
  · rw [if_pos missing, if_pos missing, if_pos (by simp)]
    rfl
  · have ⟨known, enough⟩ := not_or.mp missing
    have decoded : (if type = .nonRange then
        some ((⟨addressField size data 0, 0, 1⟩ : DMPAddress),
          (if type = .nonRange then 1 else 3) * dmpSizeToByteSize size)
      else
        some (⟨addressField size data 0, addressField size data 1, addressField size data 2⟩,
          (if type = .nonRange then 1 else 3) * dmpSizeToByteSize size)).isSome = true := by
      split <;> rfl
    rw [if_neg missing, if_neg missing]
    simp only [decoded, true_implies]
    by_cases room : offset + addr4Size ≤ packet.length
    · have less : addr2Size ≤ addr4Size := by decide
      have start := addressFieldAt_lies lies known (show 0 < 3 by decide)
      rw [if_pos room, copy_inside (by omega), copy_inside room, ok_bind, ok_bind]
      by_cases single : type = .nonRange
      · rw [if_pos single] at enough
        rw [start (by omega), ok_bind]
        simp only [if_pos single]
        rfl
      · rw [if_neg single] at enough
        have increment := addressFieldAt_lies lies known (show 1 < 3 by decide)
        have number := addressFieldAt_lies lies known (show 2 < 3 by decide)
        rw [start (by omega), ok_bind, increment (by omega), ok_bind, number (by omega), ok_bind]
        simp only [if_neg single]
        rfl
    · have beyond : copy packet offset addr4Size = .error .outside :=
        copy_outside (by decide) (by omega)
      rw [if_neg room, beyond]
      unfold copy
      split <;> rfl

end Address

section Payload

/-- The start code that `HandlePDUData` finds behind the address. -/
def startCodeAt (packet : List UInt8) (header : E131Header) (address : DMPAddress)
    (offset lengthRemaining : Nat) : Except Fault Int :=
  if header.usingRev2 then pure address.start
  else if lengthRemaining ≠ 0 ∧ address.number ≠ 0 then
    (fun code : UInt8 => (code.toNat : Int)) <$> elementAt packet offset
  else pure (-1)

/-- What `DmxBuffer::Set` copies. -/
def slotsAt (packet : List UInt8) (offset length : Nat) : Except Fault (List UInt8) :=
  copy packet offset (min length dmxUniverseSize)

variable {Cid : Type} [DecidableEq Cid]

namespace UniverseHandler

/-- `HandlePDUData` from the start code on. -/
def receiveAt (handler : UniverseHandler Cid) (now : Int) (packet : List UInt8) (cid : Cid)
    (header : E131Header) (address : DMPAddress) (offset lengthRemaining : Nat) :
    Except Fault (UniverseHandler Cid) := do
  let code ← startCodeAt packet header address offset lengthRemaining
  if code ≠ 0 ∧ header.streamTerminated = false then pure handler
  else
    let (handler, verdict) := trackSourceIfRequired handler now cid header
    match verdict with
    | .ignore => pure handler
    | .merge => pure handler.merge
    | .fill index =>
      if code = 0 then
        let channels := min lengthRemaining address.number
        let slots ←
          if header.usingRev2 then slotsAt packet offset channels
          else slotsAt packet (offset + 1) (minus channels 1)
        pure (handler.fill index slots).merge
      else pure handler.merge

/-- `HandlePDUData` for the handler of the universe. -/
def handleAt (ignorePreview : Bool) (handler : UniverseHandler Cid) (now : Int)
    (packet : List UInt8) (vector : UInt32) (cid : Cid) (header : E131Header)
    (dmpHeader : DMPHeader) (offset pduLength : Nat) : Except Fault (UniverseHandler Cid) :=
  if vector ≠ dmpSetPropertyVector then pure handler
  else if header.previewData && ignorePreview then pure handler
  else if wellFormed dmpHeader = false then pure handler
  else if maxPriority < header.priority then pure handler
  else do
    match ← decodeAddressAt packet dmpHeader.size dmpHeader.type offset pduLength with
    | none => pure handler
    | some (address, used) =>
      if address.increment ≠ 1 then pure handler
      else
        handler.receiveAt now packet cid header address (offset + used) (minus pduLength used)

end UniverseHandler

def DMPE131Inflator.handlePDUDataAt (inflator : DMPE131Inflator Cid) (now : Int)
    (packet : List UInt8) (vector : UInt32) (cid : Cid) (header : E131Header)
    (dmpHeader : DMPHeader) (offset pduLength : Nat) : Except Fault (DMPE131Inflator Cid) :=
  match inflator.handlers.lookup header.universeId.toNat with
  | none => pure inflator
  | some handler => do
    let handler ← handler.handleAt inflator.ignorePreview now packet vector cid header dmpHeader
      offset pduLength
    pure { inflator with
      handlers := inflator.handlers.insert header.universeId.toNat handler }

section Refinement
variable {packet rest : List UInt8} {offset : Nat} {header : E131Header} {address : DMPAddress}

theorem startCodeAt_lies (lies : LiesAt packet offset rest) (header : E131Header)
    (address : DMPAddress) :
    startCodeAt packet header address offset rest.length = .ok (startCode header address rest) := by
  unfold startCodeAt startCode
  by_cases draft : header.usingRev2 = true
  · rw [if_pos draft, if_pos draft]
    rfl
  · rw [if_neg draft, if_neg draft]
    cases rest with
    | nil => rfl
    | cons code slots =>
      have found := lies.elementAt (show 0 < (code :: slots).length from Nat.zero_lt_succ _)
      rw [Nat.add_zero] at found
      dsimp only
      by_cases none : address.number = 0
      · rw [if_neg (fun both => both.2 none), if_pos none]
        rfl
      · rw [if_pos ⟨Nat.succ_ne_zero _, none⟩, if_neg none, found]
        rfl

omit [DecidableEq Cid] in
theorem fill_take (handler : UniverseHandler Cid) (index : Nat) (slots : List UInt8) :
    handler.fill index (slots.take dmxUniverseSize) = handler.fill index slots := by
  simp only [UniverseHandler.fill, DmxBuffer.set_take]

/-- With a start code of zero, there are as many slots as are copied. -/
theorem slotsAt_lies (lies : LiesAt packet offset rest) (counted : rest.length < 2 ^ 32)
    (zero : startCode header address rest = 0) :
    (if header.usingRev2 then slotsAt packet offset (min rest.length address.number)
      else slotsAt packet (offset + 1) (minus (min rest.length address.number) 1)) =
      .ok ((slotsOf header address rest).take dmxUniverseSize) := by
  unfold slotsAt slotsOf startCode at *
  by_cases draft : header.usingRev2 = true
  · have copied := lies.copy (show 0 + min (min rest.length address.number) dmxUniverseSize ≤
      rest.length by omega)
    rw [if_pos draft] at zero ⊢
    rw [if_pos draft, List.take_take, Nat.min_comm dmxUniverseSize]
    rwa [Nat.add_zero, List.drop_zero] at copied
  · rw [if_neg draft] at zero ⊢
    rw [if_neg draft]
    cases rest with
    | nil => cases zero
    | cons code slots =>
      dsimp only at zero
      have length : (code :: slots).length = slots.length + 1 := rfl
      have copied := lies.copy (show
        1 + min (min (code :: slots).length address.number - 1) dmxUniverseSize ≤
          (code :: slots).length by omega)
      rw [minus_eq (by omega) (by omega), List.take_take, Nat.min_comm dmxUniverseSize]
      exact copied

/-- Behind the address, no other bytes are read than those of the PDU. -/
theorem UniverseHandler.receiveAt_lies (lies : LiesAt packet offset rest)
    (counted : rest.length < 2 ^ 32) (handler : UniverseHandler Cid) (now : Int) (cid : Cid)
    (header : E131Header) (address : DMPAddress) :
    handler.receiveAt now packet cid header address offset rest.length =
      .ok (handler.receive now cid header address rest) := by
  unfold receiveAt receive
  rw [startCodeAt_lies lies, ok_bind]
  dsimp only
  by_cases other : startCode header address rest ≠ 0 ∧ header.streamTerminated = false
  · rw [if_pos other, if_pos other]
    rfl
  · rw [if_neg other, if_neg other]
    cases (trackSourceIfRequired handler now cid header).2 with
    | ignore | merge => rfl
    | fill index =>
      dsimp only
      by_cases zero : startCode header address rest = 0
      · rw [if_pos zero, if_pos zero]
        have copied := slotsAt_lies lies counted zero
        by_cases draft : header.usingRev2 = true
        · rw [if_pos draft] at copied ⊢
          rw [copied, ok_bind, fill_take]
          rfl
        · rw [if_neg draft] at copied ⊢
          rw [copied, ok_bind, fill_take]
          rfl
      · rw [if_neg zero, if_neg zero]
        rfl

end Refinement

/-- `HandlePDUData` comes to decode the address of the PDU, and has its bytes. -/
def DMPMessage.DecodesAddress (ignorePreview : Bool) (message : DMPMessage Cid) : Prop :=
  message.vector = dmpSetPropertyVector ∧ (message.header.previewData && ignorePreview) = false ∧
    wellFormed message.dmpHeader = true ∧ message.header.priority ≤ maxPriority ∧
    addr2Size ≤ message.data.length

/-- The same, of an inflator that has a handler for the universe. -/
def DMPMessage.Addressed (inflator : DMPE131Inflator Cid) (message : DMPMessage Cid) : Prop :=
  (inflator.handlers.lookup message.header.universeId.toNat).isSome = true ∧
    message.DecodesAddress inflator.ignorePreview

instance (ignorePreview : Bool) (message : DMPMessage Cid) :
    Decidable (message.DecodesAddress ignorePreview) := inferInstanceAs (Decidable (_ ∧ _))

instance (inflator : DMPE131Inflator Cid) (message : DMPMessage Cid) :
    Decidable (message.Addressed inflator) := inferInstanceAs (Decidable (_ ∧ _))

section Handling
variable {packet : List UInt8} {offset : Nat} {message : DMPMessage Cid}

omit [DecidableEq Cid] in
theorem decodeAddress_isSome (wellFormed : wellFormed message.dmpHeader = true) :
    (decodeAddress message.dmpHeader.size message.dmpHeader.type message.data).isSome = true ↔
      addr2Size ≤ message.data.length := by
  simp only [E131.wellFormed, Bool.and_eq_true, decide_eq_true_eq] at wellFormed
  rw [wellFormed.2, wellFormed.1.2, decodeAddress]
  simp only [reduceCtorEq, false_or, if_false, dmpSizeToByteSize, addr2Size]
  by_cases short : message.data.length < 3 * 2
  · rw [if_pos short]
    simp only [Option.isSome_none, Bool.false_eq_true, false_iff]
    omega
  · rw [if_neg short]
    simp only [Option.isSome_some, true_iff]
    omega

theorem UniverseHandler.handleAt_lies (lies : LiesAt packet offset message.data)
    (counted : message.data.length < 2 ^ 32) (ignorePreview : Bool)
    (handler : UniverseHandler Cid) (now : Int) :
    handler.handleAt ignorePreview now packet message.vector message.cid message.header
        message.dmpHeader offset message.data.length =
      if message.DecodesAddress ignorePreview → offset + addr4Size ≤ packet.length then
        .ok (handler.handle ignorePreview now message)
      else .error .outside := by
  unfold handleAt handle DMPMessage.payload DMPMessage.DecodesAddress
  by_cases other : message.vector ≠ dmpSetPropertyVector
  · rw [if_pos other, if_pos other, if_pos (fun decodes => absurd decodes.1 other)]
    rfl
  rw [if_neg other, if_neg other]
  by_cases preview : (message.header.previewData && ignorePreview) = true
  · rw [if_pos preview, if_pos preview, if_pos (by simp [preview])]
    rfl
  rw [if_neg preview, if_neg preview]
  by_cases malformed : wellFormed message.dmpHeader = false
  · rw [if_pos malformed, if_pos malformed, if_pos (by simp [malformed])]
    rfl
  rw [if_neg malformed, if_neg malformed]
  by_cases high : maxPriority < message.header.priority
  · rw [if_pos high, if_pos high,
      if_pos (fun decodes => absurd high (UInt8.not_lt.mpr decodes.2.2.2.1))]
    rfl
  rw [if_neg high, if_neg high, decodeAddressAt_lies lies]
  have formed : wellFormed message.dmpHeader = true := by simpa using malformed
  have same := decodeAddress_isSome formed
  have shown := eq_false_of_ne_true preview
  simp only [not_not.mp other, shown, formed, UInt8.not_lt.mp high, true_and, same]
  by_cases room : addr2Size ≤ message.data.length → offset + addr4Size ≤ packet.length
  · rw [if_pos room, if_pos room, ok_bind]
    cases decoded : decodeAddress message.dmpHeader.size message.dmpHeader.type message.data with
    | none => rfl
    | some found =>
      obtain ⟨address, used⟩ := found
      dsimp only
      by_cases step : address.increment ≠ 1
      · rw [if_pos step, if_pos step]
        rfl
      · have less := decodeAddress_used decoded
        have received := handler.receiveAt_lies (lies.drop used) (by
          rw [List.length_drop]
          omega) now message.cid message.header address
        rw [List.length_drop] at received
        rw [if_neg step, if_neg step, minus_eq less counted, received]
  · rw [if_neg room, if_neg room]
    rfl

/-- `HandlePDUData` reads behind the packet exactly when it decodes an address that has fewer
bytes of the packet than the larger array. -/
theorem DMPE131Inflator.handlePDUDataAt_lies (lies : LiesAt packet offset message.data)
    (counted : message.data.length < 2 ^ 32) (inflator : DMPE131Inflator Cid) (now : Int) :
    inflator.handlePDUDataAt now packet message.vector message.cid message.header
        message.dmpHeader offset message.data.length =
      if message.Addressed inflator → offset + addr4Size ≤ packet.length then
        .ok (inflator.handlePDUData now message)
      else .error .outside := by
  unfold handlePDUDataAt handlePDUData
  cases known : inflator.handlers.lookup message.header.universeId.toNat with
  | none =>
    have absent : ¬ message.Addressed inflator := by
      intro addressed
      rw [DMPMessage.Addressed, known] at addressed
      exact absurd addressed.1 Bool.false_ne_true
    rw [if_pos (fun addressed => absurd addressed absent)]
    rfl
  | some handler =>
    have same : message.Addressed inflator ↔ message.DecodesAddress inflator.ignorePreview := by
      rw [DMPMessage.Addressed, known]
      exact ⟨And.right, fun decodes => ⟨rfl, decodes⟩⟩
    have handled := handler.handleAt_lies lies counted inflator.ignorePreview now
    simp only [same]
    rw [handled]
    split <;> rfl

end Handling

/-- Two inflators that ignore the same and have handlers for the same universes. -/
def DMPE131Inflator.Alike (first second : DMPE131Inflator Cid) : Prop :=
  first.ignorePreview = second.ignorePreview ∧
    ∀ universeId, (first.handlers.lookup universeId).isSome =
      (second.handlers.lookup universeId).isSome

theorem DMPE131Inflator.Alike.handlePDUData {first second : DMPE131Inflator Cid}
    (alike : first.Alike second) (now : Int) (message : DMPMessage Cid) :
    (first.handlePDUData now message).Alike second := by
  unfold DMPE131Inflator.handlePDUData
  cases known : first.handlers.lookup message.header.universeId.toNat with
  | none => exact alike
  | some handler =>
    constructor
    · exact alike.1
    · intro universeId
      have before := alike.2 universeId
      rw [lookup_insert_eq]
      split
      · rename_i same
        rw [same, known] at before
        rw [same, ← before]
        rfl
      · exact before

omit [DecidableEq Cid] in
theorem DMPE131Inflator.Alike.addressed {first second : DMPE131Inflator Cid}
    (alike : first.Alike second) (message : DMPMessage Cid) :
    message.Addressed first ↔ message.Addressed second := by
  rw [DMPMessage.Addressed, DMPMessage.Addressed, alike.1, alike.2]

end Payload

theorem takes_e131Header : Takes decodeE131Header 71 :=
  (takes_take sourceNameLength).bind fun _ => takes_uint8.bind fun _ => takes_uint16.bind fun _ =>
    takes_uint8.bind fun _ => takes_uint8.bind fun _ => takes_uint16.bind fun _ => takes_pure _

theorem takes_e131Rev2Header : Takes decodeE131Rev2Header 36 :=
  (takes_take rev2SourceNameLength).bind fun _ => takes_uint8.bind fun _ =>
    takes_uint8.bind fun _ => takes_uint16.bind fun _ => takes_pure _

theorem takes_cid : Takes decodeCID cidLength where
  reads bytes length := ⟨⟨bytes, length⟩, reads_cid ⟨bytes, length⟩⟩
  fails bytes short := by rw [decodeCID, dif_neg (by omega)]

/-- The layers with the sizes of their headers. -/
def rootSized : SizedLayer CID := ⟨rootInflator, cidLength, takes_cid⟩
def e131Sized : SizedLayer E131Header := ⟨e131Inflator, 71, takes_e131Header⟩
def e131Rev2Sized : SizedLayer E131Header := ⟨e131Rev2Inflator, 36, takes_e131Rev2Header⟩
def dmpSized : SizedLayer DMPHeader := ⟨dmpInflator, 1, takes_uint8.map DMPHeader.mk⟩

/-- `InflatePDUBlock` of the `DMPE131Inflator`. -/
def dmpBlockAt (now : Int) (packet : List UInt8) (rounds : Nat) (cid : CID) (header : E131Header)
    (offset length : Nat) (inflator : DMPE131Inflator CID) :
    Except Fault (DMPE131Inflator CID) :=
  Prod.fst <$> dmpSized.inflatePDUBlockAt
    (fun vector dmpHeader offset length inflator =>
      inflator.handlePDUDataAt now packet vector cid header dmpHeader offset length)
    packet rounds offset length inflator

/-- `InflatePDUBlock` of the `E131Inflator` or the `E131InflatorRev2`. -/
def e131BlockAt (layer : SizedLayer E131Header) (now : Int) (packet : List UInt8) (rounds : Nat)
    (cid : CID) (offset length : Nat) (inflator : DMPE131Inflator CID) :
    Except Fault (DMPE131Inflator CID) :=
  Prod.fst <$> layer.inflatePDUBlockAt
    (fun vector header offset length inflator =>
      if vector = vectorE131Dmp then dmpBlockAt now packet rounds cid header offset length inflator
      else pure inflator)
    packet rounds offset length inflator

/-- `InflatePDUBlock` of the `RootInflator`, with what the packet leaves in the inflator and the
amount of data used. -/
def rootBlockAt (now : Int) (packet : List UInt8) (rounds : Nat)
    (inflator : DMPE131Inflator CID) : Except Fault (DMPE131Inflator CID × Nat) :=
  rootSized.inflatePDUBlockAt
    (fun vector cid offset length inflator =>
      if vector = vectorRootE131 then
        e131BlockAt e131Sized now packet rounds cid offset length inflator
      else if vector = vectorRootE131Rev2 then
        e131BlockAt e131Rev2Sized now packet rounds cid offset length inflator
      else pure inflator)
    packet rounds 0 packet.length inflator

/-- The PDUs that come to `HandlePDUData` of the DMP layer, with the offsets of their data. -/
def dmpPlaced (cid : CID) (header : E131Header) (data : List UInt8) (start : Nat) :
    List (DMPMessage CID × Nat) :=
  (dmpInflator.placed data start).map (fun pdu =>
    (⟨pdu.1.vector, cid, header, pdu.1.header, pdu.1.data⟩, pdu.2))

/-- The same for a block of the E1.31 layer. -/
def e131Placed (layer : Layer E131Header) (cid : CID) (data : List UInt8) (start : Nat) :
    List (DMPMessage CID × Nat) :=
  (layer.placed data start).flatMap (fun pdu =>
    if pdu.1.vector = vectorE131Dmp then dmpPlaced cid pdu.1.header pdu.1.data pdu.2 else [])

/-- The same for a packet. -/
def rootPlaced (packet : List UInt8) : List (DMPMessage CID × Nat) :=
  (rootInflator.placed packet 0).flatMap (fun pdu =>
    if pdu.1.vector = vectorRootE131 then e131Placed e131Inflator pdu.1.header pdu.1.data pdu.2
    else if pdu.1.vector = vectorRootE131Rev2 then
      e131Placed e131Rev2Inflator pdu.1.header pdu.1.data pdu.2
    else [])

theorem map_fst_map_some {σ : Type} (value : Nat) (run : Except Fault σ) :
    Prod.fst <$> ((fun state => (state, value)) <$> run) = run := by
  cases run with
  | error fault | ok state => rfl

theorem dmpPlaced_fst (cid : CID) (header : E131Header) (data : List UInt8) (start : Nat) :
    (dmpPlaced cid header data start).map Prod.fst = dmpMessages cid header data := by
  rw [dmpPlaced, dmpMessages, ← placed_fst dmpInflator data start, List.map_map, List.map_map]
  rfl

theorem e131Placed_fst (layer : Layer E131Header) (cid : CID) (data : List UInt8) (start : Nat) :
    (e131Placed layer cid data start).map Prod.fst = e131Messages layer cid data := by
  rw [e131Placed, e131Messages, ← placed_fst layer data start, List.map_flatMap, List.flatMap_map]
  congr 1
  funext pdu
  split
  · exact dmpPlaced_fst cid pdu.1.header pdu.1.data pdu.2
  · rfl

/-- They are the PDUs that are handled. -/
theorem rootPlaced_fst (packet : List UInt8) :
    (rootPlaced packet).map Prod.fst = rootMessages packet := by
  rw [rootPlaced, rootMessages, ← placed_fst rootInflator packet 0, List.map_flatMap,
    List.flatMap_map]
  congr 1
  funext pdu
  split
  · exact e131Placed_fst e131Inflator pdu.1.header pdu.1.data pdu.2
  split
  · exact e131Placed_fst e131Rev2Inflator pdu.1.header pdu.1.data pdu.2
  · rfl

/-- Every address that is decoded has twelve bytes of the packet from its first one on. -/
def AddressesInside (packet : List UInt8) (inflator : DMPE131Inflator CID) : Prop :=
  ∀ placed ∈ rootPlaced packet,
    placed.1.Addressed inflator → placed.2 + addr4Size ≤ packet.length

instance (packet : List UInt8) (inflator : DMPE131Inflator CID) :
    Decidable (AddressesInside packet inflator) :=
  inferInstanceAs (Decidable (∀ placed ∈ rootPlaced packet, _))

section Run
variable {now : Int} {packet data : List UInt8} {start rounds : Nat} {cid : CID}
  {header : E131Header}

/-- What is done with a PDU where it is placed. -/
def handlePlaced (now : Int) (packet : List UInt8) (inflator : DMPE131Inflator CID)
    (placed : DMPMessage CID × Nat) : Except Fault (DMPE131Inflator CID) :=
  inflator.handlePDUDataAt now packet placed.1.vector placed.1.cid placed.1.header
    placed.1.dmpHeader placed.2 placed.1.data.length

section
variable (lies : LiesAt packet start data) (small : data.length + 2 ^ 20 ≤ 2 ^ 32)
  (enough : data.length ≤ rounds) (inflator : DMPE131Inflator CID)
include lies small enough inflator

theorem dmpBlockAt_lies :
    dmpBlockAt now packet rounds cid header start data.length inflator =
      (dmpPlaced cid header data start).foldlM (handlePlaced now packet) inflator := by
  unfold dmpBlockAt dmpPlaced
  rw [dmpSized.inflatePDUBlockAt_lies lies small _ enough, map_fst_map_some, List.foldlM_map]
  rfl

theorem e131BlockAt_lies {layer : SizedLayer E131Header} :
    e131BlockAt layer now packet rounds cid start data.length inflator =
      (e131Placed layer.toLayer cid data start).foldlM (handlePlaced now packet) inflator := by
  unfold e131BlockAt e131Placed
  rw [layer.inflatePDUBlockAt_lies lies small _ enough, map_fst_map_some, foldlM_flatMap]
  apply foldlM_congr
  intro pdu member inflator
  have ⟨placed, less⟩ := layer.placed_lies lies pdu member
  unfold SizedLayer.handOver
  dsimp only
  split
  · exact dmpBlockAt_lies placed (by omega) (by omega) inflator
  · rfl

end

/-- The inflators come to their end, and what they read is decided by the PDUs of the last layer. -/
theorem rootBlockAt_placed (small : packet.length + 2 ^ 20 ≤ 2 ^ 32)
    (enough : packet.length ≤ rounds) (inflator : DMPE131Inflator CID) :
    rootBlockAt now packet rounds inflator =
      (fun inflator => (inflator, (rootInflator.inflatePDUBlock packet).2)) <$>
        (rootPlaced packet).foldlM (handlePlaced now packet) inflator := by
  unfold rootBlockAt rootPlaced
  rw [rootSized.inflatePDUBlockAt_lies (LiesAt.whole packet) small _ enough, foldlM_flatMap]
  congr 1
  apply foldlM_congr
  intro pdu member inflator
  have ⟨placed, less⟩ := rootSized.placed_lies (LiesAt.whole packet) pdu member
  unfold SizedLayer.handOver
  dsimp only
  split
  · exact e131BlockAt_lies placed (by omega) (by omega) inflator
  split
  · exact e131BlockAt_lies placed (by omega) (by omega) inflator
  · rfl

/-- The data of every PDU that is handled are in the packet. -/
theorem rootPlaced_lies (packet : List UInt8) : ∀ placed ∈ rootPlaced packet,
    LiesAt packet placed.2 placed.1.data ∧ placed.1.data.length ≤ packet.length := by
  have dmp {cid : CID} {header : E131Header} {data : List UInt8} {start : Nat}
      (lies : LiesAt packet start data) (less : data.length ≤ packet.length) :
      ∀ placed ∈ dmpPlaced cid header data start,
        LiesAt packet placed.2 placed.1.data ∧ placed.1.data.length ≤ packet.length := by
    intro placed member
    have ⟨pdu, found, same⟩ := List.mem_map.mp member
    have ⟨there, fewer⟩ := dmpSized.placed_lies lies pdu found
    rw [← same]
    exact ⟨there, by dsimp only; omega⟩
  have e131 {layer : SizedLayer E131Header} {cid : CID} {data : List UInt8} {start : Nat}
      (lies : LiesAt packet start data) (less : data.length ≤ packet.length) :
      ∀ placed ∈ e131Placed layer.toLayer cid data start,
        LiesAt packet placed.2 placed.1.data ∧ placed.1.data.length ≤ packet.length := by
    intro placed member
    have ⟨pdu, found, inside⟩ := List.mem_flatMap.mp member
    have ⟨there, fewer⟩ := layer.placed_lies lies pdu found
    split at inside
    · exact dmp there (by omega) placed inside
    · cases inside
  intro placed member
  have ⟨pdu, found, inside⟩ := List.mem_flatMap.mp member
  have ⟨there, fewer⟩ := rootSized.placed_lies (LiesAt.whole packet) pdu found
  split at inside
  · exact @e131 e131Sized _ _ _ there fewer placed inside
  split at inside
  · exact @e131 e131Rev2Sized _ _ _ there fewer placed inside
  · cases inside

/-- The PDUs are handled as the values that they carry, unless an address is decoded so near to
the end of the packet that its copy goes beyond. -/
theorem rootBlockAt_eq (small : packet.length + 2 ^ 20 ≤ 2 ^ 32)
    (enough : packet.length ≤ rounds) (inflator : DMPE131Inflator CID) :
    rootBlockAt now packet rounds inflator =
      if AddressesInside packet inflator then
        .ok ((rootMessages packet).foldl (fun inflator message =>
          inflator.handlePDUData now message) inflator, (rootInflator.inflatePDUBlock packet).2)
      else .error .outside := by
  have steps (state : DMPE131Inflator CID) (alike : state.Alike inflator)
      (placed : DMPMessage CID × Nat) (member : placed ∈ rootPlaced packet) :
      handlePlaced now packet state placed =
        if placed.1.Addressed inflator → placed.2 + addr4Size ≤ packet.length then
          .ok (state.handlePDUData now placed.1)
        else .error .outside := by
    have ⟨lies, less⟩ := rootPlaced_lies packet placed member
    have handled := DMPE131Inflator.handlePDUDataAt_lies lies (by omega) state now
    simp only [alike.addressed] at handled
    exact handled
  have run := foldlM_guarded steps
    (fun state alike placed => alike.handlePDUData now placed.1) ⟨rfl, fun _ => rfl⟩
  rw [rootBlockAt_placed small enough, run, ← rootPlaced_fst, List.foldl_map]
  by_cases inside : AddressesInside packet inflator
  · rw [if_pos inside]
    unfold AddressesInside at inside
    rw [if_pos inside]
    rfl
  · rw [if_neg inside]
    unfold AddressesInside at inside
    rw [if_neg inside]
    rfl

end Run

/-- The inflators come to their end, use no more than the packet and read nothing but its bytes. -/
def InflatesInside (now : Int) (packet : List UInt8) (inflator : DMPE131Inflator CID) : Prop :=
  ∃ after used, used ≤ packet.length ∧
    ∀ rounds, packet.length ≤ rounds → rootBlockAt now packet rounds inflator = .ok (after, used)

/-- The lengths of the packet are no way out of it, but the copies of `DecodeAddress` are. -/
theorem inflates_inside_iff (now : Int) (packet : List UInt8)
    (small : packet.length + 2 ^ 20 ≤ 2 ^ 32) (inflator : DMPE131Inflator CID) :
    InflatesInside now packet inflator ↔ AddressesInside packet inflator := by
  constructor
  · intro ⟨after, used, less, runs⟩
    have run := runs packet.length (Nat.le_refl _)
    rw [rootBlockAt_eq small (Nat.le_refl _)] at run
    by_cases inside : AddressesInside packet inflator
    · exact inside
    · rw [if_neg inside] at run
      cases run
  · intro inside
    have run (rounds : Nat) (enough : packet.length ≤ rounds) :=
      @rootBlockAt_eq now packet rounds small enough inflator
    simp only [if_pos inside] at run
    exact ⟨_, _, inflatePDUBlock_le rootInflator packet, run⟩

/-- An inflator with a handler for the first universe. -/
def listening : DMPE131Inflator CID :=
  DMPE131Inflator.setHandler ⟨false, ∅⟩ 1 DmxBuffer.new none

/-- A packet of the draft for the first universe, with these slots. -/
def draftPacket (slots : List UInt8) : List UInt8 :=
  let size := slots.length
  [0x70, UInt8.ofNat (74 + size), 0, 0, 0, 3] ++ List.replicate 16 1 ++
    ([0x70, UInt8.ofNat (52 + size), 0, 0, 0, 2] ++ List.replicate 32 0 ++ [100, 0, 0, 1] ++
      ([0x70, UInt8.ofNat (10 + size), 2, 0xa1] ++ [0, 0, 0, 1, 0, UInt8.ofNat size] ++ slots))

/-- Six slots are enough for the copies. -/
theorem inflates_inside_six : InflatesInside 0 (draftPacket [1, 2, 3, 4, 5, 6]) listening :=
  (inflates_inside_iff 0 (draftPacket [1, 2, 3, 4, 5, 6]) (by decide) listening).mpr (by decide)

/-- An address at the end of the packet. -/
theorem address_read_beyond : ¬ InflatesInside 0 (draftPacket []) listening := by
  intro ⟨after, used, less, runs⟩
  have run := runs (draftPacket []).length (Nat.le_refl _)
  rw [rootBlockAt_eq (by decide) (Nat.le_refl _), if_neg (by decide)] at run
  cases run

end OpenLighting.E131
