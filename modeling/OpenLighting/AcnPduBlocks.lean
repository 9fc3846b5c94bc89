import OpenLighting.AcnPdu

/- Blocks of ACN protocol data units: what is packed, written and inflated again. -/
namespace OpenLighting.Acn

open ByteCodec List

/-- The length field as `Write` has it. A short one is a number in network order. -/
def writtenFlagsAndLength (size : Nat) : List UInt8 :=
  let flags := vectorFlag ||| headerFlag ||| dataFlag
  if size ≤ twoByteLengthLimit then
    bigEndian 2 (UInt16.ofNat size ||| (flags.toUInt16 <<< 8)).toNat
  else [flags ||| UInt8.ofNat (size / 65536 % 16), UInt8.ofNat (size / 256), UInt8.ofNat size]

/-- `PDU::Write`. The header and the data are those that `Pack` writes. -/
def PDU.written (pdu : PDU) : List UInt8 :=
  writtenFlagsAndLength pdu.size ++
    ((match pdu.vectorSize with
      | .oneByte => [pdu.vector.toUInt8]
      | .twoBytes => bigEndian 2 pdu.vector.toUInt16.toNat
      | .fourBytes => bigEndian 4 pdu.vector.toNat) ++
      (pdu.header ++ pdu.data))

variable (block : List PDU)

def writeBlock : List UInt8 := block.flatMap PDU.written

/-- `PDUBlock::Size`, which `AddPDU` keeps. -/
def blockSize : UInt32 :=
  block.foldl (fun size pdu => size + UInt32.ofNat pdu.size) 0

/-- What an inflator is to hand on of a PDU with this header. -/
def PDU.handedOn {Header : Type} (pdu : PDU) (header : Header) : Inflated Header :=
  ⟨pdu.vector, header, pdu.data⟩

/-- A block is packed as it is written, and is found again. -/
def RoundTrips {Header : Type} (layer : Layer Header) (block : List (PDU × Header)) : Prop :=
  let written := writeBlock (block.map Prod.fst)
  (∀ room, written.length ≤ room → packBlock room (block.map Prod.fst) = some written) ∧
    written.length = (blockSize (block.map Prod.fst)).toNat ∧
    layer.inflatePDUBlock written =
      (block.map (fun entry => entry.1.handedOn entry.2), written.length)

/-- The sizes of the PDUs, added up without a bound. -/
def totalSize : List PDU → Nat
  | [] => 0
  | pdu :: rest => pdu.size + totalSize rest

/-- Each PDU has a length of twelve bits and a vector that its field can hold, and the size of
the block does not wrap around. -/
def Encodable : Prop :=
  (∀ pdu ∈ block, pdu.size ≤ twoByteLengthLimit ∧
    pdu.vector.toNat < 256 ^ pdu.vectorSize.bytes) ∧
    totalSize block < 2 ^ 32

/-- A header decoder that uses the same number of bytes whatever they are. -/
def FixedSize {Header : Type} (decode : Reader Header) (count : Nat) : Prop :=
  ∀ {bytes header rest}, decode bytes = some (header, rest) → bytes.length = count + rest.length

theorem written_short {size : Nat} (short : size ≤ twoByteLengthLimit) :
    writtenFlagsAndLength size = flagsAndLength size := by
  have bound : size < 2 ^ 12 := Nat.lt_succ_of_le short
  have top : ((vectorFlag ||| headerFlag ||| dataFlag).toUInt16 <<< 8).toNat = 2 ^ 12 * 7 := by
    decide
  have joined : (UInt16.ofNat size |||
      ((vectorFlag ||| headerFlag ||| dataFlag).toUInt16 <<< 8)).toNat =
      2 ^ 12 * 7 + size := by
    rw [UInt16.toNat_or, top, UInt16.toNat_ofNat', Nat.mod_eq_of_lt (by omega), Nat.or_comm,
      Nat.two_pow_add_eq_or_of_lt bound]
  have nibble : ∀ high : Fin 16, UInt8.ofNat (16 * 7 + high.val) =
      UInt8.ofNat high.val ||| (vectorFlag ||| headerFlag ||| dataFlag) := by decide
  have first := nibble ⟨size / 256 % 16, Nat.mod_lt _ (by decide)⟩
  have high : (2 ^ 12 * 7 + size) / 256 ^ 1 = 16 * 7 + size / 256 % 16 := by omega
  have low : UInt8.ofNat ((2 ^ 12 * 7 + size) / 256 ^ 0) = UInt8.ofNat size := by
    apply UInt8.toNat.inj
    rw [UInt8.toNat_ofNat', UInt8.toNat_ofNat']
    omega
  unfold writtenFlagsAndLength
  rw [if_pos short, flagsAndLength_short short, joined, bigEndian, bigEndian, bigEndian, high, low,
    first]
  rfl

theorem written_flagsAndLength (size : Nat) : writtenFlagsAndLength size = flagsAndLength size := by
  by_cases short : size ≤ twoByteLengthLimit
  · exact written_short short
  · unfold writtenFlagsAndLength flagsAndLength
    rw [if_neg short, if_neg short, UInt8.or_comm]

theorem written_vector (vectorSize : VectorSize) (vector : UInt32) :
    (match vectorSize with
      | .oneByte => [vector.toUInt8]
      | .twoBytes => bigEndian 2 vector.toUInt16.toNat
      | .fourBytes => bigEndian 4 vector.toNat) = bigEndian vectorSize.bytes vector.toNat := by
  cases vectorSize with
  | oneByte => simp [bigEndian, VectorSize.bytes]
  | twoBytes =>
    have value : vector.toUInt16.toNat = vector.toNat % 65536 := by simp
    have high : UInt8.ofNat (vector.toNat % 65536 / 256) = UInt8.ofNat (vector.toNat / 256) := by
      apply UInt8.toNat.inj
      rw [UInt8.toNat_ofNat', UInt8.toNat_ofNat']
      omega
    have low : UInt8.ofNat (vector.toNat % 65536 / 1) = UInt8.ofNat (vector.toNat / 1) := by
      apply UInt8.toNat.inj
      rw [UInt8.toNat_ofNat', UInt8.toNat_ofNat']
      omega
    show [UInt8.ofNat (vector.toNat % 65536 / 256), UInt8.ofNat (vector.toNat % 65536 / 1)] =
      [UInt8.ofNat (vector.toNat / 256), UInt8.ofNat (vector.toNat / 1)]
    rw [high, low]
  | fourBytes => rfl

theorem PDU.written_eq_bytes (pdu : PDU) : pdu.written = pdu.bytes := by
  unfold PDU.written PDU.bytes
  rw [written_flagsAndLength, written_vector]

theorem writeBlock_cons (pdu : PDU) (rest : List PDU) :
    writeBlock (pdu :: rest) = pdu.bytes ++ writeBlock rest := by
  rw [writeBlock, flatMap_cons, PDU.written_eq_bytes]
  rfl

theorem length_writeBlock : (writeBlock block).length = totalSize block := by
  induction block with
  | nil => rfl
  | cons pdu rest ih => rw [writeBlock_cons, length_append, pdu.length_bytes, ih, totalSize]

theorem packBlock_writeBlock {room : Nat} (enough : totalSize block ≤ room) :
    packBlock room block = some (writeBlock block) := by
  induction block generalizing room with
  | nil => rfl
  | cons pdu rest ih =>
    rw [totalSize] at enough
    have others := ih (show totalSize rest ≤ room - pdu.size by omega)
    rw [packBlock, PDU.pack, if_neg (by omega), others, writeBlock_cons]

theorem foldl_size (start : UInt32) :
    (block.foldl (fun size pdu => size + UInt32.ofNat pdu.size) start).toNat =
      (start.toNat + totalSize block) % 2 ^ 32 := by
  induction block generalizing start with
  | nil =>
    have bound := start.toNat_lt
    show start.toNat = (start.toNat + 0) % 2 ^ 32
    omega
  | cons pdu rest ih =>
    rw [foldl_cons, ih, totalSize, UInt32.toNat_add, UInt32.toNat_ofNat']
    omega

/-- The size of a block is the number of its bytes, unless the sum wraps around. -/
theorem toNat_blockSize : (blockSize block).toNat = totalSize block % 2 ^ 32 := by
  rw [blockSize, foldl_size, show (0 : UInt32).toNat = 0 from rfl, Nat.zero_add]

section Inflated
variable {Header : Type} {layer : Layer Header}

theorem inflateFrom_writeBlock (block : List (PDU × Header)) {fuel : Nat}
    (each : ∀ entry ∈ block, layer.vectorSize = entry.1.vectorSize ∧
      entry.1.size ≤ twoByteLengthLimit ∧
      entry.1.vector.toNat < 256 ^ entry.1.vectorSize.bytes ∧
      Reads layer.decodeHeader entry.1.header entry.2)
    (enough : block.length ≤ fuel) (fields : Fields Header) :
    layer.inflateFrom fuel fields (writeBlock (block.map Prod.fst)) =
      (block.map (fun entry => entry.1.handedOn entry.2),
        (writeBlock (block.map Prod.fst)).length) := by
  induction block generalizing fuel fields with
  | nil => exact Layer.inflateFrom_nil layer fuel fields
  | cons entry rest ih =>
    obtain ⟨⟨same, short, fits, reads⟩, others⟩ := forall_mem_cons.mp each
    rw [length_cons] at enough
    obtain ⟨fuel, rfl⟩ : ∃ less, fuel = less + 1 := ⟨fuel - 1, by omega⟩
    have behind := ih others (show rest.length ≤ fuel by omega)
      ⟨some entry.1.packedVector, some entry.2⟩
    rw [map_cons, map_cons, writeBlock_cons,
      Layer.inflateFrom_bytes same short reads, behind, length_append,
      PDU.length_bytes, PDU.packedVector_of_fits fits]
    rfl

theorem length_le_totalSize : block.length ≤ totalSize block := by
  induction block with
  | nil => exact Nat.le_refl 0
  | cons pdu rest ih =>
    have enough := pdu.two_le_size
    rw [totalSize, length_cons]
    omega

/-- What an encodable block takes to be found again. -/
theorem Encodable.roundTrips {block : List (PDU × Header)}
    (encodable : Encodable (block.map Prod.fst))
    (same : ∀ entry ∈ block, layer.vectorSize = entry.1.vectorSize)
    (reads : ∀ entry ∈ block, Reads layer.decodeHeader entry.1.header entry.2) :
    RoundTrips layer block := by
  have each : ∀ entry ∈ block, layer.vectorSize = entry.1.vectorSize ∧
      entry.1.size ≤ twoByteLengthLimit ∧
      entry.1.vector.toNat < 256 ^ entry.1.vectorSize.bytes ∧
      Reads layer.decodeHeader entry.1.header entry.2 := by
    intro entry member
    have fits := encodable.1 entry.1 (mem_map_of_mem member)
    exact ⟨same entry member, fits.1, fits.2, reads entry member⟩
  have enough := length_le_totalSize (block.map Prod.fst)
  rw [length_map, ← length_writeBlock] at enough
  have length := length_writeBlock (block.map Prod.fst)
  refine ⟨fun room fits => packBlock_writeBlock _ (by omega), ?_, ?_⟩
  · rw [toNat_blockSize, Nat.mod_eq_of_lt encodable.2, length]
  · exact inflateFrom_writeBlock block each enough ⟨none, none⟩

end Inflated

section Long
variable {Header : Type} {layer : Layer Header} {count : Nat}

variable {fields : Fields Header} {flags : UInt8} {data : List UInt8} {pdu : PDU}

theorem length_of_decodeVector {rest : List UInt8} {vector : UInt32}
    (decoded : layer.decodeVector fields flags data = some (vector, rest)) :
    rest.length ≤ data.length := by
  unfold Layer.decodeVector at decoded
  split at decoded
  · split at decoded
    · cases decoded
    · cases decoded
      simp
  · obtain ⟨last, -, pair⟩ := Option.map_eq_some_iff.mp decoded
    cases pair
    omega

/-- Where no header can be inherited, what is handed on had one of its own. -/
theorem length_of_inflatePDU {next : Fields Header} {inflated : Inflated Header}
    (fixed : FixedSize layer.decodeHeader count) (nothing : fields.header = none)
    (handed : layer.inflatePDU fields flags data = (some inflated, next)) :
    count + inflated.data.length ≤ data.length := by
  unfold Layer.inflatePDU at handed
  split at handed
  · cases handed
  · rename_i vector rest decoded
    have less := length_of_decodeVector decoded
    dsimp only at handed
    unfold Layer.headerOf at handed
    rw [nothing] at handed
    by_cases present : flags &&& headerFlag ≠ 0
    · rw [if_pos present] at handed
      split at handed
      · cases handed
      · rename_i header behind read
        have consumed := fixed read
        cases handed
        show count + behind.length ≤ data.length
        omega
    · rw [if_neg present] at handed
      cases handed

theorem header_of_inflatePDU {next : Fields Header}
    (handed : layer.inflatePDU fields flags data = (none, next)) :
    next.header = fields.header := by
  unfold Layer.inflatePDU at handed
  split at handed
  · cases handed
    rfl
  · dsimp only at handed
    split at handed
    · cases handed
      rfl
    · cases handed

/-- The first PDU that is handed on has its data, a header and a length behind what came before. -/
theorem length_of_inflateFrom (fixed : FixedSize layer.decodeHeader count) (fuel : Nat)
    (nothing : fields.header = none) {inflated : Inflated Header} {others : List (Inflated Header)}
    (handed : (layer.inflateFrom fuel fields data).1 = inflated :: others) :
    2 + count + inflated.data.length ≤ data.length := by
  induction fuel generalizing fields data with
  | zero => cases handed
  | succ fuel ih =>
    rw [Layer.inflateFrom] at handed
    cases decoded : decodeLength data with
    | none =>
      rw [decoded] at handed
      cases handed
    | some pair =>
      obtain ⟨length, used⟩ := pair
      have header := used_of_decodeLength decoded
      rw [decoded] at handed
      dsimp only at handed
      by_cases whole : length ≤ data.length
      · rw [if_pos whole] at handed
        cases first : layer.inflatePDU fields (data.headD 0) ((data.take length).drop used) with
        | mk result next =>
          rw [first] at handed
          cases result with
          | none =>
            have later := ih ((header_of_inflatePDU first).trans nothing) handed
            rw [length_drop] at later
            omega
          | some own =>
            have inside := length_of_inflatePDU fixed nothing first
            rw [length_drop, length_take] at inside
            cases handed
            omega
      · rw [if_neg whole] at handed
        cases handed

/-- The length of a long PDU is taken for one of twelve bits, since its flag is missing. -/
theorem decodeLength_long (long : twoByteLengthLimit < pdu.size) (bound : pdu.size < 2 ^ 20) :
    decodeLength pdu.bytes = some (pdu.size / 256, 2) := by
  have least : 0x0fff < pdu.size := long
  have first := firstByte_flags (pdu.size / 256)
  have low : (UInt8.ofNat (pdu.size / 256)).toNat = pdu.size / 256 % 256 := UInt8.toNat_ofNat'
  have top : pdu.size / 256 / 256 = pdu.size / 65536 := by omega
  have whole : pdu.size / 256 % 256 + pdu.size / 65536 % 16 * 256 = pdu.size / 256 := by omega
  have shape : flagsAndLength pdu.size = [firstByte (pdu.size / 256),
      UInt8.ofNat (pdu.size / 256), UInt8.ofNat pdu.size] := by
    unfold flagsAndLength firstByte
    rw [if_neg (by omega), top]
  rw [top] at first
  unfold PDU.bytes
  simp only [shape, cons_append, nil_append, decodeLength, first.1, first.2.1, low, whole,
    ne_eq, not_true_eq_false, if_false]
  rw [if_neg (by omega)]

/-- A long PDU is not found again. -/
theorem not_inflated_long {header : Header} (fixed : FixedSize layer.decodeHeader count)
    (full : pdu.header.length = count) (long : twoByteLengthLimit < pdu.size)
    (bound : pdu.size < 2 ^ 20) :
    (layer.inflatePDUBlock pdu.bytes).1 ≠ [pdu.handedOn header] := by
  have least : 0x0fff < pdu.size := long
  have length := pdu.length_bytes
  have parts := PDU.size_of_long long
  have vector : pdu.vectorSize.bytes ≤ 4 := by
    cases pdu.vectorSize <;> decide
  intro handed
  unfold Layer.inflatePDUBlock at handed
  obtain ⟨fuel, room⟩ : ∃ fuel, pdu.bytes.length = fuel + 1 := ⟨pdu.size - 1, by omega⟩
  rw [room, Layer.inflateFrom, decodeLength_long long bound] at handed
  dsimp only at handed
  rw [if_pos (by omega)] at handed
  cases first : layer.inflatePDU ⟨none, none⟩ (pdu.bytes.headD 0)
      ((pdu.bytes.take (pdu.size / 256)).drop 2) with
  | mk result next =>
    rw [first] at handed
    cases result with
    | none =>
      have later := length_of_inflateFrom fixed fuel (header_of_inflatePDU first) handed
      rw [length_drop, length] at later
      have data : (pdu.handedOn header).data.length = pdu.data.length := rfl
      omega
    | some own =>
      have inside := length_of_inflatePDU fixed rfl first
      rw [length_drop, length_take] at inside
      have same : own = pdu.handedOn header := head_eq_of_cons_eq handed
      rw [same] at inside
      have data : (pdu.handedOn header).data.length = pdu.data.length := rfl
      omega

/-- A PDU that is found again by itself is short, and its vector fits. -/
theorem RoundTrips.single {header : Header} (found : RoundTrips layer [(pdu, header)])
    (same : layer.vectorSize = pdu.vectorSize) (reads : Reads layer.decodeHeader pdu.header header)
    (fixed : FixedSize layer.decodeHeader count) (bound : pdu.size < 2 ^ 20) :
    pdu.size ≤ twoByteLengthLimit ∧ pdu.vector.toNat < 256 ^ pdu.vectorSize.bytes := by
  have full : pdu.header.length = count := by
    have consumed := fixed (reads [])
    rwa [append_nil] at consumed
  have handed := congrArg Prod.fst found.2.2
  have written : writeBlock [pdu] = pdu.bytes := by
    rw [writeBlock_cons]
    exact append_nil _
  rw [show [(pdu, header)].map Prod.fst = [pdu] from rfl, written] at handed
  have short : pdu.size ≤ twoByteLengthLimit := by
    by_contra long
    exact not_inflated_long fixed full (Nat.lt_of_not_le long) bound handed
  rw [Layer.inflatePDUBlock_packed same short reads] at handed
  have vector : pdu.packedVector = pdu.vector :=
    congrArg Inflated.vector (head_eq_of_cons_eq handed)
  have number : pdu.vector.toNat % 256 ^ pdu.vectorSize.bytes % 2 ^ 32 = pdu.vector.toNat := by
    exact congrArg UInt32.toNat vector
  exact ⟨short, by omega⟩

end Long

section Blocks
variable {Header : Type} {layer : Layer Header}

theorem totalSize_sublist {part block : List PDU} (within : part.Sublist block) :
    totalSize part ≤ totalSize block := by
  induction within with
  | slnil => exact Nat.le_refl 0
  | cons pdu _ ih =>
    rw [totalSize]
    omega
  | cons_cons pdu _ ih =>
    rw [totalSize, totalSize]
    omega

theorem Encodable.sublist {part block : List PDU} (encodable : Encodable block)
    (within : part.Sublist block) : Encodable part :=
  ⟨fun pdu member => encodable.1 pdu (within.subset member),
    Nat.lt_of_le_of_lt (totalSize_sublist within) encodable.2⟩

/-- An encodable block is found again. If header decoders use a fixed number of bytes, a block
and all its parts are found again exactly if it is encodable. -/
theorem encodable_iff_roundTrips (layer : Layer Header) (block : List (PDU × Header))
    (same : ∀ entry ∈ block, layer.vectorSize = entry.1.vectorSize)
    (reads : ∀ entry ∈ block, Reads layer.decodeHeader entry.1.header entry.2)
    (bound : ∀ entry ∈ block, entry.1.size < 2 ^ 20) :
    (Encodable (block.map Prod.fst) → RoundTrips layer block) ∧
      ∀ count, FixedSize layer.decodeHeader count →
        ((∀ part : List (PDU × Header), part.Sublist block → RoundTrips layer part) ↔
          Encodable (block.map Prod.fst)) := by
  refine ⟨fun encodable => encodable.roundTrips same reads, fun count fixed => ⟨?_, ?_⟩⟩
  · intro found
    constructor
    · intro pdu member
      obtain ⟨entry, inside, rfl⟩ := List.mem_map.mp member
      exact (found [entry] (List.singleton_sublist.mpr inside)).single (same entry inside)
        (reads entry inside) fixed (bound entry inside)
    · have length := (found block (List.Sublist.refl block)).2.1
      rw [← length_writeBlock, length]
      exact UInt32.toNat_lt _
  · intro encodable part within
    exact (encodable.sublist (within.map Prod.fst)).roundTrips
      (fun entry member => same entry (within.subset member))
      (fun entry member => reads entry (within.subset member))

theorem fixedSize_uint8 : FixedSize uint8 1 := by
  intro bytes header rest read
  cases bytes with
  | nil => cases read
  | cons byte bytes =>
    cases read
    rw [length_cons, Nat.add_comm]
    rfl

/-- An inflator with headers of one byte. -/
def byteLayer : Layer UInt8 := ⟨.oneByte, uint8, fun _ => true⟩

/-- A PDU for it, with a vector that fits. -/
def bytePDU (header : UInt8) (data : List UInt8) : PDU := ⟨.oneByte, 1, [header], data⟩

theorem size_bytePDU (header : UInt8) (data : List UInt8) :
    (bytePDU header data).size =
      (if twoByteLengthLimit - 2 < 2 + data.length then 2 + data.length + 1
        else 2 + data.length) + 2 := rfl

theorem encodable_iff_roundTrips_bytes :
    RoundTrips byteLayer [(bytePDU 7 [1, 2, 3], 7), (bytePDU 8 [], 8)] := by
  apply (encodable_iff_roundTrips byteLayer [(bytePDU 7 [1, 2, 3], 7), (bytePDU 8 [], 8)]
    (by decide) ?_ (by decide)).1
  · exact ⟨by decide, by decide⟩
  · intro entry member
    cases member with
    | head => exact reads_byte 7
    | tail _ member =>
      cases member with
      | head => exact reads_byte 8
      | tail _ member => cases member

/-- A long PDU is within the bound, but it is not found again. -/
theorem long_block_lost :
    ∃ entry : PDU × UInt8, byteLayer.vectorSize = entry.1.vectorSize ∧
      Reads byteLayer.decodeHeader entry.1.header entry.2 ∧ entry.1.size < 2 ^ 20 ∧
      ¬ RoundTrips byteLayer [entry] := by
  have size : (bytePDU 7 (List.replicate 5000 0)).size = 5005 := by
    rw [size_bytePDU, List.length_replicate]
    rfl
  refine ⟨(bytePDU 7 (List.replicate 5000 0), 7), rfl, reads_byte 7, ?_, ?_⟩
  · show (bytePDU 7 (List.replicate 5000 0)).size < 2 ^ 20
    omega
  · intro found
    have short := (found.single rfl (reads_byte 7) fixedSize_uint8 (by omega)).1
    have limit : twoByteLengthLimit = 4095 := rfl
    omega

end Blocks

end OpenLighting.Acn
