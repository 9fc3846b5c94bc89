import OpenLighting.ByteCodec

/- The protocol data units of ACN: how they are packed and how a block of them is inflated. -/
namespace OpenLighting.Acn

open ByteCodec

inductive VectorSize where
  | oneByte
  | twoBytes
  | fourBytes
  deriving DecidableEq

def VectorSize.bytes : VectorSize → Nat
  | .oneByte => 1
  | .twoBytes => 2
  | .fourBytes => 4

/-- `VFLAG_MASK`, `HFLAG_MASK` and `DFLAG_MASK`: what is present in a PDU. -/
def vectorFlag : UInt8 := 0x40
def headerFlag : UInt8 := 0x20
def dataFlag : UInt8 := 0x10

/-- `LFLAG_MASK` and `LENGTH_MASK`: the length has 20 bits, and where its first four are. -/
def lengthFlag : UInt8 := 0x80
def lengthMask : UInt8 := 0x0f

def twoByteLengthLimit : Nat := 0x0fff

/-- A PDU, with what its `PackHeader` and `PackData` write. -/
structure PDU where
  vectorSize : VectorSize
  vector : UInt32
  header : List UInt8
  data : List UInt8

/-- The length field as `Pack` writes it, with the flags. -/
def flagsAndLength (size : Nat) : List UInt8 :=
  let flags := vectorFlag ||| headerFlag ||| dataFlag
  if size ≤ twoByteLengthLimit then
    [UInt8.ofNat (size / 256 % 16) ||| flags, UInt8.ofNat size]
  else [UInt8.ofNat (size / 65536 % 16) ||| flags, UInt8.ofNat (size / 256), UInt8.ofNat size]

variable (pdu : PDU)

namespace PDU

def size : Nat :=
  let length := pdu.vectorSize.bytes + pdu.header.length + pdu.data.length
  (if twoByteLengthLimit - 2 < length then length + 1 else length) + 2

/-- What `Pack` writes. -/
def bytes (pdu : PDU) : List UInt8 :=
  flagsAndLength pdu.size ++
    (bigEndian pdu.vectorSize.bytes pdu.vector.toNat ++ (pdu.header ++ pdu.data))

/-- `Pack` into a buffer. If there is room for the PDU, there is for its header and data. -/
def pack (room : Nat) : Option (List UInt8) :=
  if room < pdu.size then none else some pdu.bytes

end PDU

def packBlock : Nat → List PDU → Option (List UInt8)
  | _, [] => some []
  | room, pdu :: rest =>
    match pdu.pack room, packBlock (room - pdu.size) rest with
    | some front, some back => some (front ++ back)
    | _, _ => none

/-- An inflator, up to where it hands PDUs on. A header may serve for the next PDUs. -/
structure Layer (Header : Type) where
  vectorSize : VectorSize
  decodeHeader : Reader Header
  inherits : Header → Bool

/-- What the next PDUs of a block can inherit. -/
structure Fields (Header : Type) where
  vector : Option UInt32
  header : Option Header

/-- What is handed on of a PDU. -/
structure Inflated (Header : Type) where
  vector : UInt32
  header : Header
  data : List UInt8

/-- `DecodeLength`: the length of the PDU, and of the field. -/
def decodeLength : List UInt8 → Option (Nat × Nat)
  | [] => none
  | flags :: rest =>
    let top := (flags &&& lengthMask).toNat
    if flags &&& lengthFlag ≠ 0 then
      match rest with
      | high :: low :: _ =>
        let length := low.toNat + high.toNat * 256 + top * 65536
        if length < 3 then none else some (length, 3)
      | _ => none
    else
      match rest with
      | low :: _ =>
        let length := low.toNat + top * 256
        if length < 2 then none else some (length, 2)
      | [] => none

namespace Layer
variable {Header : Type} (layer : Layer Header) (fields : Fields Header)

/-- `DecodeVector`, with what is left of the data. -/
def decodeVector (flags : UInt8) (data : List UInt8) : Option (UInt32 × List UInt8) :=
  if flags &&& vectorFlag ≠ 0 then
    if data.length < layer.vectorSize.bytes then none
    else
      some (UInt32.ofNat (number (data.take layer.vectorSize.bytes)),
        data.drop layer.vectorSize.bytes)
  else fields.vector.map (fun vector => (vector, data))

/-- The header of a PDU: its own, or the last one. -/
def headerOf (flags : UInt8) (data : List UInt8) : Option (Header × List UInt8) :=
  if flags &&& headerFlag ≠ 0 then layer.decodeHeader data
  else
    match fields.header with
    | none => none
    | some header => if layer.inherits header then some (header, data) else none

/-- `InflatePDU`, up to where the data is handed on. -/
def inflatePDU (flags : UInt8) (data : List UInt8) : Option (Inflated Header) × Fields Header :=
  match layer.decodeVector fields flags data with
  | none => (none, fields)
  | some (vector, rest) =>
    let fields := { fields with vector := some vector }
    match layer.headerOf fields flags rest with
    | none => (none, fields)
    | some (header, rest) =>
      (some ⟨vector, header, rest⟩, { fields with header := some header })

/-- The loop of `InflatePDUBlock`: what is handed on, and how much is used. Every round uses two
bytes or more. -/
def inflateFrom (layer : Layer Header) : Nat → Fields Header → List UInt8 →
    List (Inflated Header) × Nat
  | 0, _, _ => ([], 0)
  | fuel + 1, fields, data =>
    match decodeLength data with
    | none => ([], 0)
    | some (length, used) =>
      if length ≤ data.length then
        let (inflated, fields) :=
          layer.inflatePDU fields (data.headD 0) ((data.take length).drop used)
        let (others, total) := layer.inflateFrom fuel fields (data.drop length)
        (inflated.toList ++ others, length + total)
      else ([], data.length)

def inflatePDUBlock (data : List UInt8) : List (Inflated Header) × Nat :=
  layer.inflateFrom data.length ⟨none, none⟩ data

end Layer

/-- The first byte of a PDU with a length of twelve bits, of which it has the top four. -/
def firstByte (size : Nat) : UInt8 :=
  UInt8.ofNat (size / 256 % 16) ||| (vectorFlag ||| headerFlag ||| dataFlag)

theorem firstByte_flags (size : Nat) :
    firstByte size &&& lengthFlag = 0 ∧
      (firstByte size &&& lengthMask).toNat = size / 256 % 16 ∧
      firstByte size &&& vectorFlag ≠ 0 ∧ firstByte size &&& headerFlag ≠ 0 := by
  have nibble : ∀ top : Fin 16,
      (UInt8.ofNat top.val ||| (vectorFlag ||| headerFlag ||| dataFlag)) &&& lengthFlag = 0 ∧
        ((UInt8.ofNat top.val ||| (vectorFlag ||| headerFlag ||| dataFlag)) &&& lengthMask).toNat =
          top.val ∧
        (UInt8.ofNat top.val ||| (vectorFlag ||| headerFlag ||| dataFlag)) &&& vectorFlag ≠ 0 ∧
        (UInt8.ofNat top.val ||| (vectorFlag ||| headerFlag ||| dataFlag)) &&& headerFlag ≠ 0 := by
    decide
  exact nibble ⟨size / 256 % 16, Nat.mod_lt _ (by decide)⟩

theorem flagsAndLength_short {size : Nat} (short : size ≤ twoByteLengthLimit) :
    flagsAndLength size = [firstByte size, UInt8.ofNat size] := if_pos short

/-- A length of twelve bits is found again. -/
theorem decodeLength_flagsAndLength {size : Nat} (enough : 2 ≤ size)
    (short : size ≤ twoByteLengthLimit) (rest : List UInt8) :
    decodeLength (flagsAndLength size ++ rest) = some (size, 2) := by
  have bound : size ≤ 0x0fff := short
  have flags := firstByte_flags size
  have low : (UInt8.ofNat size).toNat = size % 256 := UInt8.toNat_ofNat'
  have whole : size % 256 + size / 256 % 16 * 256 = size := by omega
  simp only [flagsAndLength_short short, List.cons_append, List.nil_append, decodeLength, flags.1,
    flags.2.1, low, whole, ne_eq, not_true_eq_false, if_false]
  rw [if_neg (by omega)]

theorem used_of_decodeLength {data : List UInt8} {length used : Nat}
    (decoded : decodeLength data = some (length, used)) : 2 ≤ used ∧ used ≤ length := by
  unfold decodeLength at decoded
  split at decoded
  · cases decoded
  · dsimp only at decoded
    split at decoded
    · split at decoded
      · split at decoded
        · cases decoded
        · cases decoded
          omega
      · cases decoded
    · split at decoded
      · split at decoded
        · cases decoded
        · cases decoded
          omega
      · cases decoded

namespace PDU
variable {pdu : PDU}

theorem two_le_size : 2 ≤ pdu.size := Nat.le_add_left 2 _

theorem size_of_long (long : twoByteLengthLimit < pdu.size) :
    pdu.size = 3 + (pdu.vectorSize.bytes + (pdu.header.length + pdu.data.length)) := by
  unfold size twoByteLengthLimit at *
  dsimp only at *
  split
  · omega
  · rename_i less
    rw [if_neg less] at long
    omega

theorem size_le {bound : Nat}
    (parts : pdu.vectorSize.bytes + pdu.header.length + pdu.data.length ≤ bound)
    (short : bound ≤ twoByteLengthLimit - 2) : pdu.size ≤ bound + 2 := by
  unfold size
  dsimp only
  rw [if_neg (by omega)]
  omega

theorem length_flagsAndLength (size : Nat) :
    (flagsAndLength size).length = if size ≤ twoByteLengthLimit then 2 else 3 := by
  unfold flagsAndLength
  split <;> rfl

theorem length_bytes : pdu.bytes.length = pdu.size := by
  have length := length_flagsAndLength pdu.size
  unfold bytes
  rw [List.length_append, List.length_append, List.length_append, length, length_bigEndian]
  unfold size twoByteLengthLimit
  dsimp only
  split <;> split <;> omega

/-- The vector, as far as its field has room for it. -/
def packedVector : UInt32 :=
  UInt32.ofNat (pdu.vector.toNat % 256 ^ pdu.vectorSize.bytes)

theorem packedVector_of_fits (fits : pdu.vector.toNat < 256 ^ pdu.vectorSize.bytes) :
    pdu.packedVector = pdu.vector := by
  rw [packedVector, Nat.mod_eq_of_lt fits, UInt32.ofNat_toNat]

end PDU

namespace Layer
variable {Header : Type} {layer : Layer Header} {pdu : PDU} {header : Header}

theorem inflateFrom_nil (layer : Layer Header) (fuel : Nat) (fields : Fields Header) :
    layer.inflateFrom fuel fields [] = ([], 0) := by
  cases fuel with
  | zero | succ fuel => rfl

/-- A PDU that has all its fields is handed on, whatever came before. -/
theorem inflatePDU_packed (same : layer.vectorSize = pdu.vectorSize)
    (reads : Reads layer.decodeHeader pdu.header header) (fields : Fields Header) {flags : UInt8}
    (vectorPresent : flags &&& vectorFlag ≠ 0) (headerPresent : flags &&& headerFlag ≠ 0) :
    layer.inflatePDU fields flags
        (bigEndian pdu.vectorSize.bytes pdu.vector.toNat ++ (pdu.header ++ pdu.data)) =
      (some ⟨pdu.packedVector, header, pdu.data⟩, ⟨some pdu.packedVector, some header⟩) := by
  have length := length_bigEndian pdu.vectorSize.bytes pdu.vector.toNat
  have vector : layer.decodeVector fields flags
      (bigEndian pdu.vectorSize.bytes pdu.vector.toNat ++ (pdu.header ++ pdu.data)) =
        some (pdu.packedVector, pdu.header ++ pdu.data) := by
    unfold decodeVector
    rw [if_pos vectorPresent, same, if_neg (by simp), List.take_left' length,
      List.drop_left' length, number_bigEndian]
    rfl
  unfold inflatePDU headerOf
  rw [vector]
  dsimp only
  rw [if_pos headerPresent, reads pdu.data]

section
variable (same : layer.vectorSize = pdu.vectorSize) (short : pdu.size ≤ twoByteLengthLimit)
include same short

/-- A PDU in front of a block. -/
theorem inflateFrom_bytes (reads : Reads layer.decodeHeader pdu.header header) (fuel : Nat)
    (fields : Fields Header) (rest : List UInt8) :
    layer.inflateFrom (fuel + 1) fields (pdu.bytes ++ rest) =
      (⟨pdu.packedVector, header, pdu.data⟩ ::
          (layer.inflateFrom fuel ⟨some pdu.packedVector, some header⟩ rest).1,
        pdu.size + (layer.inflateFrom fuel ⟨some pdu.packedVector, some header⟩ rest).2) := by
  have length := pdu.length_bytes
  have decoded : decodeLength (pdu.bytes ++ rest) = some (pdu.size, 2) := by
    unfold PDU.bytes
    rw [List.append_assoc]
    exact decodeLength_flagsAndLength pdu.two_le_size short _
  have shape : pdu.bytes = firstByte pdu.size :: UInt8.ofNat pdu.size ::
      (bigEndian pdu.vectorSize.bytes pdu.vector.toNat ++ (pdu.header ++ pdu.data)) := by
    unfold PDU.bytes
    rw [flagsAndLength_short short]
    rfl
  have inside : ((pdu.bytes ++ rest).take pdu.size).drop 2 =
      bigEndian pdu.vectorSize.bytes pdu.vector.toNat ++ (pdu.header ++ pdu.data) := by
    rw [List.take_left' length, shape]
    rfl
  have first : (pdu.bytes ++ rest).headD 0 = firstByte pdu.size := by
    rw [shape]
    rfl
  have flags := firstByte_flags pdu.size
  rw [inflateFrom, decoded]
  dsimp only
  rw [if_pos (by simp [length]), inside, first,
    inflatePDU_packed same reads fields flags.2.2.1 flags.2.2.2, List.drop_left' length]
  rfl

theorem inflatePDUBlock_packed (reads : Reads layer.decodeHeader pdu.header header) :
    layer.inflatePDUBlock pdu.bytes = ([⟨pdu.packedVector, header, pdu.data⟩], pdu.size) := by
  have length := pdu.length_bytes
  have fuel : pdu.bytes.length = (pdu.bytes.length - 1) + 1 := by
    have enough := pdu.two_le_size
    omega
  have block := inflateFrom_bytes same short reads (pdu.bytes.length - 1) ⟨none, none⟩ []
  rw [List.append_nil, ← fuel, inflateFrom_nil] at block
  exact block

theorem inflatePDUBlock_bytes (fits : pdu.vector.toNat < 256 ^ pdu.vectorSize.bytes)
    (reads : Reads layer.decodeHeader pdu.header header) :
    layer.inflatePDUBlock pdu.bytes = ([⟨pdu.vector, header, pdu.data⟩], pdu.size) := by
  have packed := inflatePDUBlock_packed same short reads
  rwa [PDU.packedVector_of_fits fits] at packed

end

end Layer

end OpenLighting.Acn
