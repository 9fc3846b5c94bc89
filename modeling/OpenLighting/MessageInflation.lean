import OpenLighting.MessageDeserializer
import OpenLighting.RdmCommandSerializer

/- What is read from the bytes of a message. -/
namespace OpenLighting.Messaging.MessageDeserializer

open OpenLighting.NetworkUtils List
open MessageSerializer (pieces allPieces encoded stringSize stringBytes allPieces_append)

mutual

/-- A field on the other side. -/
def received (bigEndian : Bool) : MessageField → MessageField
  | .integer type descriptor value =>
    .integer type descriptor
      (toWire bigEndian descriptor.littleEndian type
        (toWire bigEndian descriptor.littleEndian type value))
  | .group name descriptors minBlocks maxBlocks fields =>
    .group name descriptors minBlocks maxBlocks (receivedAll bigEndian fields)
  | field => field

def receivedAll (bigEndian : Bool) : List MessageField → List MessageField
  | [] => []
  | field :: rest => received bigEndian field :: receivedAll bigEndian rest

end

mutual

/-- No integer of a field is lost on the way. -/
def KeptField (bigEndian : Bool) : MessageField → Prop
  | .integer type descriptor value => Kept bigEndian descriptor.littleEndian type value
  | .group _ _ _ _ fields => KeptAll bigEndian fields
  | _ => True

def KeptAll (bigEndian : Bool) : List MessageField → Prop
  | [] => True
  | field :: rest => KeptField bigEndian field ∧ KeptAll bigEndian rest

end

mutual

theorem received_iff (bigEndian : Bool) : ∀ field : MessageField,
    received bigEndian field = field ↔ KeptField bigEndian field
  | .bool _ _ | .ipv4 _ _ | .mac _ _ | .uid _ _ | .string _ _ => by
    simp only [received, KeptField]
  | .integer type descriptor value => by
    rw [received, KeptField, ← toWire_toWire_iff]
    simp
  | .group name descriptors minBlocks maxBlocks fields => by
    rw [received, KeptField, ← receivedAll_iff bigEndian fields]
    simp

/-- A message comes back if and only if no integer is lost. -/
theorem receivedAll_iff (bigEndian : Bool) : ∀ fields : List MessageField,
    receivedAll bigEndian fields = fields ↔ KeptAll bigEndian fields
  | [] => by simp only [receivedAll, KeptAll]
  | field :: rest => by
    rw [receivedAll, KeptAll, List.cons.injEq, received_iff bigEndian field,
      receivedAll_iff bigEndian rest]

end

theorem receivedAll_append (bigEndian : Bool) (first second : List MessageField) :
    receivedAll bigEndian (first ++ second) =
      receivedAll bigEndian first ++ receivedAll bigEndian second := by
  induction first with
  | nil => rfl
  | cons field rest ih => rw [cons_append, receivedAll, receivedAll, ih, cons_append]

variable {bytes : List UInt8}

section Reading

variable {bigEndian : Bool} {deserializer : MessageDeserializer}

/-- The deserializer behind some bytes that were read as fields. -/
def advance (deserializer : MessageDeserializer) (count : Nat) (fields : List MessageField) :
    MessageDeserializer :=
  { deserializer with offset := deserializer.offset + count }.pushBack fields

/-- These bytes are to be read next. -/
structure Next (deserializer : MessageDeserializer) (bytes : List UInt8) : Prop where
  small : deserializer.data.length < 2 ^ 32
  inside : deserializer.offset ≤ deserializer.data.length
  found : ∃ rest, deserializer.data.drop deserializer.offset = bytes ++ rest
  open_ : deserializer.messageStack ≠ []

@[simp] theorem advance_data (count : Nat) (fields : List MessageField) :
    (deserializer.advance count fields).data = deserializer.data := by
  unfold advance pushBack
  split <;> rfl

@[simp] theorem advance_offset (count : Nat) (fields : List MessageField) :
    (deserializer.advance count fields).offset = deserializer.offset + count := by
  unfold advance pushBack
  split <;> rfl

@[simp] theorem advance_variableFieldSize (count : Nat) (fields : List MessageField) :
    (deserializer.advance count fields).variableFieldSize = deserializer.variableFieldSize := by
  unfold advance pushBack
  split <;> rfl

theorem advance_advance (first second : Nat) (fields more : List MessageField) :
    (deserializer.advance first fields).advance second more =
      deserializer.advance (first + second) (fields ++ more) := by
  obtain ⟨data, offset, size, insufficient, stack⟩ := deserializer
  cases stack with
  | nil => simp only [advance, pushBack, Nat.add_assoc]
  | cons top below => simp only [advance, pushBack, Nat.add_assoc, append_assoc]

theorem advance_nothing : deserializer.advance 0 [] = deserializer := by
  obtain ⟨data, offset, size, insufficient, stack⟩ := deserializer
  cases stack with
  | nil => rfl
  | cons top below => simp only [advance, pushBack, Nat.add_zero, append_nil]

theorem advance_open {count : Nat} {fields : List MessageField}
    (nonempty : deserializer.messageStack ≠ []) :
    (deserializer.advance count fields).messageStack ≠ [] := by
  obtain ⟨data, offset, size, insufficient, stack⟩ := deserializer
  cases stack with
  | nil => exact absurd rfl nonempty
  | cons top below => exact cons_ne_nil _ _

theorem Next.left {first second : List UInt8} (next : Next deserializer (first ++ second)) :
    Next deserializer first := by
  obtain ⟨rest, found⟩ := next.found
  exact ⟨next.small, next.inside, ⟨second ++ rest, by rw [found, append_assoc]⟩, next.open_⟩

theorem Next.length_le (next : Next deserializer bytes) :
    deserializer.offset + bytes.length ≤ deserializer.data.length := by
  obtain ⟨rest, found⟩ := next.found
  have lengths := congrArg List.length found
  have inside := next.inside
  rw [length_drop, length_append] at lengths
  omega

theorem Next.right {first second : List UInt8} (next : Next deserializer (first ++ second))
    (fields : List MessageField) : Next (deserializer.advance first.length fields) second := by
  have inside := next.left.length_le
  obtain ⟨rest, found⟩ := next.found
  constructor
  · rw [advance_data]
    exact next.small
  · rw [advance_data, advance_offset]
    exact inside
  · refine ⟨rest, ?_⟩
    rw [advance_data, advance_offset, ← drop_drop, found, append_assoc, drop_left]
  · exact advance_open next.open_

theorem take_next {size : Nat} (next : Next deserializer bytes) (make : List UInt8 → MessageField)
    (length : bytes.length = size) :
    deserializer.take size make = deserializer.advance size [make bytes] := by
  have inside := next.length_le
  have small := next.small
  obtain ⟨rest, found⟩ := next.found
  have enough : deserializer.checkForData size = true := by
    unfold checkForData
    rw [decide_eq_true_eq]
    omega
  unfold take advance
  rw [if_pos enough, found, ← length, take_left]

/-- Some fields are read from their bytes. -/
def Reads (bigEndian : Bool) (variableFieldSize : Nat) (descriptors : List FieldDescriptor)
    (fields : List MessageField) : Prop :=
  ∀ deserializer : MessageDeserializer, deserializer.variableFieldSize = variableFieldSize →
    Next deserializer (encoded (allPieces bigEndian fields)) →
    visitAll bigEndian descriptors deserializer =
      deserializer.advance (encoded (allPieces bigEndian fields)).length
        (receivedAll bigEndian fields)

theorem encoded_append (first second : List MessageSerializer.Piece) :
    encoded (first ++ second) = encoded first ++ encoded second := flatMap_append

theorem visitAll_append (first second : List FieldDescriptor) :
    visitAll bigEndian (first ++ second) deserializer =
      visitAll bigEndian second (visitAll bigEndian first deserializer) := by
  induction first generalizing deserializer with
  | nil => rfl
  | cons field rest ih =>
    exact ih

theorem reads_nil (size : Nat) : Reads bigEndian size [] [] :=
  fun _ _ _ => advance_nothing.symm

theorem Reads.append {size : Nat} {first second : List FieldDescriptor}
    {fields more : List MessageField} (reads : Reads bigEndian size first fields)
    (readsMore : Reads bigEndian size second more) :
    Reads bigEndian size (first ++ second) (fields ++ more) := by
  intro deserializer same next
  rw [allPieces_append, encoded_append] at next ⊢
  rw [visitAll_append, reads deserializer same next.left,
    readsMore _ (by rw [advance_variableFieldSize, same]) (next.right _), advance_advance,
    length_append, receivedAll_append]

end Reading

variable (name : List UInt8)

section Fields

variable {bigEndian : Bool} {variableFieldSize : Nat}

theorem reads_field {descriptor : FieldDescriptor} {field : MessageField} {required : Nat}
    {size : Nat} (make : List UInt8 → MessageField)
    (piece : pieces bigEndian field = [⟨required, bytes⟩]) (length : bytes.length = size)
    (visits : ∀ deserializer : MessageDeserializer,
      deserializer.variableFieldSize = variableFieldSize →
      visit bigEndian descriptor deserializer = deserializer.take size make)
    (made : make bytes = received bigEndian field) :
    Reads bigEndian variableFieldSize [descriptor] [field] := by
  intro deserializer same next
  have sent : encoded (allPieces bigEndian [field]) = bytes := by
    rw [allPieces, allPieces, piece]
    exact append_nil bytes
  rw [sent] at next ⊢
  rw [visitAll, visitAll, visits deserializer same, take_next next make length, made, length]
  rfl

theorem reads_bool (value : Bool) :
    Reads bigEndian variableFieldSize [.bool name] [.bool name value] := by
  apply reads_field (fun bytes => .bool name (bytes.headD 0 ≠ 0)) rfl rfl (fun _ _ => rfl)
  cases value <;> rfl

theorem reads_ipv4 (value : UInt32) :
    Reads bigEndian variableFieldSize [.ipv4 name] [.ipv4 name value] := by
  apply reads_field (fun bytes => .ipv4 name (UInt32.ofNat (hostValue bigEndian bytes))) rfl
    (hostBytes_length _ _) (fun _ _ => rfl)
  have bound : value.toNat < 256 ^ 4 := value.toNat_lt
  rw [hostValue_hostBytes, Nat.mod_eq_of_lt bound, UInt32.ofNat_toNat]
  rfl

theorem reads_mac (value : MACAddress) :
    Reads bigEndian variableFieldSize [.mac name] [.mac name value] := by
  apply reads_field (fun bytes => .mac name (.ofBytes bytes)) rfl value.length (fun _ _ => rfl)
  have same : MACAddress.ofBytes value.octets = value := by
    obtain ⟨octets, length⟩ := value
    simp only [MACAddress.ofBytes, MACAddress.mk.injEq]
    rw [← length, take_left]
  rw [same]
  rfl

theorem reads_uid (value : UID) :
    Reads bigEndian variableFieldSize [.uid name] [.uid name value] := by
  apply reads_field (fun bytes => .uid name (UID.unpack bytes)) rfl rfl (fun _ _ => rfl)
  rw [Rdm.unpack_pack]
  rfl

theorem reads_integer (type : IntegerType) (descriptor : IntegerFieldDescriptor type)
    (value : type.Value) :
    Reads bigEndian variableFieldSize [.integer type descriptor]
      [.integer type descriptor value] := by
  apply reads_field (fun bytes => .integer type descriptor
      (toWire bigEndian descriptor.littleEndian type
        (BitVec.ofNat type.bits (hostValue bigEndian bytes)))) rfl
    (hostBytes_length _ _) (fun _ _ => rfl)
  have bound := (toWire bigEndian descriptor.littleEndian type value).isLt
  rw [hostValue_hostBytes, type.pow_size, Nat.mod_eq_of_lt bound, BitVec.ofNat_toNat,
    BitVec.setWidth_eq]
  rfl

section

variable {descriptor : StringFieldDescriptor} {value : List UInt8} (noNul : 0 ∉ value)
  (bounded : value.length ≤ descriptor.maxSize.toNat)
include noNul bounded

theorem shortenString_stringBytes : shortenString (stringBytes descriptor value) = value := by
  unfold shortenString stringBytes stringSize
  dsimp only
  rw [Nat.min_eq_left bounded, take_length, takeWhile_append_of_pos]
  · have padding : ∀ count, (List.replicate count (0 : UInt8)).takeWhile (· ≠ 0) = [] := by
      intro count
      cases count <;> rfl
    rw [padding, append_nil]
  · intro byte member
    rw [decide_eq_true_eq]
    rintro rfl
    exact noNul member

theorem reads_string
    (size : (if (FieldDescriptor.string descriptor).size.fixed then descriptor.maxSize.toNat
      else variableFieldSize) = (stringBytes descriptor value).length) :
    Reads bigEndian variableFieldSize [.string descriptor] [.string descriptor value] := by
  apply reads_field (fun bytes => .string descriptor (shortenString bytes)) rfl size.symm
  · intro deserializer same
    rw [← same]
    rfl
  · rw [shortenString_stringBytes noNul bounded]
    rfl

end

end Fields

section Groups

variable {bigEndian : Bool} {variableFieldSize : Nat} {name : List UInt8}
  {inner : List FieldDescriptor} {minBlocks : UInt16} {maxBlocks : Int16}

theorem block_reads {block : List MessageField} {deserializer : MessageDeserializer}
    (reads : Reads bigEndian variableFieldSize inner block)
    (same : deserializer.variableFieldSize = variableFieldSize)
    (next : Next deserializer (encoded (allPieces bigEndian block)))
    (make : List MessageField → MessageField) :
    deserializer.block (visitAll bigEndian inner) make =
      deserializer.advance (encoded (allPieces bigEndian block)).length
        [make (receivedAll bigEndian block)] := by
  unfold MessageDeserializer.block
  rw [reads { deserializer with messageStack := [] :: deserializer.messageStack } same
    { next with open_ := cons_ne_nil _ _ }]
  rfl

section

variable {blocks : List (List MessageField)}
  (each : ∀ block ∈ blocks, Reads bigEndian variableFieldSize inner block)
include each

theorem blocks_read {deserializer : MessageDeserializer}
    (same : deserializer.variableFieldSize = variableFieldSize)
    (next : Next deserializer
      (encoded (allPieces bigEndian (blocks.map (.group name inner minBlocks maxBlocks))))) :
    (fun deserializer : MessageDeserializer =>
      deserializer.block (visitAll bigEndian inner)
        (.group name inner minBlocks maxBlocks))^[blocks.length] deserializer =
      deserializer.advance
        (encoded (allPieces bigEndian
          (blocks.map (.group name inner minBlocks maxBlocks)))).length
        (receivedAll bigEndian (blocks.map (.group name inner minBlocks maxBlocks))) := by
  induction blocks generalizing deserializer with
  | nil => exact advance_nothing.symm
  | cons block rest ih =>
    rw [map_cons, allPieces, pieces, encoded_append] at next ⊢
    rw [length_cons, Function.iterate_succ_apply,
      block_reads (each block mem_cons_self) same next.left,
      ih (fun block member => each block (mem_cons_of_mem _ member))
        (by rw [advance_variableFieldSize, same]) (next.right _),
      advance_advance, length_append, receivedAll, received]
    rfl

theorem reads_group
    (iterations : (if (FieldDescriptor.group name inner minBlocks maxBlocks).size.fixed then
      minBlocks.toNat else variableFieldSize) = blocks.length) :
    Reads bigEndian variableFieldSize [.group name inner minBlocks maxBlocks]
      (blocks.map (.group name inner minBlocks maxBlocks)) := by
  intro deserializer same next
  rw [visitAll, visitAll, visit, same, iterations]
  exact blocks_read each same next

end

end Groups

end OpenLighting.Messaging.MessageDeserializer
