import OpenLighting.MessageInflation
import OpenLighting.MessageSerializerBuffer

/- The sizes of a descriptor and those of the messages that conform to it. -/
namespace OpenLighting.Messaging

open OpenLighting.NetworkUtils FieldDescriptor MessageDeserializer
open MessageSerializer (pieces allPieces encoded stringBytes allPieces_append)
open MessageDeserializer (encoded_append Reads)

theorem populate_fixed_cons (field : FieldDescriptor) (rest : List FieldDescriptor) :
    (populate (field :: rest)).fixed = true ↔
      field.size.fixed = true ∧ (populate rest).fixed = true := by
  rw [populate, Bool.and_eq_true]

theorem group_fixed_iff (name : List UInt8) (inner : List FieldDescriptor) (minBlocks : UInt16)
    (maxBlocks : Int16) :
    (FieldDescriptor.group name inner minBlocks maxBlocks).size.fixed = true ↔
      (populate inner).fixed = true ∧ (minBlocks.toNat : Int) = maxBlocks.toInt := by
  rw [size, groupSize, Bool.and_eq_true, fixedBlockCount, beq_iff_eq]

theorem limited_of_fixedBlockCount {minBlocks : UInt16} {maxBlocks : Int16}
    (count : (minBlocks.toNat : Int) = maxBlocks.toInt) : maxBlocks ≠ unlimitedBlocks := by
  rintro rfl
  have negative : unlimitedBlocks.toInt = -1 := rfl
  omega

mutual

theorem limited_of_fixed : ∀ field : FieldDescriptor,
    field.size.fixed = true → field.size.limited = true
  | .bool _, _ | .ipv4 _, _ | .mac _, _ | .uid _, _ | .string _, _ | .integer _ _, _ => rfl
  | .group name inner minBlocks maxBlocks, fixed => by
    rw [group_fixed_iff] at fixed
    rw [size, groupSize]
    rw [if_neg (limited_of_fixedBlockCount fixed.2)]
    exact populate_limited inner fixed.1

theorem populate_limited : ∀ fields : List FieldDescriptor,
    (populate fields).fixed = true → (populate fields).limited = true
  | [], _ => rfl
  | field :: rest, fixed => by
    rw [populate_fixed_cons] at fixed
    rw [populate, Bool.and_eq_true]
    exact ⟨limited_of_fixed field fixed.1, populate_limited rest fixed.2⟩

end

theorem toUnsigned_of_nonneg {value : Int16} {count : Nat} (same : value.toInt = count) :
    toUnsigned value = count := by
  have bound := value.toInt_lt
  unfold toUnsigned
  omega

theorem group_max {name : List UInt8} {inner : List FieldDescriptor} {minBlocks : UInt16}
    {maxBlocks : Int16}
    (fixed : (FieldDescriptor.group name inner minBlocks maxBlocks).size.fixed = true) :
    (FieldDescriptor.group name inner minBlocks maxBlocks).size.max =
      (populate inner).max * minBlocks.toNat % 2 ^ 32 := by
  rw [group_fixed_iff] at fixed
  rw [size, groupSize]
  rw [if_neg (limited_of_fixedBlockCount fixed.2), populate_limited inner fixed.1, if_pos rfl,
    if_pos rfl, toUnsigned_of_nonneg fixed.2.symm]

/-- A field that may be sent in more than one size, all by itself. -/
inductive Varies : FieldDescriptor → Prop
  | string (descriptor : StringFieldDescriptor)
      (open_ : (FieldDescriptor.string descriptor).size.fixed = false) : Varies (.string descriptor)
  | group (name inner minBlocks maxBlocks) (block : (populate inner).fixed = true)
      (open_ : (FieldDescriptor.group name inner minBlocks maxBlocks).size.fixed = false) :
      Varies (.group name inner minBlocks maxBlocks)

/-- What the consistency checker counts for a field. -/
theorem variableSizes_cases (field : FieldDescriptor) :
    (field.size.fixed = true ∧ field.variableSizes = 0) ∨
      (Varies field ∧ field.variableSizes = 1) ∨ field.variableSizes = 2 := by
  cases field with
  | bool _ | ipv4 _ | mac _ | uid _ | integer _ _ => exact Or.inl ⟨rfl, rfl⟩
  | string descriptor =>
    rw [variableSizes]
    cases open_ : (string descriptor).size.fixed with
    | true => exact Or.inl ⟨rfl, rfl⟩
    | false => exact Or.inr (Or.inl ⟨.string descriptor open_, rfl⟩)
  | group name inner minBlocks maxBlocks =>
    rw [variableSizes]
    cases block : (populate inner).fixed with
    | false =>
      have open_ : (group name inner minBlocks maxBlocks).size.fixed = false := by
        rw [size, groupSize, block, Bool.false_and]
      rw [open_]
      exact Or.inr (Or.inr rfl)
    | true =>
      cases open_ : (group name inner minBlocks maxBlocks).size.fixed with
      | true => exact Or.inl ⟨rfl, rfl⟩
      | false =>
        exact Or.inr (Or.inl ⟨.group name inner minBlocks maxBlocks block open_, rfl⟩)

theorem count_le (fields : List FieldDescriptor) (start : Nat) :
    start ≤ fields.foldl (fun count field => count + field.variableSizes) start := by
  induction fields generalizing start with
  | nil => exact Nat.le_refl start
  | cons field rest ih => exact Nat.le_trans (Nat.le_add_right _ _) (ih _)

theorem fixed_of_count {fields : List FieldDescriptor}
    (count : fields.foldl (fun count field => count + field.variableSizes) 1 ≤ 1) :
    (populate fields).fixed = true := by
  induction fields with
  | nil => rfl
  | cons field rest ih =>
    rw [List.foldl_cons] at count
    have least := count_le rest (1 + field.variableSizes)
    rw [populate_fixed_cons]
    rcases variableSizes_cases field with ⟨fixed, none⟩ | ⟨_, one⟩ | two
    · rw [none] at count
      exact ⟨fixed, ih count⟩
    · omega
    · omega

/-- A consistent descriptor has a fixed size but for at most one field. -/
theorem split_of_count {fields : List FieldDescriptor}
    (count : fields.foldl (fun count field => count + field.variableSizes) 0 ≤ 1) :
    (populate fields).fixed = true ∨ ∃ before field after, fields = before ++ field :: after ∧
      (populate before).fixed = true ∧ Varies field ∧ (populate after).fixed = true := by
  induction fields with
  | nil => exact Or.inl rfl
  | cons field rest ih =>
    rw [List.foldl_cons, Nat.zero_add] at count
    have least := count_le rest field.variableSizes
    rcases variableSizes_cases field with ⟨fixed, none⟩ | ⟨varies, one⟩ | two
    · rw [none] at count
      cases ih count with
      | inl all =>
        left
        rw [populate_fixed_cons]
        exact ⟨fixed, all⟩
      | inr split =>
        obtain ⟨before, other, after, rfl, fixedBefore, varies, fixedAfter⟩ := split
        right
        refine ⟨field :: before, other, after, rfl, ?_, varies, fixedAfter⟩
        rw [populate_fixed_cons]
        exact ⟨fixed, fixedBefore⟩
    · rw [one] at count
      exact Or.inr ⟨[], field, rest, rfl, rfl, varies, fixed_of_count count⟩
    · omega

variable {descriptors : List FieldDescriptor} {fields : List MessageField}
  {descriptor : FieldDescriptor}

theorem Conforms.cons (conforms : Conforms (descriptor :: descriptors) fields) :
    ∃ first rest, fields = first ++ rest ∧ Conforms [descriptor] first ∧
      Conforms descriptors rest := by
  cases conforms with
  | bool name value rest => exact ⟨[_], _, rfl, .bool name value .nil, rest⟩
  | ipv4 name value rest => exact ⟨[_], _, rfl, .ipv4 name value .nil, rest⟩
  | mac name value rest => exact ⟨[_], _, rfl, .mac name value .nil, rest⟩
  | uid name value rest => exact ⟨[_], _, rfl, .uid name value .nil, rest⟩
  | string descriptor value noNul bounded rest =>
    exact ⟨[_], _, rfl, .string descriptor value noNul bounded .nil, rest⟩
  | integer type descriptor value rest =>
    exact ⟨[_], _, rfl, .integer type descriptor value .nil, rest⟩
  | group name inner minBlocks maxBlocks blocks allowed each rest =>
    refine ⟨_, _, rfl, ?_, rest⟩
    rw [← List.append_nil (blocks.map _)]
    exact .group name inner minBlocks maxBlocks blocks allowed each .nil

theorem Conforms.cons_append {first rest : List MessageField} (single : Conforms [descriptor] first)
    (others : Conforms descriptors rest) :
    Conforms (descriptor :: descriptors) (first ++ rest) := by
  cases single with
  | bool name value none => cases none; exact .bool name value others
  | ipv4 name value none => cases none; exact .ipv4 name value others
  | mac name value none => cases none; exact .mac name value others
  | uid name value none => cases none; exact .uid name value others
  | string descriptor value noNul bounded none =>
    cases none
    exact .string descriptor value noNul bounded others
  | integer type descriptor value none => cases none; exact .integer type descriptor value others
  | group name inner minBlocks maxBlocks blocks allowed each none =>
    cases none
    rw [List.append_nil]
    exact .group name inner minBlocks maxBlocks blocks allowed each others

/-- A message for a list of descriptors is one for its first part and one for its second. -/
theorem Conforms.split {before after : List FieldDescriptor}
    (conforms : Conforms (before ++ after) fields) :
    ∃ first rest, fields = first ++ rest ∧ Conforms before first ∧ Conforms after rest := by
  induction before generalizing fields with
  | nil => exact ⟨[], fields, rfl, .nil, conforms⟩
  | cons descriptor before ih =>
    obtain ⟨first, rest, rfl, single, others⟩ := conforms.cons
    obtain ⟨middle, last, rfl, one, two⟩ := ih others
    exact ⟨first ++ middle, last, (List.append_assoc _ _ _).symm, single.cons_append one, two⟩

section Lengths

variable {bigEndian : Bool}

/-- How many bytes are sent for some fields. -/
def sentLength (bigEndian : Bool) (fields : List MessageField) : Nat :=
  (encoded (allPieces bigEndian fields)).length

theorem sentLength_append (first second : List MessageField) :
    sentLength bigEndian (first ++ second) =
      sentLength bigEndian first + sentLength bigEndian second := by
  unfold sentLength
  rw [allPieces_append, encoded_append, List.length_append]

theorem sentLength_cons (field : MessageField) (rest : List MessageField) :
    sentLength bigEndian (field :: rest) =
      sentLength bigEndian [field] + sentLength bigEndian rest :=
  sentLength_append [field] rest

theorem sentLength_single {field : MessageField} {required : Nat} {bytes : List UInt8}
    (only : pieces bigEndian field = [⟨required, bytes⟩]) :
    sentLength bigEndian [field] = bytes.length := by
  unfold sentLength
  rw [allPieces, allPieces, only]
  exact congrArg List.length (List.append_nil bytes)

theorem sentLength_string (descriptor : StringFieldDescriptor) (value : List UInt8) :
    sentLength bigEndian [.string descriptor value] = (stringBytes descriptor value).length :=
  sentLength_single rfl

theorem sentLength_group (name : List UInt8) (inner : List FieldDescriptor) (minBlocks : UInt16)
    (maxBlocks : Int16) (block : List MessageField) :
    sentLength bigEndian [.group name inner minBlocks maxBlocks block] =
      sentLength bigEndian block := by
  unfold sentLength
  rw [allPieces, allPieces, pieces, List.append_nil]

variable {blocks : List (List MessageField)} {minBlocks : UInt16} {inner : List FieldDescriptor}
  {maxBlocks : Int16} {name : List UInt8}

/-- Blocks of one size, which is known up to a multiple of `2 ^ 32`. -/
theorem sentLength_blocks_mod {size : Nat}
    (each : ∀ block ∈ blocks, size = sentLength bigEndian block % 2 ^ 32) :
    sentLength bigEndian (blocks.map (.group name inner minBlocks maxBlocks)) % 2 ^ 32 =
      size * blocks.length % 2 ^ 32 := by
  induction blocks with
  | nil => rfl
  | cons block rest ih =>
    have first := each block List.mem_cons_self
    have others := ih (fun block member => each block (List.mem_cons_of_mem _ member))
    rw [List.map_cons, sentLength_cons, sentLength_group, List.length_cons, Nat.mul_succ]
    omega

theorem sentLength_block_le {block : List MessageField} (member : block ∈ blocks) :
    sentLength bigEndian block ≤
      sentLength bigEndian (blocks.map (.group name inner minBlocks maxBlocks)) := by
  induction member with
  | head rest =>
    rw [List.map_cons, sentLength_cons, sentLength_group]
    omega
  | tail first member ih =>
    rw [List.map_cons, sentLength_cons]
    omega

theorem sentLength_blocks {name : List UInt8} {inner : List FieldDescriptor}
    {minBlocks : UInt16} {maxBlocks : Int16} {blocks : List (List MessageField)} {size : Nat}
    (each : ∀ block ∈ blocks, sentLength bigEndian block = size) :
    sentLength bigEndian (blocks.map (.group name inner minBlocks maxBlocks)) =
      size * blocks.length := by
  induction blocks with
  | nil => rfl
  | cons block rest ih =>
    rw [List.map_cons, sentLength_cons, sentLength_group, each block List.mem_cons_self,
      ih (fun block member => each block (List.mem_cons_of_mem _ member)), List.length_cons,
      Nat.mul_succ, Nat.add_comm]

theorem allowed_of_fixed {count : Nat} (same : (minBlocks.toNat : Int) = maxBlocks.toInt)
    (allowed : BlocksAllowed minBlocks maxBlocks count) : count = minBlocks.toNat := by
  have least := allowed.1
  have most := allowed.2.resolve_left (limited_of_fixedBlockCount same)
  omega

theorem stringBytes_length_fixed {descriptor : StringFieldDescriptor} {value : List UInt8}
    (fixed : (FieldDescriptor.string descriptor).size.fixed = true)
    (bounded : value.length ≤ descriptor.maxSize.toNat) :
    (stringBytes descriptor value).length = descriptor.maxSize.toNat := by
  rw [size, beq_iff_eq] at fixed
  rw [MessageSerializer.stringBytes_length, fixed, MessageSerializer.stringSize]
  omega

theorem populate_max_cons {first rest : List MessageField}
    (single : descriptor.size.max % 2 ^ 32 = sentLength bigEndian first % 2 ^ 32)
    (others : (populate descriptors).max = sentLength bigEndian rest % 2 ^ 32) :
    (populate (descriptor :: descriptors)).max =
      sentLength bigEndian (first ++ rest) % 2 ^ 32 := by
  rw [populate, sentLength_append]
  dsimp only
  omega

/-- The size that is found for some fields is how many bytes are sent for them. -/
theorem populate_max (conforms : Conforms descriptors fields)
    (fixed : (populate descriptors).fixed = true) :
    (populate descriptors).max = sentLength bigEndian fields % 2 ^ 32 := by
  induction conforms with
  | nil => rfl
  | bool name value rest ih | uid name value rest ih =>
    rw [populate_fixed_cons] at fixed
    apply @populate_max_cons _ _ _ [_] _ _ (ih fixed.2)
    rw [sentLength_single rfl]
    rfl
  | ipv4 name value rest ih | integer type descriptor value rest ih =>
    rw [populate_fixed_cons] at fixed
    apply @populate_max_cons _ _ _ [_] _ _ (ih fixed.2)
    rw [sentLength_single rfl, hostBytes_length]
    rfl
  | mac name value rest ih =>
    rw [populate_fixed_cons] at fixed
    apply @populate_max_cons _ _ _ [_] _ _ (ih fixed.2)
    rw [sentLength_single rfl, value.length]
    rfl
  | string descriptor value noNul bounded rest ih =>
    rw [populate_fixed_cons] at fixed
    apply @populate_max_cons _ _ _ [_] _ _ (ih fixed.2)
    rw [sentLength_string, stringBytes_length_fixed fixed.1 bounded]
    rfl
  | group name inner minBlocks maxBlocks blocks allowed each rest ihEach ih =>
    rw [populate_fixed_cons] at fixed
    have block := (group_fixed_iff name inner minBlocks maxBlocks).mp fixed.1
    apply populate_max_cons _ (ih fixed.2)
    rw [group_max fixed.1, sentLength_blocks_mod (fun member found => ihEach member found block.1),
      allowed_of_fixed block.2 allowed, Nat.mod_mod]

theorem reads_fixed (variableFieldSize : Nat) (conforms : Conforms descriptors fields)
    (fixed : (populate descriptors).fixed = true) :
    Reads bigEndian variableFieldSize descriptors fields := by
  induction conforms with
  | nil => exact reads_nil variableFieldSize
  | bool name value rest ih =>
    rw [populate_fixed_cons] at fixed
    exact (reads_bool name value).append (ih fixed.2)
  | ipv4 name value rest ih =>
    rw [populate_fixed_cons] at fixed
    exact (reads_ipv4 name value).append (ih fixed.2)
  | mac name value rest ih =>
    rw [populate_fixed_cons] at fixed
    exact (reads_mac name value).append (ih fixed.2)
  | uid name value rest ih =>
    rw [populate_fixed_cons] at fixed
    exact (reads_uid name value).append (ih fixed.2)
  | integer type descriptor value rest ih =>
    rw [populate_fixed_cons] at fixed
    exact (reads_integer type descriptor value).append (ih fixed.2)
  | string descriptor value noNul bounded rest ih =>
    rw [populate_fixed_cons] at fixed
    have size : (if (string descriptor).size.fixed then
        descriptor.maxSize.toNat else variableFieldSize) =
          (stringBytes descriptor value).length := by
      rw [if_pos fixed.1, stringBytes_length_fixed fixed.1 bounded]
    exact (reads_string noNul bounded size).append (ih fixed.2)
  | group name inner minBlocks maxBlocks blocks allowed each rest ihEach ih =>
    rw [populate_fixed_cons] at fixed
    have block := (group_fixed_iff name inner minBlocks maxBlocks).mp fixed.1
    have iterations : (if (group name inner minBlocks maxBlocks).size.fixed then
        minBlocks.toNat else variableFieldSize) = blocks.length := by
      rw [if_pos fixed.1, allowed_of_fixed block.2 allowed]
    have reads := reads_group
      (fun member found => ihEach member found block.1) iterations
    exact reads.append (ih fixed.2)

end Lengths

end OpenLighting.Messaging
