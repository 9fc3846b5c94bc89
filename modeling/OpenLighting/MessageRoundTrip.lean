import OpenLighting.MessageSizes

/- A message is sent and received. -/
namespace OpenLighting.Messaging

open OpenLighting.NetworkUtils VariableFieldSizeCalculator
open MessageSerializer (allPieces encoded stringBytes)
open MessageDeserializer (Reads receivedAll KeptAll inflateMessage)
open VariableFieldSizeCalculator (calculateFieldSize)

/-- A group of variable size has blocks that are not empty, and the largest number of them fits
in 32 bits. -/
def Countable : FieldDescriptor → Prop
  | .group name inner minBlocks maxBlocks =>
    (FieldDescriptor.group name inner minBlocks maxBlocks).size.fixed = false →
      blockSize inner ≠ 0 ∧
        (maxBlocks = unlimitedBlocks ∨ (blockSize inner : Int) * maxBlocks.toInt < 2 ^ 32)
  | _ => True

/-- A string is not to be longer than it may be. -/
def Ordered : FieldDescriptor → Prop
  | .string descriptor => descriptor.minSize ≤ descriptor.maxSize
  | _ => True

/-- What is sent comes back, whatever the deserializer was used for before. -/
def RoundTrips (bigEndian : Bool) (serializer : MessageSerializer) (descriptor : Descriptor)
    (message : Message) : Prop :=
  ∃ after bytes, serializer.serializeMessage bigEndian message = some (after, bytes) ∧
    ∀ deserializer, ∃ last,
      inflateMessage bigEndian deserializer descriptor bytes = some (last, some message)

variable {string : StringFieldDescriptor} {inner : List FieldDescriptor} {minBlocks : UInt16}
  {maxBlocks : Int16}

section Calculating

variable {bigEndian : Bool}

theorem foldl_visit_fixed (fields : List FieldDescriptor)
    (fixed : (populate fields).fixed = true) (calculator : VariableFieldSizeCalculator)
    (small : calculator.fixedSizeSum < 2 ^ 32) :
    fields.foldl VariableFieldSizeCalculator.visit calculator =
      calculator.addFixed (populate fields).max := by
  induction fields generalizing calculator with
  | nil =>
    obtain ⟨sum, strings, groups⟩ := calculator
    have same : (sum + 0) % 2 ^ 32 = sum := Nat.mod_eq_of_lt small
    simp only [List.foldl_nil, populate, addFixed, same]
  | cons field rest ih =>
    rw [populate_fixed_cons] at fixed
    have visited : calculator.visit field = calculator.addFixed field.size.max := by
      exact if_pos fixed.1
    rw [List.foldl_cons, visited, ih fixed.2 _ (Nat.mod_lt _ (Nat.two_pow_pos 32)), populate]
    simp only [addFixed]
    congr 1
    omega

/-- The sum of the fixed sizes around a field. -/
theorem foldl_visit_split {before after : List FieldDescriptor} {field : FieldDescriptor}
    {strings : List StringFieldDescriptor} {groups : List VariableGroup}
    (fixedBefore : (populate before).fixed = true) (fixedAfter : (populate after).fixed = true)
    (visited : ∀ sum, VariableFieldSizeCalculator.visit ⟨sum, [], []⟩ field =
      ⟨sum, strings, groups⟩) :
    (before ++ field :: after).foldl VariableFieldSizeCalculator.visit
        VariableFieldSizeCalculator.new =
      ⟨((populate before).max + (populate after).max) % 2 ^ 32, strings, groups⟩ := by
  have first : new.addFixed (populate before).max =
      ⟨(populate before).max % 2 ^ 32, [], []⟩ := by
    unfold addFixed new
    rw [Nat.zero_add]
  rw [List.foldl_append, foldl_visit_fixed _ fixedBefore _ (by decide), List.foldl_cons, first,
    visited, foldl_visit_fixed _ fixedAfter _ (Nat.mod_lt _ (Nat.two_pow_pos 32))]
  unfold addFixed
  rw [Nat.mod_add_mod]

theorem calculateFieldSize_fixed {descriptor : Descriptor} {message : Message}
    (conforms : Conforms descriptor.fields message)
    (fixed : (populate descriptor.fields).fixed = true)
    (small : sentLength bigEndian message < 2 ^ 32) :
    calculateFieldSize (sentLength bigEndian message) descriptor = some (.fixedSize, none) := by
  have size := @populate_max _ _ bigEndian conforms fixed
  have sum : (0 + (populate descriptor.fields).max) % 2 ^ 32 = sentLength bigEndian message := by
    omega
  unfold calculateFieldSize
  rw [foldl_visit_fixed _ fixed _ (by decide)]
  unfold addFixed new
  dsimp only
  rw [sum, if_neg (Nat.lt_irrefl _), if_neg (by decide), if_neg (Nat.lt_irrefl _)]

section Variable

variable {descriptor : Descriptor} {before after : List FieldDescriptor} {field : FieldDescriptor}
  {first middle last : List MessageField}

/-- What is left for the field of variable size is what was sent for it. -/
theorem bytesRemaining_eq (fixedBefore : (populate before).fixed = true)
    (fixedAfter : (populate after).fixed = true) (conformsBefore : Conforms before first)
    (conformsAfter : Conforms after last)
    (small : sentLength bigEndian (first ++ (middle ++ last)) < 2 ^ 32) :
    ((populate before).max + (populate after).max) % 2 ^ 32 =
        sentLength bigEndian first + sentLength bigEndian last ∧
      sentLength bigEndian (first ++ (middle ++ last)) -
        (sentLength bigEndian first + sentLength bigEndian last) =
          sentLength bigEndian middle ∧
      sentLength bigEndian first + sentLength bigEndian last ≤
        sentLength bigEndian (first ++ (middle ++ last)) := by
  have sizeBefore := @populate_max _ _ bigEndian conformsBefore fixedBefore
  have sizeAfter := @populate_max _ _ bigEndian conformsAfter fixedAfter
  rw [sentLength_append, sentLength_append] at *
  omega

/-- The sizes that are found around a field of variable size. -/
theorem calculateFieldSize_split {strings : List StringFieldDescriptor}
    {groups : List VariableGroup}
    (visited : ∀ sum, VariableFieldSizeCalculator.visit ⟨sum, [], []⟩ field =
      ⟨sum, strings, groups⟩)
    (split : descriptor.fields = before ++ field :: after)
    (fixedBefore : (populate before).fixed = true) (fixedAfter : (populate after).fixed = true)
    (conformsBefore : Conforms before first) (conformsAfter : Conforms after last)
    (small : sentLength bigEndian (first ++ (middle ++ last)) < 2 ^ 32) :
    (∀ string, strings = [string] → groups = [] →
      calculateFieldSize (sentLength bigEndian (first ++ (middle ++ last))) descriptor =
        some (VariableFieldSizeCalculator.stringFieldSize string
          (sentLength bigEndian middle))) ∧
      ∀ group, strings = [] → groups = [group] →
        calculateFieldSize (sentLength bigEndian (first ++ (middle ++ last))) descriptor =
          VariableFieldSizeCalculator.groupFieldSize group (sentLength bigEndian middle) := by
  obtain ⟨sum, remaining, inside⟩ :=
    bytesRemaining_eq fixedBefore fixedAfter conformsBefore conformsAfter small
  unfold calculateFieldSize
  rw [split, foldl_visit_split fixedBefore fixedAfter visited]
  dsimp only
  rw [sum, remaining, if_neg (Nat.not_lt.mpr inside)]
  constructor
  · rintro string rfl rfl
    exact if_neg (Nat.lt_irrefl 1)
  · rintro group rfl rfl
    exact if_neg (Nat.lt_irrefl 1)

theorem visit_string (open_ : (FieldDescriptor.string string).size.fixed = false) (sum : Nat) :
    VariableFieldSizeCalculator.visit ⟨sum, [], []⟩ (.string string) = ⟨sum, [string], []⟩ := by
  unfold visit
  rw [open_, if_neg Bool.false_ne_true]
  rfl

theorem visit_group {name : List UInt8} {inner : List FieldDescriptor} {minBlocks : UInt16}
    {maxBlocks : Int16}
    (open_ : (FieldDescriptor.group name inner minBlocks maxBlocks).size.fixed = false)
    (sum : Nat) :
    VariableFieldSizeCalculator.visit ⟨sum, [], []⟩ (.group name inner minBlocks maxBlocks) =
      ⟨sum, [], [⟨inner, minBlocks, maxBlocks⟩]⟩ := by
  unfold visit
  rw [open_, if_neg Bool.false_ne_true]
  rfl

end Variable

/-- A string of variable size is accepted if and only if its bounds are in order. -/
theorem stringFieldSize_eq {value : List UInt8} (bounded : value.length ≤ string.maxSize.toNat) :
    VariableFieldSizeCalculator.stringFieldSize string (stringBytes string value).length =
      if string.minSize ≤ string.maxSize then
        (.variableString, some (stringBytes string value).length)
      else (.tooLarge, none) := by
  have length := MessageSerializer.stringBytes_length string value
  unfold MessageSerializer.stringSize at length
  unfold stringFieldSize
  rw [if_neg (by omega)]
  by_cases ordered : string.minSize ≤ string.maxSize
  · have order := UInt8.le_iff_toNat_le.mp ordered
    rw [if_pos ordered, if_neg (by omega)]
  · have order : string.maxSize.toNat < string.minSize.toNat := by
      rw [UInt8.le_iff_toNat_le] at ordered
      omega
    rw [if_neg ordered, if_pos (by omega)]

theorem groupFieldSize_eq {count : Nat} (block : (populate inner).fixed = true)
    (some_ : blockSize inner ≠ 0)
    (fits : maxBlocks = unlimitedBlocks ∨ (blockSize inner : Int) * maxBlocks.toInt < 2 ^ 32)
    (allowed : BlocksAllowed minBlocks maxBlocks count) :
    VariableFieldSizeCalculator.groupFieldSize ⟨inner, minBlocks, maxBlocks⟩
      (blockSize inner * count) = some (.variableGroup, some count) := by
  unfold groupFieldSize
  dsimp only
  rw [if_neg (by rw [block]; decide)]
  have most : maxBlocks ≠ unlimitedBlocks →
      count ≤ toUnsigned maxBlocks ∧
        blockSize inner * toUnsigned maxBlocks % 2 ^ 32 = blockSize inner * toUnsigned maxBlocks := by
    intro limited
    have bound := allowed.2.resolve_left limited
    have product := fits.resolve_left limited
    obtain ⟨largest, same⟩ := Int.eq_ofNat_of_zero_le (Int.le_trans (Int.natCast_nonneg count) bound)
    rw [same] at bound product
    rw [toUnsigned_of_nonneg same]
    refine ⟨by omega, Nat.mod_eq_of_lt ?_⟩
    exact_mod_cast product
  rw [if_neg, if_neg some_, if_neg, if_neg, if_neg]
  · rw [Nat.mul_div_cancel_left _ (Nat.pos_of_ne_zero some_)]
  · rintro ⟨limited, more⟩
    rw [Nat.mul_div_cancel_left _ (Nat.pos_of_ne_zero some_)] at more
    have bound := (most limited).1
    omega
  · rw [Nat.mul_div_cancel_left _ (Nat.pos_of_ne_zero some_)]
    exact Nat.not_lt.mpr allowed.1
  · rw [Nat.mul_mod_right]
    exact fun differs => differs rfl
  · rintro ⟨limited, more⟩
    have bounded : maxBlocks ≠ unlimitedBlocks := by
      rintro rfl
      cases limited
    have bound := most bounded
    rw [bound.2] at more
    have product := Nat.mul_le_mul_left (blockSize inner) bound.1
    omega

end Calculating

section RoundTrip

variable {bigEndian : Bool} {descriptor : Descriptor} {message : Message}

section

variable {state : CalculatorState} {size : Option Nat} (deserializer : MessageDeserializer)
  (found : calculateFieldSize (sentLength bigEndian message) descriptor = some (state, size))
include deserializer found

theorem inflateMessage_reads (accepted : MessageDeserializer.accepted state = true)
    (reads : Reads bigEndian (size.getD deserializer.variableFieldSize) descriptor.fields message)
    (small : sentLength bigEndian message < 2 ^ 32) :
    ∃ last, inflateMessage bigEndian deserializer descriptor
      (encoded (allPieces bigEndian message)) = some (last, some (receivedAll bigEndian message)) := by
  unfold sentLength at found small
  unfold inflateMessage
  rw [found]
  dsimp only
  rw [if_pos accepted, reads _ rfl]
  · exact ⟨_, rfl⟩
  · exact ⟨small, Nat.zero_le _, ⟨[], (List.append_nil _).symm⟩, List.cons_ne_nil _ _⟩

theorem inflateMessage_refused (refused : MessageDeserializer.accepted state = false) :
    ∃ last, inflateMessage bigEndian deserializer descriptor
      (encoded (allPieces bigEndian message)) = some (last, none) := by
  unfold sentLength at found
  unfold inflateMessage
  rw [found]
  dsimp only
  rw [refused, if_neg Bool.false_ne_true]
  exact ⟨_, rfl⟩

end

theorem ordered_of_fixed {fields : List FieldDescriptor}
    (fixed : (populate fields).fixed = true) : ∀ field ∈ fields, Ordered field := by
  induction fields with
  | nil =>
    intro field member
    cases member
  | cons first rest ih =>
    rw [populate_fixed_cons] at fixed
    intro field member
    cases member with
    | tail _ member => exact ih fixed.2 field member
    | head _ =>
      cases first with
      | string descriptor =>
        have same := fixed.1
        rw [FieldDescriptor.size, beq_iff_eq] at same
        exact UInt8.le_of_eq same
      | _ => trivial

theorem ordered_split {before after : List FieldDescriptor} {field : FieldDescriptor}
    (fixedBefore : (populate before).fixed = true) (fixedAfter : (populate after).fixed = true) :
    (∀ other ∈ before ++ field :: after, Ordered other) ↔ Ordered field := by
  constructor
  · intro all
    exact all field (List.mem_append_right _ List.mem_cons_self)
  · intro ordered other member
    rw [List.mem_append, List.mem_cons] at member
    rcases member with member | rfl | member
    · exact ordered_of_fixed fixedBefore other member
    · exact ordered
    · exact ordered_of_fixed fixedAfter other member

/-- What comes of the bytes of a message: the message, unless the bounds of a string are the
wrong way round. -/
def Inflates (bigEndian : Bool) (descriptor : Descriptor) (message : Message) : Prop :=
  ∀ deserializer, ∃ last result,
    inflateMessage bigEndian deserializer descriptor (encoded (allPieces bigEndian message)) =
      some (last, result) ∧
    ((∀ field ∈ descriptor.fields, Ordered field) →
      result = some (receivedAll bigEndian message)) ∧
    (¬ (∀ field ∈ descriptor.fields, Ordered field) → result = none)

theorem inflates_fixed (conforms : Conforms descriptor.fields message)
    (fixed : (populate descriptor.fields).fixed = true)
    (small : sentLength bigEndian message < 2 ^ 32) : Inflates bigEndian descriptor message := by
  intro deserializer
  have found := calculateFieldSize_fixed conforms fixed small
  obtain ⟨last, inflated⟩ :=
    inflateMessage_reads deserializer found rfl (reads_fixed _ conforms fixed) small
  refine ⟨last, _, inflated, fun _ => rfl, ?_⟩
  intro unordered
  exact absurd (ordered_of_fixed fixed) unordered

section Variable

variable {before after : List FieldDescriptor}

theorem inflates_string {string : StringFieldDescriptor}
    (split : descriptor.fields = before ++ .string string :: after)
    (open_ : (FieldDescriptor.string string).size.fixed = false)
    (fixedBefore : (populate before).fixed = true) (fixedAfter : (populate after).fixed = true)
    (conforms : Conforms descriptor.fields message)
    (small : sentLength bigEndian message < 2 ^ 32) : Inflates bigEndian descriptor message := by
  intro deserializer
  rw [split] at conforms
  obtain ⟨first, rest, rfl, conformsBefore, conforms⟩ := conforms.split
  cases conforms with
  | @string _ last _ value noNul bounded conformsAfter =>
    change sentLength bigEndian (first ++ ([.string string value] ++ last)) < 2 ^ 32 at small
    have found := (calculateFieldSize_split (visit_string open_) split fixedBefore fixedAfter
      conformsBefore conformsAfter small).1 string rfl rfl
    rw [sentLength_string, stringFieldSize_eq bounded] at found
    rw [split, ordered_split fixedBefore fixedAfter]
    by_cases ordered : string.minSize ≤ string.maxSize
    · rw [if_pos ordered] at found
      have reads : Reads bigEndian (stringBytes string value).length [.string string]
          [.string string value] := by
        apply MessageDeserializer.reads_string noNul bounded
        rw [open_]
        rfl
      obtain ⟨state, inflated⟩ := inflateMessage_reads deserializer found rfl (by
        rw [split]
        exact (reads_fixed _ conformsBefore fixedBefore).append
          (reads.append (reads_fixed _ conformsAfter fixedAfter))) small
      exact ⟨state, _, inflated, fun _ => rfl, fun unordered => absurd ordered unordered⟩
    · rw [if_neg ordered] at found
      obtain ⟨state, inflated⟩ := inflateMessage_refused deserializer found rfl
      exact ⟨state, none, inflated, fun order => absurd order ordered, fun _ => rfl⟩

theorem inflates_group {name : List UInt8} {inner : List FieldDescriptor} {minBlocks : UInt16}
    {maxBlocks : Int16}
    (split : descriptor.fields = before ++ .group name inner minBlocks maxBlocks :: after)
    (block : (populate inner).fixed = true)
    (open_ : (FieldDescriptor.group name inner minBlocks maxBlocks).size.fixed = false)
    (countable : Countable (.group name inner minBlocks maxBlocks))
    (fixedBefore : (populate before).fixed = true) (fixedAfter : (populate after).fixed = true)
    (conforms : Conforms descriptor.fields message)
    (small : sentLength bigEndian message < 2 ^ 32) : Inflates bigEndian descriptor message := by
  intro deserializer
  rw [split] at conforms
  obtain ⟨first, rest, rfl, conformsBefore, conforms⟩ := conforms.split
  cases conforms with
  | @group _ last _ _ _ _ blocks allowed each conformsAfter =>
    have found := (calculateFieldSize_split (visit_group open_) split fixedBefore fixedAfter
      conformsBefore conformsAfter small).2 _ rfl rfl
    have sizes : ∀ fields ∈ blocks, sentLength bigEndian fields = blockSize inner := by
      intro fields member
      have size := @populate_max _ _ bigEndian (each fields member) block
      have within := @sentLength_block_le bigEndian blocks minBlocks inner maxBlocks name _ member
      rw [sentLength_append, sentLength_append] at small
      rw [blockSize, if_pos block, size, Nat.mod_eq_of_lt (by omega)]
    rw [sentLength_blocks sizes,
      groupFieldSize_eq block (countable open_).1 (countable open_).2 allowed] at found
    have reads : Reads bigEndian blocks.length [.group name inner minBlocks maxBlocks]
        (blocks.map (.group name inner minBlocks maxBlocks)) := by
      apply MessageDeserializer.reads_group
      · intro fields member
        exact reads_fixed _ (each fields member) block
      · rw [open_]
        rfl
    obtain ⟨state, inflated⟩ := inflateMessage_reads deserializer found rfl (by
      rw [split]
      exact (reads_fixed _ conformsBefore fixedBefore).append
        (reads.append (reads_fixed _ conformsAfter fixedAfter))) small
    rw [split, ordered_split fixedBefore fixedAfter]
    exact ⟨state, _, inflated, fun _ => rfl, fun unordered => absurd trivial unordered⟩

end Variable

/-- A message for a consistent descriptor is read from its bytes. -/
theorem inflates_of_consistent (consistent : checkConsistency descriptor = true)
    (countable : ∀ field ∈ descriptor.fields, Countable field)
    (conforms : Conforms descriptor.fields message)
    (small : sentLength bigEndian message < 2 ^ 32) : Inflates bigEndian descriptor message := by
  unfold checkConsistency at consistent
  rw [decide_eq_true_eq] at consistent
  rcases split_of_count consistent with fixed | ⟨before, field, after, split, fixedBefore, varies,
    fixedAfter⟩
  · exact inflates_fixed conforms fixed small
  · have member : field ∈ descriptor.fields := by
      rw [split]
      exact List.mem_append_right _ List.mem_cons_self
    cases varies with
    | string string open_ =>
      exact inflates_string split open_ fixedBefore fixedAfter conforms small
    | group name inner minBlocks maxBlocks block open_ =>
      exact inflates_group split block open_ (countable _ member) fixedBefore fixedAfter conforms
        small

/-- What is sent comes back if and only if it fits in the memory of the serializer, the bounds
of the string that varies are in order, and the host swaps no integer the wrong way. -/
theorem message_roundTrips_iff {initialSize : UInt32} {earlier : List Message}
    {serializer : MessageSerializer}
    (used : (MessageSerializer.new initialSize).serializeMessages bigEndian earlier =
      some serializer)
    (consistent : checkConsistency descriptor = true)
    (countable : ∀ field ∈ descriptor.fields, Countable field)
    (conforms : Conforms descriptor.fields message) :
    RoundTrips bigEndian serializer descriptor message ↔
      serializer.Fits message ∧ (∀ field ∈ descriptor.fields, Ordered field) ∧
        KeptAll bigEndian message := by
  have ready := MessageSerializer.ready_serializeMessages (MessageSerializer.ready_new initialSize)
    used
  constructor
  · rintro ⟨after, bytes, done, inflated⟩
    have small := MessageSerializer.serializeMessage_small ready done
    obtain ⟨rfl, fits⟩ := (MessageSerializer.serializeMessage_iff ready message bytes).mp ⟨after, done⟩
    obtain ⟨last, same⟩ := inflated ⟨[], 0, 0, false, []⟩
    obtain ⟨other, result, read, whenOrdered, otherwise⟩ :=
      inflates_of_consistent consistent countable conforms small ⟨[], 0, 0, false, []⟩
    rw [same] at read
    cases read
    have ordered : ∀ field ∈ descriptor.fields, Ordered field := by
      by_contra unordered
      cases otherwise unordered
    refine ⟨fits, ordered, (MessageDeserializer.receivedAll_iff bigEndian message).mp ?_⟩
    exact (Option.some_inj.mp (whenOrdered ordered)).symm
  · rintro ⟨fits, ordered, kept⟩
    obtain ⟨after, done⟩ :=
      (MessageSerializer.serializeMessage_iff ready message _).mpr ⟨rfl, fits⟩
    have small := MessageSerializer.serializeMessage_small ready done
    refine ⟨after, _, done, ?_⟩
    intro deserializer
    obtain ⟨last, result, read, whenOrdered, _⟩ :=
      inflates_of_consistent consistent countable conforms small deserializer
    refine ⟨last, ?_⟩
    rw [read, whenOrdered ordered,
      (MessageDeserializer.receivedAll_iff bigEndian message).mpr kept]

end RoundTrip

/-- Any number of levels, with one byte for each. -/
def levels : Descriptor := ⟨[], [.group [] [.integer .uint8 ⟨[], false, []⟩] 0 unlimitedBlocks]⟩

def levelsMessage (count : Nat) : Message :=
  (List.replicate count [MessageField.integer .uint8 ⟨[], false, []⟩ 7]).map
    (.group [] [.integer .uint8 ⟨[], false, []⟩] 0 unlimitedBlocks)

theorem levels_countable : ∀ field ∈ levels.fields, Countable field := by
  intro field member
  rw [List.mem_singleton.mp member]
  exact fun _ => ⟨by decide, Or.inl rfl⟩

theorem levels_conforms (count : Nat) : Conforms levels.fields (levelsMessage count) := by
  rw [← List.append_nil (levelsMessage count)]
  apply Conforms.group [] _ 0 unlimitedBlocks (List.replicate count _)
  · exact ⟨Nat.zero_le _, Or.inl rfl⟩
  · intro block member
    rw [List.eq_of_mem_replicate member]
    exact .integer .uint8 ⟨[], false, []⟩ 7 .nil
  · exact .nil

theorem levels_kept (count : Nat) : KeptAll false (levelsMessage count) := by
  induction count with
  | zero => trivial
  | succ count ih => exact ⟨⟨trivial, trivial⟩, ih⟩

theorem levels_roundTrip :
    RoundTrips false (.new MessageSerializer.defaultBufferSize) levels (levelsMessage 300) := by
  apply (@message_roundTrips_iff _ _ _ _ [] _ rfl rfl levels_countable (levels_conforms 300)).mpr
  refine ⟨by decide +kernel, ?_, levels_kept 300⟩
  intro field member
  rw [List.mem_singleton.mp member]
  trivial

theorem levels_overflow :
    checkConsistency levels = true ∧ (∀ field ∈ levels.fields, Countable field) ∧
      Conforms levels.fields (levelsMessage 513) ∧
      ¬ RoundTrips false (.new MessageSerializer.defaultBufferSize) levels (levelsMessage 513) := by
  refine ⟨rfl, levels_countable, levels_conforms 513, ?_⟩
  rintro ⟨after, bytes, done, _⟩
  have fits := ((MessageSerializer.serializeMessage_iff (MessageSerializer.ready_new _) _ _).mp
    ⟨after, done⟩).2
  exact absurd fits (by decide +kernel)

end OpenLighting.Messaging
