import OpenLighting.MessageCalculator

/- What the traversal of a descriptor takes from the data. -/
namespace OpenLighting.Messaging

open OpenLighting.NetworkUtils
open VariableFieldSizeCalculator (calculateFieldSize groupFieldSize stringFieldSize)
open MessageDeserializer (visit visitAll advance inflateMessage accepted visitAll_append)

/-- The fixed part of a message fits in 32 bits, and so does a block of a group that may be sent
any number of times. -/
structure SizesFit (descriptor : Descriptor) : Prop where
  fixed : fixedWidth descriptor.fields < 2 ^ 32
  blocks : ∀ group ∈ openGroups descriptor.fields, (populate group.fields).fixed = true →
    widthAll group.fields < 2 ^ 32

namespace MessageDeserializer

/-- So many bytes are left. -/
def Room (deserializer : MessageDeserializer) (count : Nat) : Prop :=
  deserializer.data.length < 2 ^ 32 ∧ deserializer.offset + count ≤ deserializer.data.length

/-- A visit takes so many bytes, and finds them. -/
def Takes (visit : MessageDeserializer → MessageDeserializer) (variableFieldSize count : Nat) :
    Prop :=
  ∀ deserializer : MessageDeserializer, deserializer.variableFieldSize = variableFieldSize →
    deserializer.Room count → ∃ fields, visit deserializer = deserializer.advance count fields

section Takes
variable {bigEndian : Bool} {variableFieldSize : Nat}

theorem Room.advance {deserializer : MessageDeserializer} {first second : Nat}
    (room : deserializer.Room (first + second)) (fields : List MessageField) :
    (deserializer.advance first fields).Room second := by
  obtain ⟨small, inside⟩ := room
  unfold Room
  rw [advance_data, advance_offset]
  omega

theorem takes_take {visit : MessageDeserializer → MessageDeserializer} {size : Nat}
    (make : List UInt8 → MessageField)
    (visits : ∀ deserializer : MessageDeserializer,
      deserializer.variableFieldSize = variableFieldSize →
        visit deserializer = deserializer.take size make) :
    Takes visit variableFieldSize size := by
  intro deserializer same ⟨small, inside⟩
  have enough : deserializer.checkForData size = true := by
    unfold checkForData
    rw [decide_eq_true_eq]
    omega
  rw [visits deserializer same]
  unfold MessageDeserializer.take
  rw [if_pos enough]
  exact ⟨_, rfl⟩

variable {count : Nat}

theorem Takes.andThen {first second : MessageDeserializer → MessageDeserializer} {more : Nat}
    (takes : Takes first variableFieldSize count) (takesMore : Takes second variableFieldSize more) :
    Takes (fun deserializer => second (first deserializer)) variableFieldSize (count + more) := by
  intro deserializer same room
  obtain ⟨fields, visited⟩ := takes deserializer same
    ⟨room.1, Nat.le_trans (Nat.add_le_add_left (Nat.le_add_right _ _) _) room.2⟩
  obtain ⟨others, visitedMore⟩ := takesMore (deserializer.advance count fields)
    (by rw [advance_variableFieldSize, same]) (room.advance fields)
  dsimp only
  rw [visited, visitedMore, advance_advance]
  exact ⟨_, rfl⟩

theorem takes_id : Takes (fun deserializer => deserializer) variableFieldSize 0 :=
  fun _ _ _ => ⟨[], advance_nothing.symm⟩

theorem Takes.iterate {step : MessageDeserializer → MessageDeserializer}
    (takes : Takes step variableFieldSize count) (rounds : Nat) :
    Takes (step^[rounds]) variableFieldSize (rounds * count) := by
  induction rounds with
  | zero =>
    rw [Nat.zero_mul]
    exact takes_id
  | succ rounds ih =>
    rw [Nat.succ_mul, Nat.add_comm (rounds * count), Function.iterate_succ]
    exact takes.andThen ih

theorem Takes.block {visitFields : MessageDeserializer → MessageDeserializer}
    (takes : Takes visitFields variableFieldSize count) (make : List MessageField → MessageField) :
    Takes (fun deserializer => deserializer.block visitFields make) variableFieldSize count := by
  intro deserializer same room
  obtain ⟨fields, visited⟩ := takes
    { deserializer with messageStack := [] :: deserializer.messageStack } same room
  unfold MessageDeserializer.block
  dsimp only
  rw [visited]
  exact ⟨_, rfl⟩

mutual

theorem takes_visit : ∀ field : FieldDescriptor, field.size.fixed = true →
    Takes (visit bigEndian field) variableFieldSize field.width
  | .bool name, _ =>
    takes_take (fun bytes => .bool name (bytes.headD 0 ≠ 0)) (fun _ _ => rfl)
  | .ipv4 name, _ =>
    takes_take (fun bytes => .ipv4 name (UInt32.ofNat (hostValue bigEndian bytes)))
      (fun _ _ => rfl)
  | .mac name, _ => takes_take (fun bytes => .mac name (.ofBytes bytes)) (fun _ _ => rfl)
  | .uid name, _ => takes_take (fun bytes => .uid name (UID.unpack bytes)) (fun _ _ => rfl)
  | .integer type descriptor, _ =>
    takes_take (fun bytes => .integer type descriptor (toWire bigEndian descriptor.littleEndian
      type (BitVec.ofNat type.bits (hostValue bigEndian bytes)))) (fun _ _ => rfl)
  | .string descriptor, fixed => by
    apply takes_take (fun bytes => .string descriptor (shortenString bytes))
    intro deserializer _
    rw [visit, if_pos fixed]
    rfl
  | .group name inner minBlocks maxBlocks, fixed => by
    have block := ((group_fixed_iff name inner minBlocks maxBlocks).mp fixed).1
    have rounds := ((takes_visitAll inner block).block
      (.group name inner minBlocks maxBlocks)).iterate minBlocks.toNat
    intro deserializer same room
    rw [visit, if_pos fixed]
    exact rounds deserializer same room

theorem takes_visitAll : ∀ fields : List FieldDescriptor, (populate fields).fixed = true →
    Takes (visitAll bigEndian fields) variableFieldSize (widthAll fields)
  | [], _ => takes_id
  | field :: rest, fixed => by
    rw [populate_fixed_cons] at fixed
    exact (takes_visit field fixed.1).andThen (takes_visitAll rest fixed.2)

end

/-- What the strings and the groups of variable size take. -/
def openWidth (variableFieldSize : Nat) (strings : List StringFieldDescriptor)
    (groups : List VariableGroup) : Nat :=
  strings.length * variableFieldSize +
    groups.foldr (fun group total => variableFieldSize * widthAll group.fields + total) 0

/-- Fields of any kind, as long as the blocks of the groups are of fixed size. -/
theorem takes_fields (fields : List FieldDescriptor)
    (blocks : ∀ group ∈ openGroups fields, (populate group.fields).fixed = true) :
    Takes (visitAll bigEndian fields) variableFieldSize
      (fixedWidth fields + openWidth variableFieldSize (openStrings fields) (openGroups fields)) := by
  induction fields with
  | nil =>
    rw [show fixedWidth [] + openWidth variableFieldSize (openStrings []) (openGroups []) = 0 by
      simp [fixedWidth, openWidth, openStrings, openGroups]]
    exact takes_id
  | cons field rest ih =>
    rw [openGroups_cons] at blocks
    have others := ih (fun group member => blocks group (List.mem_append_right _ member))
    rw [fixedWidth, openStrings_cons, openGroups_cons]
    cases fixed : field.size.fixed with
    | true =>
      obtain ⟨noString, noGroup⟩ := open_of_fixed fixed
      have first : Takes (visit bigEndian field) variableFieldSize field.width :=
        takes_visit field fixed
      rw [noString, noGroup, if_pos rfl, Nat.add_assoc]
      exact first.andThen others
    | false =>
      rcases open_cases fixed with ⟨descriptor, rfl, string, group⟩ |
        ⟨name, inner, minBlocks, maxBlocks, rfl, string, group⟩
      · have first : Takes (visit bigEndian (.string descriptor)) variableFieldSize
            variableFieldSize := by
          apply takes_take (fun bytes => .string descriptor (shortenString bytes))
          intro deserializer same
          rw [visit, if_neg (by rw [fixed]; exact Bool.false_ne_true), same]
        have sum : 0 + fixedWidth rest + openWidth variableFieldSize
            ([descriptor] ++ openStrings rest) (openGroups rest) =
              variableFieldSize + (fixedWidth rest +
                openWidth variableFieldSize (openStrings rest) (openGroups rest)) := by
          rw [openWidth, openWidth, List.length_append, List.length_singleton, Nat.add_mul]
          omega
        rw [string, group, if_neg Bool.false_ne_true]
        show Takes _ _ (0 + fixedWidth rest + openWidth variableFieldSize
          ([descriptor] ++ openStrings rest) (openGroups rest))
        rw [sum]
        exact first.andThen others
      · have block : (populate inner).fixed = true := by
          apply blocks ⟨inner, minBlocks, maxBlocks⟩
          rw [group]
          exact List.mem_append_left _ (List.mem_singleton.mpr rfl)
        have inside : Takes (visitAll bigEndian inner) variableFieldSize (widthAll inner) :=
          takes_visitAll inner block
        have rounds := (inside.block (.group name inner minBlocks maxBlocks)).iterate
          variableFieldSize
        have first : Takes (visit bigEndian (.group name inner minBlocks maxBlocks))
            variableFieldSize (variableFieldSize * widthAll inner) := by
          intro deserializer same room
          rw [visit, if_neg (by rw [fixed]; exact Bool.false_ne_true), same]
          exact rounds deserializer same room
        have sum : 0 + fixedWidth rest + openWidth variableFieldSize (openStrings rest)
            (⟨inner, minBlocks, maxBlocks⟩ :: openGroups rest) =
              variableFieldSize * widthAll inner + (fixedWidth rest +
                openWidth variableFieldSize (openStrings rest) (openGroups rest)) := by
          rw [openWidth, openWidth, List.foldr_cons]
          dsimp only
          omega
        rw [string, group, if_neg Bool.false_ne_true]
        show Takes _ _ (0 + fixedWidth rest + openWidth variableFieldSize (openStrings rest)
          (⟨inner, minBlocks, maxBlocks⟩ :: openGroups rest))
        rw [sum]
        exact first.andThen others

end Takes

end MessageDeserializer

open MessageDeserializer (Takes takes_fields openWidth)

variable {state : CalculatorState} {size : Option Nat}

/-- A string of variable size takes what is left. -/
theorem accepted_string {descriptor : StringFieldDescriptor} {remaining : Nat}
    (found : stringFieldSize descriptor remaining = (state, size)) (accepts : accepted state = true)
    (earlier : Nat) : size.getD earlier = remaining := by
  unfold stringFieldSize at found
  split_ifs at found <;> cases found
  · cases accepts
  · cases accepts
  · rfl

/-- So do the blocks of a group. -/
theorem accepted_group {group : VariableGroup} {remaining : Nat}
    (found : groupFieldSize group remaining = some (state, size)) (accepts : accepted state = true)
    (earlier : Nat) (small : (populate group.fields).fixed = true → widthAll group.fields < 2 ^ 32) :
    (populate group.fields).fixed = true ∧
      size.getD earlier * widthAll group.fields = remaining := by
  unfold groupFieldSize at found
  dsimp only at found
  cases block : (populate group.fields).fixed with
  | false =>
    rw [if_pos block] at found
    cases found
    cases accepts
  | true =>
    have width : blockSize group.fields = widthAll group.fields := by
      rw [blockSize, if_pos block, populate_eq_width _ block, Nat.mod_eq_of_lt (small block)]
    rw [width, if_neg (by rw [block]; nofun)] at found
    refine ⟨rfl, ?_⟩
    split_ifs at found with _ empty whole _ _ <;> cases found
    · cases accepts
    · cases accepts
    · cases accepts
    · cases accepts
    · exact Nat.div_mul_cancel (Nat.dvd_of_mod_eq_zero (not_not.mp whole))

/-- The sizes that are found with an accepted data size add up to it. -/
theorem accepted_total {descriptor : Descriptor} (fit : SizesFit descriptor) {dataSize : Nat}
    (found : calculateFieldSize dataSize descriptor = some (state, size))
    (accepts : accepted state = true) (earlier : Nat) :
    fixedWidth descriptor.fields + openWidth (size.getD earlier) (openStrings descriptor.fields)
        (openGroups descriptor.fields) = dataSize ∧
      ∀ group ∈ openGroups descriptor.fields, (populate group.fields).fixed = true := by
  rw [calculateFieldSize_eq, Nat.mod_eq_of_lt fit.fixed] at found
  split at found
  · cases found
    cases accepts
  · split at found
    · cases found
      cases accepts
    · rename_i single
      cases strings : openStrings descriptor.fields with
      | nil =>
        cases groups : openGroups descriptor.fields with
        | nil =>
          rw [strings, groups] at found
          refine ⟨?_, nofun⟩
          simp only [openWidth, List.length_nil, List.foldr_nil]
          by_cases more : fixedWidth descriptor.fields < dataSize
          · simp only [more, ↓reduceIte, Option.some.injEq, Prod.mk.injEq] at found
            obtain ⟨rfl, -⟩ := found
            cases accepts
          · omega
        | cons group others =>
          rw [strings, groups] at found
          have only : others = [] := by
            rw [groups, List.length_cons] at single
            exact List.eq_nil_of_length_eq_zero (by omega)
          obtain ⟨block, rounds⟩ := accepted_group found accepts earlier
            (fit.blocks group (by rw [groups]; exact List.mem_cons_self))
          rw [only]
          refine ⟨?_, by simpa using block⟩
          simp only [openWidth, List.length_nil, List.foldr_cons, List.foldr_nil]
          omega
      | cons string others =>
        rw [strings] at found single
        have only : others = [] ∧ openGroups descriptor.fields = [] := by
          rw [List.length_cons] at single
          exact ⟨List.eq_nil_of_length_eq_zero (by omega),
            List.eq_nil_of_length_eq_zero (by omega)⟩
        have remaining := accepted_string (Option.some_inj.mp found) accepts earlier
        rw [only.1, only.2]
        refine ⟨?_, nofun⟩
        simp only [openWidth, List.length_singleton, List.foldr_nil]
        omega

/-- A message of an accepted size is read to its last byte. -/
theorem inflateMessage_consumes (bigEndian : Bool) (deserializer : MessageDeserializer)
    (descriptor : Descriptor) (fit : SizesFit descriptor) (data : List UInt8)
    (short : data.length < 2 ^ 32) {state : CalculatorState} {size : Option Nat}
    (found : calculateFieldSize data.length descriptor = some (state, size))
    (accepts : accepted state = true) :
    ∃ after message, inflateMessage bigEndian deserializer descriptor data =
        some (after, some message) ∧
      after.insufficientData = false ∧ after.offset = data.length := by
  obtain ⟨total, blocks⟩ := accepted_total fit found accepts deserializer.variableFieldSize
  obtain ⟨fields, visited⟩ := @takes_fields bigEndian _ _ blocks
    ⟨data, 0, size.getD deserializer.variableFieldSize, false, [[]]⟩ rfl
    ⟨short, by rw [total, Nat.zero_add]⟩
  rw [total] at visited
  unfold inflateMessage
  simp only [found, accepts, ↓reduceIte, visited]
  exact ⟨_, _, rfl, rfl, Nat.zero_add _⟩

/-- A flag and levels of two bytes each. -/
def flaggedLevels : Descriptor :=
  ⟨[], [.bool [], .group [] [.integer .uint16 ⟨[], false, []⟩] 1 unlimitedBlocks]⟩

theorem inflateMessage_consumes_levels : ∃ after message,
    inflateMessage false ⟨[], 0, 0, false, []⟩ flaggedLevels [1, 2, 3, 4, 5] =
        some (after, some message) ∧
      after.insufficientData = false ∧ after.offset = 5 :=
  inflateMessage_consumes false ⟨[], 0, 0, false, []⟩ flaggedLevels
    ⟨by decide, by
      intro group member _
      rw [List.mem_singleton.mp (show group ∈ [_] from member)]
      decide⟩
    [1, 2, 3, 4, 5] (by decide) (show calculateFieldSize 5 flaggedLevels = _ from rfl) rfl

end OpenLighting.Messaging
