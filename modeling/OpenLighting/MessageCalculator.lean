import OpenLighting.MessageSizes

/- What `VariableFieldSizeCalculator` finds in a descriptor. -/
namespace OpenLighting.Messaging

open OpenLighting.NetworkUtils
open VariableFieldSizeCalculator (calculateFieldSize groupFieldSize stringFieldSize)

mutual

/-- How many bytes a field of fixed size takes. -/
def FieldDescriptor.width : FieldDescriptor → Nat
  | .bool _ => 1
  | .ipv4 _ => 4
  | .mac _ => 6
  | .uid _ => 6
  | .string descriptor => descriptor.maxSize.toNat
  | .integer type _ => type.size
  | .group _ fields minBlocks _ => minBlocks.toNat * widthAll fields

def widthAll : List FieldDescriptor → Nat
  | [] => 0
  | field :: rest => field.width + widthAll rest

end

/-- The fixed part of a message. -/
def fixedWidth : List FieldDescriptor → Nat
  | [] => 0
  | field :: rest => (if field.size.fixed then field.width else 0) + fixedWidth rest

def FieldDescriptor.openString? : FieldDescriptor → Option StringFieldDescriptor
  | .string descriptor =>
    if (FieldDescriptor.string descriptor).size.fixed then none else some descriptor
  | _ => none

def FieldDescriptor.openGroup? : FieldDescriptor → Option VariableGroup
  | .group name fields minBlocks maxBlocks =>
    if (FieldDescriptor.group name fields minBlocks maxBlocks).size.fixed then none
    else some ⟨fields, minBlocks, maxBlocks⟩
  | _ => none

/-- The strings and the groups of variable size. -/
def openStrings (fields : List FieldDescriptor) : List StringFieldDescriptor :=
  fields.filterMap FieldDescriptor.openString?

def openGroups (fields : List FieldDescriptor) : List VariableGroup :=
  fields.filterMap FieldDescriptor.openGroup?

mutual

/-- The size that is found for a field of fixed size is its width, narrowed. -/
theorem max_eq_width : ∀ field : FieldDescriptor, field.size.fixed = true →
    field.size.max % 2 ^ 32 = field.width % 2 ^ 32
  | .bool _, _ | .ipv4 _, _ | .mac _, _ | .uid _, _ | .string _, _ | .integer _ _, _ => rfl
  | .group name inner minBlocks maxBlocks, fixed => by
    have block := (group_fixed_iff name inner minBlocks maxBlocks).mp fixed
    rw [group_max fixed, Nat.mod_mod, Nat.mul_mod, populate_eq_width inner block.1,
      FieldDescriptor.width, Nat.mod_mod, ← Nat.mul_mod, Nat.mul_comm]

theorem populate_eq_width : ∀ fields : List FieldDescriptor, (populate fields).fixed = true →
    (populate fields).max = widthAll fields % 2 ^ 32
  | [], _ => rfl
  | field :: rest, fixed => by
    rw [populate_fixed_cons] at fixed
    have first := max_eq_width field fixed.1
    have others := populate_eq_width rest fixed.2
    rw [populate, widthAll]
    dsimp only
    omega

end

theorem open_of_fixed {field : FieldDescriptor} (fixed : field.size.fixed = true) :
    field.openString? = none ∧ field.openGroup? = none := by
  cases field with
  | string descriptor => exact ⟨if_pos fixed, rfl⟩
  | group name inner minBlocks maxBlocks => exact ⟨rfl, if_pos fixed⟩
  | _ => exact ⟨rfl, rfl⟩

/-- A field of variable size is a string or a group. -/
theorem open_cases {field : FieldDescriptor} (open_ : field.size.fixed = false) :
    (∃ descriptor, field = .string descriptor ∧ field.openString? = some descriptor ∧
      field.openGroup? = none) ∨
    ∃ name inner minBlocks maxBlocks, field = .group name inner minBlocks maxBlocks ∧
      field.openString? = none ∧ field.openGroup? = some ⟨inner, minBlocks, maxBlocks⟩ := by
  cases field with
  | string descriptor => exact .inl ⟨descriptor, rfl, if_neg (by simp [open_]), rfl⟩
  | group name inner minBlocks maxBlocks =>
    exact .inr ⟨name, inner, minBlocks, maxBlocks, rfl, rfl, if_neg (by simp [open_])⟩
  | _ => cases open_

theorem visit_eq (calculator : VariableFieldSizeCalculator) (field : FieldDescriptor) :
    calculator.visit field =
      ⟨if field.size.fixed then (calculator.fixedSizeSum + field.width) % 2 ^ 32
        else calculator.fixedSizeSum,
        calculator.variableStringFields ++ field.openString?.toList,
        calculator.variableGroupFields ++ field.openGroup?.toList⟩ := by
  unfold VariableFieldSizeCalculator.visit
  cases fixed : field.size.fixed with
  | true =>
    obtain ⟨noString, noGroup⟩ := open_of_fixed fixed
    have width := max_eq_width field fixed
    have sum : (calculator.fixedSizeSum + field.size.max) % 2 ^ 32 =
        (calculator.fixedSizeSum + field.width) % 2 ^ 32 := by omega
    rw [if_pos rfl, if_pos rfl, noString, noGroup, VariableFieldSizeCalculator.addFixed, sum]
    simp
  | false =>
    rcases open_cases fixed with ⟨descriptor, rfl, string, group⟩ |
      ⟨name, inner, minBlocks, maxBlocks, rfl, string, group⟩
    · simp [string, group]
    · simp [string, group]

theorem openStrings_cons (field : FieldDescriptor) (rest : List FieldDescriptor) :
    openStrings (field :: rest) = field.openString?.toList ++ openStrings rest := by
  unfold openStrings
  rw [List.filterMap_cons]
  cases field.openString? <;> rfl

theorem openGroups_cons (field : FieldDescriptor) (rest : List FieldDescriptor) :
    openGroups (field :: rest) = field.openGroup?.toList ++ openGroups rest := by
  unfold openGroups
  rw [List.filterMap_cons]
  cases field.openGroup? <;> rfl

theorem foldl_visit (fields : List FieldDescriptor) (calculator : VariableFieldSizeCalculator)
    (small : calculator.fixedSizeSum < 2 ^ 32) :
    fields.foldl VariableFieldSizeCalculator.visit calculator =
      ⟨(calculator.fixedSizeSum + fixedWidth fields) % 2 ^ 32,
        calculator.variableStringFields ++ openStrings fields,
        calculator.variableGroupFields ++ openGroups fields⟩ := by
  induction fields generalizing calculator with
  | nil =>
    have same : (calculator.fixedSizeSum + 0) % 2 ^ 32 = calculator.fixedSizeSum :=
      Nat.mod_eq_of_lt small
    rw [fixedWidth, same, List.foldl_nil]
    simp [openStrings, openGroups]
  | cons field rest ih =>
    have sum : (if field.size.fixed then (calculator.fixedSizeSum + field.width) % 2 ^ 32
        else calculator.fixedSizeSum) < 2 ^ 32 := by
      split
      · omega
      · exact small
    rw [List.foldl_cons, visit_eq, ih _ sum, openStrings_cons, openGroups_cons, fixedWidth]
    simp only [VariableFieldSizeCalculator.mk.injEq, List.append_assoc, and_self, and_true]
    split
    · rw [Nat.mod_add_mod, Nat.add_assoc]
    · rw [Nat.zero_add]

theorem calculateFieldSize_eq (dataSize : Nat) (descriptor : Descriptor) :
    calculateFieldSize dataSize descriptor =
      if dataSize < fixedWidth descriptor.fields % 2 ^ 32 then some (.tooSmall, none)
      else if 1 < (openStrings descriptor.fields).length + (openGroups descriptor.fields).length then
        some (.multipleVariableFields, none)
      else
        match openStrings descriptor.fields, openGroups descriptor.fields with
        | [], [] =>
          some (if fixedWidth descriptor.fields % 2 ^ 32 < dataSize then .tooLarge
            else .fixedSize, none)
        | string :: _, _ =>
          some (stringFieldSize string (dataSize - fixedWidth descriptor.fields % 2 ^ 32))
        | [], group :: _ =>
          groupFieldSize group (dataSize - fixedWidth descriptor.fields % 2 ^ 32) := by
  unfold calculateFieldSize
  rw [foldl_visit _ _ (by decide)]
  cases openStrings descriptor.fields <;> cases openGroups descriptor.fields <;>
    simp only [VariableFieldSizeCalculator.new, Nat.zero_add, List.nil_append]

/-- The groups of a list whose blocks vary in size. -/
def nested (groups : List VariableGroup) : List VariableGroup :=
  groups.filter (fun group => !(populate group.fields).fixed)

end OpenLighting.Messaging
