import OpenLighting.StringMessageBuilder
import OpenLighting.TransitionSystem

/- Every token of a text message is used for one field. -/
namespace OpenLighting.Messaging.StringMessageBuilder

open List

/-- The fields are those described, made from the tokens in their order, one for each field that is
not a group. A group of variable size is there `count` times. -/
inductive Takes (bigEndian : Bool) (count : Nat) :
    List FieldDescriptor → List MessageField → List (List UInt8) → Prop
  | nil : Takes bigEndian count [] [] []
  | field {descriptors fields tokens} (descriptor : FieldDescriptor) (field : MessageField)
      (token : List UInt8) (made : descriptor.convert bigEndian token = some field)
      (rest : Takes bigEndian count descriptors fields tokens) :
      Takes bigEndian count (descriptor :: descriptors) (field :: fields) (token :: tokens)
  | group {descriptors fields tokens} (name inner minBlocks maxBlocks)
      (blocks : List (List MessageField × List (List UInt8)))
      (number : blocks.length = iterations count
        (FieldDescriptor.group name inner minBlocks maxBlocks).size.fixed minBlocks)
      (each : ∀ block ∈ blocks, Takes bigEndian count inner block.1 block.2)
      (rest : Takes bigEndian count descriptors fields tokens) :
      Takes bigEndian count (.group name inner minBlocks maxBlocks :: descriptors)
        (blocks.map (fun block => .group name inner minBlocks maxBlocks block.1) ++ fields)
        (blocks.flatMap Prod.snd ++ tokens)

mutual

/-- How many fields that are not groups there are if a group of variable size is repeated
`count` times. -/
def instances (count : Nat) : FieldDescriptor → Nat
  | .group name fields minBlocks maxBlocks =>
    iterations count (FieldDescriptor.group name fields minBlocks maxBlocks).size.fixed minBlocks *
      instancesAll count fields
  | _ => 1

def instancesAll (count : Nat) : List FieldDescriptor → Nat
  | [] => 0
  | field :: rest => instances count field + instancesAll count rest

end

mutual

theorem instances_closed (count : Nat) : ∀ field : FieldDescriptor,
    field.openGroup? = none → instances count field = field.tokens
  | .bool _, _ | .ipv4 _, _ | .mac _, _ | .uid _, _ | .string _, _ | .integer _ _, _ => rfl
  | .group name inner minBlocks maxBlocks, closed => by
    have fixed : (FieldDescriptor.group name inner minBlocks maxBlocks).size.fixed = true := by
      have same := openGroup_group name inner minBlocks maxBlocks
      rw [closed] at same
      simpa using same
    have block := openGroups_of_fixed ((group_fixed_iff name inner minBlocks maxBlocks).mp fixed).1
    rw [instances, fixed, iterations, if_pos rfl, instancesAll_closed count inner block,
      FieldDescriptor.tokens]

theorem instancesAll_closed (count : Nat) : ∀ fields : List FieldDescriptor,
    openGroups fields = [] → instancesAll count fields = tokensAll fields
  | [], _ => rfl
  | field :: rest, closed => by
    rw [openGroups_cons, append_eq_nil_iff, Option.toList_eq_nil_iff] at closed
    rw [instancesAll, instances_closed count field closed.1,
      instancesAll_closed count rest closed.2, tokensAll]

end

/-- The fields of the fixed part, and those of the blocks of the groups of variable size. -/
theorem instancesAll_eq (count : Nat) (fields : List FieldDescriptor) :
    instancesAll count fields = fixedTokens fields +
      ((openGroups fields).map (fun group => count * instancesAll count group.fields)).sum := by
  induction fields with
  | nil => rfl
  | cons field rest ih =>
    rw [instancesAll, ih, fixedTokens, openGroups_cons]
    cases open_ : field.openGroup? with
    | none =>
      rw [instances_closed count field open_]
      simp [Nat.add_assoc]
    | some group =>
      have variable_ : instances count field = count * instancesAll count group.fields := by
        cases field with
        | group name inner minBlocks maxBlocks =>
          have same := openGroup_group name inner minBlocks maxBlocks
          rw [open_] at same
          have fixed :
              (FieldDescriptor.group name inner minBlocks maxBlocks).size.fixed = false := by
            simpa using same
          rw [FieldDescriptor.openGroup?, fixed] at open_
          rw [instances, fixed, iterations, if_neg Bool.false_ne_true]
          cases open_
          rfl
        | _ => cases open_
      simp [variable_]
      omega

/-- What happens to a builder that needs so many tokens, if what it makes of them is as required:
unless there is an error, they are used up, or some are missing. -/
structure Goes (needed : Nat) (makes : List MessageField → List (List UInt8) → Prop)
    (before after : StringMessageBuilder) : Prop where
  inputs : after.inputs = before.inputs
  inputSize : after.inputSize = before.inputSize
  count : after.groupInstanceCount = before.groupInstanceCount
  inside : before.offset ≤ before.inputSize → after.offset ≤ after.inputSize
  failed : before.error.isSome = true → after.error.isSome = true
  hungry : before.starved = true → after.starved = true
  pushed : ∀ top below, before.groups = top :: below → ∃ fields,
    after.groups = (top ++ fields) :: below ∧
      (after.error = none → before.starved = false → before.offset ≤ before.inputSize →
        before.inputSize ≤ before.inputs.length →
          if before.offset + needed ≤ before.inputSize then
            after.starved = false ∧ after.offset = before.offset + needed ∧
              makes fields ((before.inputs.drop before.offset).take needed)
          else after.starved = true)

section Steps

variable {bigEndian : Bool} {needed more : Nat}
  {makes makesMore : List MessageField → List (List UInt8) → Prop}
  {before middle after : StringMessageBuilder}

/-- What two steps make together. -/
def Both (first second : List MessageField → List (List UInt8) → Prop)
    (fields : List MessageField) (tokens : List (List UInt8)) : Prop :=
  ∃ firstFields firstTokens secondFields secondTokens,
    fields = firstFields ++ secondFields ∧ tokens = firstTokens ++ secondTokens ∧
      first firstFields firstTokens ∧ second secondFields secondTokens

theorem Goes.weaken (goes : Goes needed makes before after)
    (implies : ∀ fields tokens, makes fields tokens → makesMore fields tokens) :
    Goes needed makesMore before after := by
  refine { goes with pushed := ?_ }
  intro top below groups
  obtain ⟨fields, pushed, rest⟩ := goes.pushed top below groups
  refine ⟨fields, pushed, ?_⟩
  intro sound fed inside within
  have outcome := rest sound fed inside within
  split_ifs with enough
  · rw [if_pos enough] at outcome
    exact ⟨outcome.1, outcome.2.1, implies _ _ outcome.2.2⟩
  · rw [if_neg enough] at outcome
    exact outcome

theorem goes_nothing (builder : StringMessageBuilder) :
    Goes 0 (fun fields tokens => fields = [] ∧ tokens = []) builder builder := by
  refine ⟨rfl, rfl, rfl, id, id, id, ?_⟩
  intro top below groups
  refine ⟨[], by rw [append_nil, groups], ?_⟩
  intro _ fed inside _
  rw [Nat.add_zero, if_pos inside]
  exact ⟨fed, rfl, rfl, take_zero⟩

/-- One step after the other. -/
theorem Goes.trans (first : Goes needed makes before middle)
    (second : Goes more makesMore middle after) :
    Goes (needed + more) (Both makes makesMore) before after := by
  refine ⟨second.inputs.trans first.inputs, second.inputSize.trans first.inputSize,
    second.count.trans first.count, fun inside => second.inside (first.inside inside),
    fun failed => second.failed (first.failed failed),
    fun hungry => second.hungry (first.hungry hungry), ?_⟩
  intro top below groups
  obtain ⟨firstFields, firstPushed, firstRest⟩ := first.pushed top below groups
  obtain ⟨secondFields, secondPushed, secondRest⟩ := second.pushed _ below firstPushed
  refine ⟨firstFields ++ secondFields, by rw [secondPushed, append_assoc], ?_⟩
  intro sound fed inside within
  have middleSound : middle.error = none := by
    cases failed : middle.error with
    | none => rfl
    | some name =>
      have still := second.failed (by rw [failed]; rfl)
      rw [sound] at still
      cases still
  have firstOutcome := firstRest middleSound fed inside within
  by_cases enough : before.offset + needed ≤ before.inputSize
  · rw [if_pos enough] at firstOutcome
    have secondOutcome := secondRest sound firstOutcome.1 (first.inside inside)
      (by rw [first.inputSize, first.inputs]; exact within)
    rw [firstOutcome.2.1, first.inputSize, first.inputs, Nat.add_assoc] at secondOutcome
    split_ifs at secondOutcome ⊢ with all
    · refine ⟨secondOutcome.1, secondOutcome.2.1, firstFields, _, secondFields, _, rfl, ?_,
        firstOutcome.2.2, secondOutcome.2.2⟩
      rw [take_add, drop_drop]
    · exact secondOutcome
  · rw [if_neg enough] at firstOutcome
    rw [if_neg (by omega)]
    exact second.hungry firstOutcome

/-- Any number of equal steps: what each makes of its own tokens. -/
def Many (makes : List MessageField → List (List UInt8) → Prop) (number : Nat)
    (fields : List MessageField) (tokens : List (List UInt8)) : Prop :=
  ∃ parts : List (List MessageField × List (List UInt8)), parts.length = number ∧
    (∀ part ∈ parts, makes part.1 part.2) ∧
      fields = parts.flatMap Prod.fst ∧ tokens = parts.flatMap Prod.snd

theorem goes_iterate {count : Nat} {step : StringMessageBuilder → StringMessageBuilder}
    (each : ∀ builder, builder.groupInstanceCount = count → Goes needed makes builder (step builder))
    (number : Nat) (builder : StringMessageBuilder) (same : builder.groupInstanceCount = count) :
    Goes (number * needed) (Many makes number) builder (step^[number] builder) := by
  induction number generalizing builder with
  | zero =>
    rw [Nat.zero_mul]
    apply (goes_nothing builder).weaken
    rintro fields tokens ⟨rfl, rfl⟩
    exact ⟨[], rfl, by simp, rfl, rfl⟩
  | succ number ih =>
    have first := each builder same
    rw [Function.iterate_succ_apply, Nat.succ_mul, Nat.add_comm]
    apply (first.trans (ih (step builder) (first.count.trans same))).weaken
    rintro fields tokens ⟨firstFields, firstTokens, others, otherTokens, rfl, rfl, made,
      parts, length, all, rfl, rfl⟩
    refine ⟨(firstFields, firstTokens) :: parts, by rw [length_cons, length], ?_, rfl, rfl⟩
    intro part member
    cases member with
    | head => exact made
    | tail _ member => exact all part member

/-- A field that is not a group takes one token. -/
theorem visitField_goes (bigEndian : Bool) (descriptor : FieldDescriptor)
    (builder : StringMessageBuilder) :
    Goes 1 (fun fields tokens => ∃ field token, fields = [field] ∧ tokens = [token] ∧
      descriptor.convert bigEndian token = some field) builder
      (visitField bigEndian descriptor builder) := by
  unfold visitField
  by_cases failed : builder.error.isSome = true
  · rw [if_pos failed]
    refine ⟨rfl, rfl, rfl, id, id, id, ?_⟩
    intro top below groups
    refine ⟨[], by rw [append_nil, groups], ?_⟩
    intro sound
    rw [sound] at failed
    cases failed
  · rw [if_neg failed]
    by_cases finished : builder.inputSize ≤ builder.offset
    · rw [if_pos finished]
      refine ⟨rfl, rfl, rfl, id, id, fun _ => rfl, ?_⟩
      intro top below groups
      refine ⟨[], by rw [append_nil, groups], ?_⟩
      intro _ _ _ _
      rw [if_neg (by omega)]
    · rw [if_neg finished]
      dsimp only
      cases made : descriptor.convert bigEndian (builder.inputs.getD builder.offset []) with
      | none =>
        refine ⟨rfl, rfl, rfl, ?_, fun _ => rfl, id, ?_⟩
        · intro _
          show builder.offset + 1 ≤ builder.inputSize
          omega
        · intro top below groups
          refine ⟨[], by rw [append_nil, groups], ?_⟩
          intro sound
          cases sound
      | some field =>
        have advances : builder.offset + 1 ≤ builder.inputSize := by omega
        cases groups : builder.groups with
        | nil =>
          refine ⟨rfl, rfl, rfl, fun _ => advances, id, id, ?_⟩
          intro top below same
          rw [groups] at same
          cases same
        | cons top below =>
          refine ⟨rfl, rfl, rfl, fun _ => advances, id, id, ?_⟩
          intro other others same
          rw [groups] at same
          cases same
          refine ⟨[field], rfl, ?_⟩
          intro _ fed _ within
          rw [if_pos advances]
          have inside : builder.offset < builder.inputs.length := by omega
          refine ⟨fed, rfl, field, builder.inputs.getD builder.offset [], rfl, ?_, made⟩
          rw [drop_eq_getElem_cons inside, take_succ_cons, take_zero,
            getD_eq_getElem?_getD, List.getElem?_eq_getElem inside, Option.getD_some]

/-- A block: what its fields make becomes a group. -/
theorem leave_goes {message : List MessageField → MessageField} {builder : StringMessageBuilder}
    (goes : Goes needed makes builder.enter after) :
    Goes needed (fun fields tokens => ∃ populated, fields = [message populated] ∧
      makes populated tokens) builder (after.leave message) := by
  have pushed := goes.pushed [] builder.groups rfl
  obtain ⟨populated, groups, rest⟩ := pushed
  unfold leave
  rw [groups]
  cases below : builder.groups with
  | nil =>
    refine { goes with pushed := ?_ }
    intro top others same
    rw [below] at same
    cases same
  | cons top others =>
    refine { goes with pushed := ?_ }
    intro first rest' same
    rw [below] at same
    cases same
    refine ⟨[message populated], rfl, ?_⟩
    intro sound fed inside within
    have outcome := rest sound fed inside within
    have same : (builder.enter.offset + needed ≤ builder.enter.inputSize) =
      (builder.offset + needed ≤ builder.inputSize) := rfl
    simp only [same] at outcome
    split_ifs with enough
    · rw [if_pos enough] at outcome
      exact ⟨outcome.1, outcome.2.1, populated, rfl, outcome.2.2⟩
    · rw [if_neg enough] at outcome
      exact outcome

end Steps

section Visits

variable {bigEndian : Bool} {count : Nat}

theorem Takes.cons_append {descriptor : FieldDescriptor} {descriptors : List FieldDescriptor}
    {fields others : List MessageField} {tokens rest : List (List UInt8)}
    (single : Takes bigEndian count [descriptor] fields tokens)
    (following : Takes bigEndian count descriptors others rest) :
    Takes bigEndian count (descriptor :: descriptors) (fields ++ others) (tokens ++ rest) := by
  cases single with
  | field _ field token made none =>
    cases none
    exact .field descriptor field token made following
  | group name inner minBlocks maxBlocks blocks number each none =>
    cases none
    rw [append_nil, append_nil]
    exact .group name inner minBlocks maxBlocks blocks number each following

theorem takes_field {descriptor : FieldDescriptor} (fields : List MessageField)
    (tokens : List (List UInt8))
    (made : ∃ field token, fields = [field] ∧ tokens = [token] ∧
      descriptor.convert bigEndian token = some field) :
    Takes bigEndian count [descriptor] fields tokens := by
  obtain ⟨field, token, rfl, rfl, made⟩ := made
  exact .field descriptor field token made .nil

/-- What the blocks of a group make. -/
theorem takes_group (name : List UInt8) (inner : List FieldDescriptor) (minBlocks : UInt16)
    (maxBlocks : Int16) (fields : List MessageField) (tokens : List (List UInt8))
    (made : Many (fun fields tokens => ∃ populated,
      fields = [.group name inner minBlocks maxBlocks populated] ∧
        Takes bigEndian count inner populated tokens)
      (iterations count (FieldDescriptor.group name inner minBlocks maxBlocks).size.fixed minBlocks)
      fields tokens) :
    Takes bigEndian count [.group name inner minBlocks maxBlocks] fields tokens := by
  obtain ⟨parts, length, all, rfl, rfl⟩ := made
  have blocks : ∃ blocks : List (List MessageField × List (List UInt8)),
      blocks.length = parts.length ∧
        (∀ block ∈ blocks, Takes bigEndian count inner block.1 block.2) ∧
          parts.flatMap Prod.fst =
            blocks.map (fun block => .group name inner minBlocks maxBlocks block.1) ∧
          parts.flatMap Prod.snd = blocks.flatMap Prod.snd := by
    clear length
    induction parts with
    | nil => exact ⟨[], rfl, by simp, rfl, rfl⟩
    | cons part rest ih =>
      obtain ⟨blocks, length, each, fields, tokens⟩ :=
        ih (fun part member => all part (mem_cons_of_mem _ member))
      obtain ⟨populated, same, takes⟩ := all part mem_cons_self
      refine ⟨(populated, part.2) :: blocks, by simp [length], ?_, ?_, ?_⟩
      · intro block member
        cases member with
        | head => exact takes
        | tail _ member => exact each block member
      · simp [fields, same]
      · simp [tokens]
  obtain ⟨blocks, number, each, fields, tokens⟩ := blocks
  rw [fields, tokens, ← append_nil (blocks.map _), ← append_nil (blocks.flatMap _)]
  exact .group name inner minBlocks maxBlocks blocks (number.trans length) each .nil

mutual

theorem visit_goes : ∀ (field : FieldDescriptor) (builder : StringMessageBuilder),
    builder.groupInstanceCount = count →
      Goes (instances count field) (Takes bigEndian count [field]) builder
        (visit bigEndian field builder)
  | .bool name, builder, _ => (visitField_goes bigEndian (.bool name) builder).weaken takes_field
  | .ipv4 name, builder, _ => (visitField_goes bigEndian (.ipv4 name) builder).weaken takes_field
  | .mac name, builder, _ => (visitField_goes bigEndian (.mac name) builder).weaken takes_field
  | .uid name, builder, _ => (visitField_goes bigEndian (.uid name) builder).weaken takes_field
  | .string descriptor, builder, _ =>
    (visitField_goes bigEndian (.string descriptor) builder).weaken takes_field
  | .integer type descriptor, builder, _ =>
    (visitField_goes bigEndian (.integer type descriptor) builder).weaken takes_field
  | .group name inner minBlocks maxBlocks, builder, same => by
    rw [instances, visit, same]
    refine (goes_iterate ?_ _ builder same).weaken (takes_group name inner minBlocks maxBlocks)
    intro before counts
    exact leave_goes (visitAll_goes inner before.enter counts)

theorem visitAll_goes : ∀ (fields : List FieldDescriptor) (builder : StringMessageBuilder),
    builder.groupInstanceCount = count →
      Goes (instancesAll count fields) (Takes bigEndian count fields) builder
        (visitAll bigEndian fields builder)
  | [], builder, _ => by
    apply (goes_nothing builder).weaken
    rintro fields tokens ⟨rfl, rfl⟩
    exact .nil
  | field :: rest, builder, same => by
    have first := visit_goes field builder same
    apply (first.trans (visitAll_goes rest _ (first.count.trans same))).weaken
    rintro fields tokens ⟨_, _, _, _, rfl, rfl, single, following⟩
    exact single.cons_append following

end

end Visits

open GroupSizeCalculator (calculateGroupSize calculateGroupSize_cases Repeats variableGroupSize)

/-- Behind `GetMessage` all the inputs have been used, in their order, for the fields of the message,
none was missing, and the variable group is there as often as it was calculated. -/
structure UsesEvery (bigEndian : Bool) (inputs : List (List UInt8)) (descriptor : Descriptor)
    (after : StringMessageBuilder) (message : Message) : Prop where
  consumed : after.offset = inputs.length
  fed : after.starved = false
  repeats : ∀ count, calculateGroupSize (inputs.length % 2 ^ 32) descriptor =
    some (.singleVariableGroup, some count) → after.groupInstanceCount = count
  takes : Takes bigEndian after.groupInstanceCount descriptor.fields message inputs

/-- The tokens of the fixed part, and those of a block if there are any, are not more than an
`unsigned int` counts, nor are the inputs. -/
def Countable (tokenCount : Nat) (descriptor : Descriptor) : Prop :=
  tokenCount < 2 ^ 32 ∧ fixedTokens descriptor.fields < 2 ^ 32 ∧
    (fixedTokens descriptor.fields < tokenCount →
      ∀ group ∈ openGroups descriptor.fields, tokensAll group.fields < 2 ^ 32)

section Counts

variable {state : GroupSizeCalculator.CalculatorState}

theorem variableGroupSize_some {group : VariableGroup} {tokens left : Nat} {count : Option Nat}
    (calculated : variableGroupSize group tokens left = some (state, count))
    (goes : state = .singleVariableGroup ∨ state = .noVariableGroups) :
    state = .singleVariableGroup ∧ 0 < tokens ∧ ∃ number, count = some number ∧
      left = number * tokens := by
  unfold variableGroupSize at calculated
  split_ifs at calculated with most none rest
  · cases calculated
    rcases goes with other | other <;> cases other
  · cases calculated
    rcases goes with other | other <;> cases other
  · cases calculated
    have whole : tokens ∣ left := Nat.dvd_of_mod_eq_zero (not_not.mp rest)
    exact ⟨rfl, Nat.pos_of_ne_zero none, _, rfl, (Nat.div_mul_cancel whole).symm⟩

variable {descriptor : Descriptor} {builder after : StringMessageBuilder} {message : Message}
  {bigEndian : Bool} {inputs : List (List UInt8)}

/-- The tokens that were counted, narrowed, and the fields that there are. -/
theorem calculated_count {tokenCount : Nat} {count : Option Nat} (former : Nat)
    (calculated : calculateGroupSize tokenCount descriptor = some (state, count))
    (goes : state = .singleVariableGroup ∨ state = .noVariableGroups) :
    ∃ number block,
      fixedTokens descriptor.fields % 2 ^ 32 + number * (block % 2 ^ 32) = tokenCount ∧
      instancesAll (count.getD former) descriptor.fields =
        fixedTokens descriptor.fields + number * block ∧
      (number = 0 ∨ 0 < block % 2 ^ 32) ∧
      ((∀ group ∈ openGroups descriptor.fields, tokensAll group.fields < 2 ^ 32) ↔
        block < 2 ^ 32) := by
  rcases calculateGroupSize_cases tokenCount descriptor with
    ⟨group, repeats, same⟩ | ⟨_, other, same, single, none⟩
  · rw [same] at calculated
    obtain ⟨_, some, number, rfl, left⟩ := variableGroupSize_some calculated goes
    have fixedPart := repeats.fixedPart
    refine ⟨number, tokensAll group.fields, by omega, ?_, .inr some, ?_⟩
    · rw [instancesAll_eq, repeats.only, Option.getD_some]
      simp [instancesAll_closed number group.fields repeats.block]
    · rw [repeats.only]
      simp
  · rw [same] at calculated
    cases calculated
    obtain ⟨closed, count⟩ := none (goes.resolve_left single)
    refine ⟨0, 0, by omega, ?_, .inl rfl, ?_⟩
    · rw [instancesAll_eq, closed]
      rfl
    · rw [closed]
      simp

theorem result_some (done : builder.result = (after, some message)) :
    builder.error = none ∧ builder.groups = [message] ∧
      after = { builder with groups := [[]] } := by
  unfold result at done
  cases failed : builder.error with
  | some name =>
    rw [failed] at done
    cases done
  | none =>
    rw [failed] at done
    split at done
    · cases done
    · split at done
      · rename_i fields groups
        cases done
        exact ⟨rfl, groups, by simp⟩
      · cases done

theorem result_of (sound : builder.error = none) (groups : builder.groups = [message]) :
    builder.result = ({ builder with groups := [[]] }, some message) := by
  unfold result
  rw [if_neg (by rw [sound]; decide)]
  split
  · rename_i fields same
    rw [groups] at same
    cases same
    rfl
  · rename_i other
    exact absurd groups (other message)

/-- The builder when it visits the fields, and what comes out. -/
theorem getMessage_some
    (done : builder.getMessage bigEndian inputs descriptor = some (after, some message)) :
    ∃ state count, calculateGroupSize (inputs.length % 2 ^ 32) descriptor = some (state, count) ∧
      (state = .singleVariableGroup ∨ state = .noVariableGroups) ∧
      (visitAll bigEndian descriptor.fields
        { builder.initVars inputs with
          groupInstanceCount := count.getD builder.groupInstanceCount }).result =
            (after, some message) := by
  unfold getMessage at done
  cases calculated : calculateGroupSize (inputs.length % 2 ^ 32) descriptor with
  | none =>
    rw [calculated] at done
    cases done
  | some both =>
    obtain ⟨state, count⟩ := both
    rw [calculated] at done
    refine ⟨state, count, rfl, ?_⟩
    cases state with
    | singleVariableGroup => exact ⟨.inl rfl, Option.some.inj done⟩
    | noVariableGroups => exact ⟨.inr rfl, Option.some.inj done⟩
    | _ => cases done

/-- Whether tokens were missing, and what became of them otherwise. -/
theorem getMessage_goes {count : Nat}
    (done : (visitAll bigEndian descriptor.fields
      { builder.initVars inputs with groupInstanceCount := count }).result =
        (after, some message)) :
    after.groupInstanceCount = count ∧
      if instancesAll count descriptor.fields ≤ inputs.length % 2 ^ 32 then
        after.starved = false ∧ after.offset = instancesAll count descriptor.fields ∧
          Takes bigEndian count descriptor.fields message
            (inputs.take (instancesAll count descriptor.fields))
      else after.starved = true := by
  have goes := @visitAll_goes bigEndian count descriptor.fields
    { builder.initVars inputs with groupInstanceCount := count } rfl
  obtain ⟨sound, groups, rfl⟩ := result_some done
  obtain ⟨fields, pushed, rest⟩ := goes.pushed [] [] rfl
  rw [groups] at pushed
  have same : message = fields := by simpa using pushed
  have outcome := rest sound rfl (Nat.zero_le _) (Nat.mod_le _ _)
  refine ⟨goes.count, ?_⟩
  rw [same]
  simpa [initVars] using outcome

/-- Whether every token was used. -/
theorem usesEvery_iff
    (done : builder.getMessage bigEndian inputs descriptor = some (after, some message)) :
    UsesEvery bigEndian inputs descriptor after message ↔ Countable inputs.length descriptor := by
  obtain ⟨state, count, calculated, goes, result⟩ := getMessage_some done
  obtain ⟨same, outcome⟩ := getMessage_goes result
  obtain ⟨number, block, counted, needed, some, blocks⟩ :=
    calculated_count builder.groupInstanceCount calculated goes
  unfold Countable
  rw [blocks]
  constructor
  · intro uses
    have enough : instancesAll (count.getD builder.groupInstanceCount) descriptor.fields ≤
        inputs.length % 2 ^ 32 := by
      by_contra missing
      rw [if_neg missing, uses.fed] at outcome
      cases outcome
    rw [if_pos enough, uses.consumed] at outcome
    have all := outcome.2.1
    refine ⟨by omega, by omega, ?_⟩
    intro more
    have repeated : 0 < number := by
      by_contra none
      rw [Nat.eq_zero_of_not_pos none, Nat.zero_mul] at needed
      omega
    have once := Nat.le_mul_of_pos_left block repeated
    omega
  · rintro ⟨fits, fixedFits, blockFits⟩
    rw [Nat.mod_eq_of_lt fits] at counted outcome
    rw [Nat.mod_eq_of_lt fixedFits] at counted
    have all : instancesAll (count.getD builder.groupInstanceCount) descriptor.fields =
        inputs.length := by
      by_cases more : fixedTokens descriptor.fields < inputs.length
      · rw [Nat.mod_eq_of_lt (blockFits more)] at counted
        rw [needed, counted]
      · have none : number * (block % 2 ^ 32) = 0 := by omega
        rcases some with rfl | some
        · omega
        · rcases Nat.mul_eq_zero.mp none with rfl | empty
          · omega
          · omega
    rw [all, if_pos (Nat.le_refl _), take_length] at outcome
    refine ⟨outcome.2.1, outcome.1, ?_, ?_⟩
    · intro other result
      rw [calculated] at result
      cases result
      exact same
    · rw [same]
      exact outcome.2.2

end Counts

section Unfed

variable {bigEndian : Bool}

/-- There is no input left, and there was no error so far. -/
def Unfed (builder : StringMessageBuilder) : Prop :=
  builder.error = none ∧ builder.inputSize ≤ builder.offset

theorem visitField_unfed {builder : StringMessageBuilder} (unfed : Unfed builder)
    (descriptor : FieldDescriptor) : Unfed (visitField bigEndian descriptor builder) := by
  unfold visitField
  rw [if_neg (by rw [unfed.1]; decide), if_pos unfed.2]
  exact unfed

theorem leave_unfed {builder : StringMessageBuilder} (unfed : Unfed builder)
    (message : List MessageField → MessageField) : Unfed (builder.leave message) := by
  unfold leave push
  split
  · exact unfed
  · split <;> exact unfed

mutual

theorem visit_unfed : ∀ (field : FieldDescriptor) (builder : StringMessageBuilder),
    Unfed builder → Unfed (visit bigEndian field builder)
  | .bool _, _, unfed | .ipv4 _, _, unfed | .mac _, _, unfed | .uid _, _, unfed
  | .string _, _, unfed | .integer _ _, _, unfed => visitField_unfed unfed _
  | .group name inner minBlocks maxBlocks, builder, unfed => by
    refine TransitionSystem.iterate_invariant ?_ unfed _
    intro before still
    exact leave_unfed (visitAll_unfed inner before.enter still) _

theorem visitAll_unfed : ∀ (fields : List FieldDescriptor) (builder : StringMessageBuilder),
    Unfed builder → Unfed (visitAll bigEndian fields builder)
  | [], _, unfed => unfed
  | field :: rest, builder, unfed => visitAll_unfed rest _ (visit_unfed field builder unfed)

end

/-- Without inputs no field is an error. -/
theorem getMessage_unfed (builder : StringMessageBuilder) {descriptor : Descriptor}
    (calculated : calculateGroupSize 0 descriptor = some (.noVariableGroups, none)) :
    ∃ after message, builder.getMessage bigEndian [] descriptor = some (after, some message) := by
  have start : Unfed (builder.initVars []) := ⟨rfl, Nat.zero_le 0⟩
  have goes := @visitAll_goes bigEndian _ descriptor.fields (builder.initVars []) rfl
  obtain ⟨message, groups, _⟩ := goes.pushed [] [] rfl
  have sound := (@visitAll_unfed bigEndian descriptor.fields _ start).1
  refine ⟨{ visitAll bigEndian descriptor.fields (builder.initVars []) with groups := [[]] },
    message, ?_⟩
  unfold getMessage
  rw [show [].length % 2 ^ 32 = 0 from rfl, calculated]
  exact congrArg some (result_of sound groups)

end Unfed

/-- Whatever message is made of the inputs, all of them have been used for it, one for each field,
exactly if the tokens can be counted. -/
theorem getMessage_usesEvery {bigEndian : Bool} {builder after : StringMessageBuilder}
    {inputs : List (List UInt8)} {descriptor : Descriptor} {message : Message}
    (done : builder.getMessage bigEndian inputs descriptor = some (after, some message)) :
    UsesEvery bigEndian inputs descriptor after message ↔ Countable inputs.length descriptor :=
  usesEvery_iff done

/-- The constructor; the number of instances is what was in the memory. -/
def new (groupInstanceCount : Nat) : StringMessageBuilder :=
  ⟨[], 0, 0, groupInstanceCount, [], none, false⟩

/-- A bool, and two more in a group. -/
def flags : Descriptor := ⟨[], [.bool [], .group [] [.bool []] 0 unlimitedBlocks]⟩

def flagTexts : List (List UInt8) := [[116, 114, 117, 101], [49], [48]]

def flagMessage : Message :=
  [.bool [] true, .group [] [.bool []] 0 unlimitedBlocks [.bool [] true],
    .group [] [.bool []] 0 unlimitedBlocks [.bool [] false]]

theorem getMessage_usesEvery_flags :
    UsesEvery false flagTexts flags ⟨flagTexts, 3, 3, 2, [[]], none, false⟩ flagMessage :=
  (getMessage_usesEvery (show (new 7).getMessage false flagTexts flags = _ from rfl)).mpr
    ⟨by decide, by decide, fun _ group member => by
      rw [show openGroups flags.fields = [⟨[.bool []], 0, unlimitedBlocks⟩] from rfl,
        List.mem_singleton] at member
      subst member
      decide⟩

/-- 16384 blocks of 262144 bools: in all `2 ^ 32` of them. -/
def wide : Descriptor := ⟨[], [.group [] (List.replicate 262144 (.bool [])) 16384 16384]⟩

theorem populate_bools (count : Nat) :
    (populate (List.replicate count (.bool []))).fixed = true := by
  induction count with
  | zero => rfl
  | succ count ih =>
    rw [replicate_succ, populate_fixed_cons]
    exact ⟨rfl, ih⟩

theorem tokensAll_bools (count : Nat) :
    tokensAll (List.replicate count (.bool [])) = count := by
  induction count with
  | zero => rfl
  | succ count ih =>
    rw [replicate_succ, tokensAll, ih]
    exact Nat.add_comm 1 count

/-- No input is none too few for so many fields: there is a message all the same. -/
theorem wide_unfed : ∃ after message,
    (new 0).getMessage false [] wide = some (after, some message) ∧
      ¬ UsesEvery false [] wide after message := by
  have fixed : (FieldDescriptor.group [] (List.replicate 262144 (.bool [])) 16384 16384).size.fixed =
      true := (group_fixed_iff _ _ _ _).mpr ⟨populate_bools _, rfl⟩
  have closed := (open_of_fixed fixed).2
  have groups : openGroups wide.fields = [] := by
    show openGroups [_] = []
    rw [openGroups_cons, closed]
    rfl
  have tokens : fixedTokens wide.fields = 2 ^ 32 := by
    show fixedTokens [_] = _
    rw [fixedTokens, closed, FieldDescriptor.tokens, tokensAll_bools]
    rfl
  have calculated := @GroupSizeCalculator.calculateGroupSize_noVariableGroups 0 wide groups
    (Nat.zero_le 0) (by rw [tokens, Nat.mod_self])
  obtain ⟨after, message, done⟩ := @getMessage_unfed false (new 0) wide calculated
  refine ⟨after, message, done, ?_⟩
  rw [usesEvery_iff done, Countable, tokens]
  omega

end OpenLighting.Messaging.StringMessageBuilder
