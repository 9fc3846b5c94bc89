import OpenLighting.MessageCalculator

/- How many tokens a text message has, and how often its group of variable size is repeated. -/
namespace OpenLighting.Messaging

/-- `m_token_count` is the stack, its top first. A count is an `unsigned int`. -/
structure StaticGroupTokenCalculator where
  tokenCount : List Nat
  variableSizedGroupEncountered : Bool

namespace StaticGroupTokenCalculator

variable (calculator : StaticGroupTokenCalculator)

/-- What is added to `m_token_count.top()`. -/
def add (count : Nat) : StaticGroupTokenCalculator :=
  match calculator.tokenCount with
  | [] => calculator
  | top :: below => { calculator with tokenCount := (top + count) % 2 ^ 32 :: below }

/-- `Visit` of a group. -/
def enter (fixedSize : Bool) : StaticGroupTokenCalculator :=
  ⟨0 :: calculator.tokenCount, calculator.variableSizedGroupEncountered || !fixedSize⟩

/-- `PostVisit` of a group. -/
def leave (minBlocks : UInt16) : StaticGroupTokenCalculator :=
  let groupLength := calculator.tokenCount.headD 0
  { calculator with tokenCount := calculator.tokenCount.tail }.add
    (groupLength * minBlocks.toNat % 2 ^ 32)

mutual

/-- `Accept` of a field. -/
def visit : FieldDescriptor → StaticGroupTokenCalculator → StaticGroupTokenCalculator
  | .group name fields minBlocks maxBlocks, calculator =>
    let fixedSize := (FieldDescriptor.group name fields minBlocks maxBlocks).size.fixed
    (visitAll fields (calculator.enter fixedSize)).leave minBlocks
  | _, calculator => calculator.add 1

def visitAll : List FieldDescriptor → StaticGroupTokenCalculator → StaticGroupTokenCalculator
  | [], calculator => calculator
  | field :: rest, calculator => visitAll rest (visit field calculator)

end

/-- `CalculateTokensRequired` for the fields of a group. -/
def calculateTokensRequired (fields : List FieldDescriptor) : Option Nat :=
  let calculator := visitAll fields ⟨[0], false⟩
  if calculator.variableSizedGroupEncountered then none
  else some (calculator.tokenCount.headD 0)

end StaticGroupTokenCalculator

open StaticGroupTokenCalculator (calculateTokensRequired)

def VariableGroup.fixedSize (group : VariableGroup) : Bool :=
  (groupSize (populate group.fields) group.minBlocks group.maxBlocks).fixed

/-- What `Visit` collects. The groups may be of a fixed size, too. -/
structure GroupSizeCalculator where
  groups : List VariableGroup
  nonGroups : List FieldDescriptor

namespace GroupSizeCalculator

inductive CalculatorState where
  | insufficientTokens
  | extraTokens
  | noVariableGroups
  | singleVariableGroup
  | multipleVariableGroups
  | nestedVariableGroups
  | mismatchedTokens
  deriving DecidableEq

def visit (calculator : GroupSizeCalculator) : FieldDescriptor → GroupSizeCalculator
  | .group _ fields minBlocks maxBlocks =>
    { calculator with groups := calculator.groups ++ [⟨fields, minBlocks, maxBlocks⟩] }
  | field => { calculator with nonGroups := calculator.nonGroups ++ [field] }

/-- The variables of the loop over the groups. -/
structure Totals where
  requiredTokens : Nat
  variableGroupCounter : Nat
  variableGroupTokenCount : Nat
  variableGroup : Option VariableGroup

/-- One pass of this loop. -/
def addGroup (totals : Totals) (group : VariableGroup) : Except CalculatorState Totals :=
  match calculateTokensRequired group.fields with
  | none => .error .nestedVariableGroups
  | some groupSize =>
    if group.fixedSize then
      .ok { totals with
        requiredTokens :=
          (totals.requiredTokens + group.minBlocks.toNat * groupSize % 2 ^ 32) % 2 ^ 32 }
    else if 1 < totals.variableGroupCounter + 1 then .error .multipleVariableGroups
    else .ok ⟨totals.requiredTokens, totals.variableGroupCounter + 1, groupSize, some group⟩

/-- The end of `CalculateGroupSize` for one variable group; `none` is a division by zero. -/
def variableGroupSize (group : VariableGroup) (tokenCount remainingTokens : Nat) :
    Option (CalculatorState × Option Nat) :=
  if group.maxBlocks ≠ unlimitedBlocks ∧
      toUnsigned group.maxBlocks * tokenCount % 2 ^ 32 < remainingTokens then
    some (.extraTokens, none)
  else if tokenCount = 0 then none
  else if remainingTokens % tokenCount ≠ 0 then some (.mismatchedTokens, none)
  else some (.singleVariableGroup, some (remainingTokens / tokenCount))

/-- `CalculateGroupSize`, with what it stores to `group_repeat_count`. -/
def calculateGroupSize (tokenCount : Nat) (descriptor : Descriptor) :
    Option (CalculatorState × Option Nat) :=
  let calculator := descriptor.fields.foldl visit ⟨[], []⟩
  let requiredTokens := calculator.nonGroups.length % 2 ^ 32
  if tokenCount < requiredTokens then some (.insufficientTokens, none)
  else if calculator.groups.isEmpty then
    some (if requiredTokens = tokenCount then .noVariableGroups else .extraTokens, none)
  else
    match calculator.groups.foldlM addGroup ⟨requiredTokens, 0, 0, none⟩ with
    | .error state => some (state, none)
    | .ok totals =>
      if tokenCount < totals.requiredTokens then some (.insufficientTokens, none)
      else
        match totals.variableGroup with
        | none =>
          some (if totals.requiredTokens = tokenCount then .noVariableGroups
            else .extraTokens, none)
        | some group =>
          variableGroupSize group totals.variableGroupTokenCount
            (tokenCount - totals.requiredTokens)

end GroupSizeCalculator

mutual

/-- How many tokens a field takes that has no group of variable size in it. -/
def FieldDescriptor.tokens : FieldDescriptor → Nat
  | .group _ fields minBlocks _ => minBlocks.toNat * tokensAll fields
  | _ => 1

def tokensAll : List FieldDescriptor → Nat
  | [] => 0
  | field :: rest => field.tokens + tokensAll rest

end

def FieldDescriptor.group? : FieldDescriptor → Option VariableGroup
  | .group _ fields minBlocks maxBlocks => some ⟨fields, minBlocks, maxBlocks⟩
  | _ => none

/-- How many fields are not groups. -/
def singles (fields : List FieldDescriptor) : Nat :=
  fields.countP (fun field => field.group?.isNone)

/-- How many tokens there are besides those of the groups of variable size. -/
def fixedTokens : List FieldDescriptor → Nat
  | [] => 0
  | field :: rest => (if field.openGroup?.isSome then 0 else field.tokens) + fixedTokens rest

section Tokens

theorem openGroup_group (name : List UInt8) (fields : List FieldDescriptor) (minBlocks : UInt16)
    (maxBlocks : Int16) :
    (FieldDescriptor.group name fields minBlocks maxBlocks).openGroup?.isSome =
      !(FieldDescriptor.group name fields minBlocks maxBlocks).size.fixed := by
  rw [FieldDescriptor.openGroup?]
  cases (FieldDescriptor.group name fields minBlocks maxBlocks).size.fixed <;> rfl

theorem openGroups_of_fixed {fields : List FieldDescriptor}
    (fixed : (populate fields).fixed = true) : openGroups fields = [] := by
  induction fields with
  | nil => rfl
  | cons field rest ih =>
    rw [populate_fixed_cons] at fixed
    rw [openGroups_cons, (open_of_fixed fixed.1).2, ih fixed.2]
    rfl

theorem isEmpty_openGroups_cons (field : FieldDescriptor) (rest : List FieldDescriptor) :
    (!(openGroups (field :: rest)).isEmpty) =
      (field.openGroup?.isSome || !(openGroups rest).isEmpty) := by
  rw [openGroups_cons]
  cases field.openGroup? <;> simp

open StaticGroupTokenCalculator (visit visitAll)

mutual

theorem visit_tokens : ∀ (field : FieldDescriptor) (top : Nat) (below : List Nat) (flag : Bool),
    visit field ⟨top :: below, flag⟩ =
      ⟨(top + field.tokens) % 2 ^ 32 :: below, flag || field.openGroup?.isSome⟩
  | .bool _, _, _, flag | .ipv4 _, _, _, flag | .mac _, _, _, flag | .uid _, _, _, flag
  | .string _, _, _, flag | .integer _ _, _, _, flag => by
    show StaticGroupTokenCalculator.mk _ flag = _
    simp [FieldDescriptor.tokens, FieldDescriptor.openGroup?]
  | .group name inner minBlocks maxBlocks, top, below, flag => by
    have encountered : ((flag || !(FieldDescriptor.group name inner minBlocks maxBlocks).size.fixed)
        || !(openGroups inner).isEmpty) =
          (flag || !(FieldDescriptor.group name inner minBlocks maxBlocks).size.fixed) := by
      cases fixed : (FieldDescriptor.group name inner minBlocks maxBlocks).size.fixed with
      | true =>
        rw [openGroups_of_fixed ((group_fixed_iff name inner minBlocks maxBlocks).mp fixed).1]
        simp
      | false => simp
    rw [visit, StaticGroupTokenCalculator.enter, visitAll_tokens inner 0 (by decide),
      encountered, openGroup_group, Nat.zero_add]
    simp [StaticGroupTokenCalculator.leave, StaticGroupTokenCalculator.add,
      FieldDescriptor.tokens, Nat.mul_comm]

theorem visitAll_tokens : ∀ (fields : List FieldDescriptor) (top : Nat) (_ : top < 2 ^ 32)
    (below : List Nat) (flag : Bool), visitAll fields ⟨top :: below, flag⟩ =
      ⟨(top + tokensAll fields) % 2 ^ 32 :: below, flag || !(openGroups fields).isEmpty⟩
  | [], top, small, below, flag => by
    rw [visitAll, tokensAll, Nat.add_zero, Nat.mod_eq_of_lt small]
    simp [openGroups]
  | field :: rest, top, small, below, flag => by
    rw [visitAll, visit_tokens field, visitAll_tokens rest _ (Nat.mod_lt _ (Nat.two_pow_pos 32)),
      isEmpty_openGroups_cons, Bool.or_assoc, Nat.mod_add_mod, Nat.add_assoc, tokensAll]

end

/-- The tokens of one block are counted if there is no group of variable size in it. -/
theorem calculateTokensRequired_eq (fields : List FieldDescriptor) :
    calculateTokensRequired fields =
      if openGroups fields = [] then some (tokensAll fields % 2 ^ 32) else none := by
  unfold calculateTokensRequired
  rw [visitAll_tokens fields 0 (by decide), Nat.zero_add]
  cases openGroups fields <;> simp

end Tokens

namespace GroupSizeCalculator

/-- The totals behind some groups, of which one at most is of variable size. -/
def totalsWith (requiredTokens : Nat) (group : Option VariableGroup) : Totals :=
  ⟨requiredTokens, group.toList.length,
    (group.map (fun group => tokensAll group.fields % 2 ^ 32)).getD 0, group⟩

def closedTokens : List VariableGroup → Nat
  | [] => 0
  | group :: rest =>
    (if group.fixedSize then group.minBlocks.toNat * tokensAll group.fields else 0) +
      closedTokens rest

theorem addGroup_eq (requiredTokens : Nat) (former : Option VariableGroup)
    (group : VariableGroup) :
    addGroup (totalsWith requiredTokens former) group =
      if openGroups group.fields = [] then
        if group.fixedSize then
          .ok (totalsWith
            ((requiredTokens + group.minBlocks.toNat * tokensAll group.fields) % 2 ^ 32) former)
        else if former.isSome then .error .multipleVariableGroups
        else .ok (totalsWith requiredTokens (some group))
      else .error .nestedVariableGroups := by
  unfold addGroup
  rw [calculateTokensRequired_eq]
  by_cases block : openGroups group.fields = []
  · rw [if_pos block, if_pos block]
    cases former with
    | none | some other => simp [totalsWith]
  · rw [if_neg block, if_neg block]

/-- The loop comes to its end if no group of variable size is in another one, and there is one of
them at most. -/
theorem foldlM_addGroup (groups : List VariableGroup) {requiredTokens : Nat}
    (small : requiredTokens < 2 ^ 32) (former : Option VariableGroup) (after : Totals) :
    groups.foldlM addGroup (totalsWith requiredTokens former) = .ok after ↔
      (∀ group ∈ groups, openGroups group.fields = []) ∧ ∃ last : Option VariableGroup,
        former.toList ++ groups.filter (fun group => !group.fixedSize) = last.toList ∧
          after = totalsWith ((requiredTokens + closedTokens groups) % 2 ^ 32) last := by
  induction groups generalizing requiredTokens former with
  | nil =>
    have same : (requiredTokens + closedTokens []) % 2 ^ 32 = requiredTokens :=
      Nat.mod_eq_of_lt small
    rw [same]
    constructor
    · intro done
      cases done
      exact ⟨by simp, former, by simp, rfl⟩
    · rintro ⟨_, last, same, rfl⟩
      have former_eq : former = last := by
        cases former <;> cases last <;> simp_all
      rw [former_eq]
      rfl
  | cons group rest ih =>
    rw [List.foldlM_cons, addGroup_eq]
    by_cases block : openGroups group.fields = []
    · rw [if_pos block]
      cases fixed : group.fixedSize with
      | true =>
        have sum : ((requiredTokens + group.minBlocks.toNat * tokensAll group.fields) % 2 ^ 32 +
            closedTokens rest) % 2 ^ 32 =
              (requiredTokens + closedTokens (group :: rest)) % 2 ^ 32 := by
          rw [closedTokens, fixed, if_pos rfl, Nat.mod_add_mod, Nat.add_assoc]
        rw [if_pos rfl]
        refine (ih (Nat.mod_lt _ (Nat.two_pow_pos 32)) former).trans ?_
        rw [sum]
        simp [fixed, block]
      | false =>
        have sum : closedTokens (group :: rest) = closedTokens rest := by
          rw [closedTokens, fixed, if_neg Bool.false_ne_true, Nat.zero_add]
        rw [if_neg Bool.false_ne_true, sum]
        cases former with
        | none =>
          refine (ih small (some group)).trans ?_
          simp [fixed, block]
        | some other =>
          constructor
          · intro done
            cases done
          · rintro ⟨_, last, same, _⟩
            have lengths := congrArg List.length same
            cases last <;> simp [fixed] at lengths
    · rw [if_neg block]
      constructor
      · intro done
        cases done
      · rintro ⟨blocks, _⟩
        exact absurd (blocks group List.mem_cons_self) block

theorem foldlM_error {groups : List VariableGroup} {totals : Totals} {state : CalculatorState}
    (failed : groups.foldlM addGroup totals = .error state) :
    state = .nestedVariableGroups ∨ state = .multipleVariableGroups := by
  induction groups generalizing totals with
  | nil => cases failed
  | cons group rest ih =>
    rw [List.foldlM_cons] at failed
    cases first : addGroup totals group with
    | ok next =>
      rw [first] at failed
      exact ih failed
    | error reason =>
      rw [first] at failed
      cases failed
      unfold addGroup at first
      split at first
      · cases first
        exact .inl rfl
      · split_ifs at first
        cases first
        exact .inr rfl

variable (fields : List FieldDescriptor)

theorem foldl_visit (calculator : GroupSizeCalculator) : fields.foldl visit calculator =
      ⟨calculator.groups ++ fields.filterMap FieldDescriptor.group?,
        calculator.nonGroups ++ fields.filter (fun field => field.group?.isNone)⟩ := by
  induction fields generalizing calculator with
  | nil => simp
  | cons field rest ih =>
    rw [List.foldl_cons, ih]
    cases field <;> simp [visit, FieldDescriptor.group?, List.filterMap_cons]

theorem fixedSize_group (name : List UInt8) (inner : List FieldDescriptor) (minBlocks : UInt16)
    (maxBlocks : Int16) :
    (VariableGroup.mk inner minBlocks maxBlocks).fixedSize =
      (FieldDescriptor.group name inner minBlocks maxBlocks).size.fixed := by
  rfl

theorem filter_groups :
    (fields.filterMap FieldDescriptor.group?).filter (fun group => !group.fixedSize) =
      openGroups fields := by
  induction fields with
  | nil => rfl
  | cons field rest ih =>
    rw [openGroups_cons, ← ih]
    cases field with
    | group name inner minBlocks maxBlocks =>
      rw [FieldDescriptor.openGroup?, List.filterMap_cons, FieldDescriptor.group?]
      rw [List.filter_cons, fixedSize_group name]
      cases (FieldDescriptor.group name inner minBlocks maxBlocks).size.fixed <;> rfl
    | _ => rfl

theorem closedTokens_groups :
    singles fields + closedTokens (fields.filterMap FieldDescriptor.group?) = fixedTokens fields := by
  induction fields with
  | nil => rfl
  | cons field rest ih =>
    rw [fixedTokens, ← ih]
    cases field with
    | group name inner minBlocks maxBlocks =>
      rw [openGroup_group, List.filterMap_cons, FieldDescriptor.group?]
      rw [closedTokens, fixedSize_group name, FieldDescriptor.tokens]
      cases (FieldDescriptor.group name inner minBlocks maxBlocks).size.fixed <;>
        simp [singles, FieldDescriptor.group?, Nat.add_assoc, Nat.add_comm]
    | _ =>
      simp [singles, FieldDescriptor.group?, FieldDescriptor.openGroup?,
        FieldDescriptor.tokens, List.filterMap_cons]
      omega

/-- What is behind the fixed part is for any number of blocks of this group. -/
structure Repeats (tokenCount : Nat) (descriptor : Descriptor) (group : VariableGroup) : Prop where
  only : openGroups descriptor.fields = [group]
  block : openGroups group.fields = []
  enough : singles descriptor.fields % 2 ^ 32 ≤ tokenCount
  fixedPart : fixedTokens descriptor.fields % 2 ^ 32 ≤ tokenCount

theorem blocks_closed {fields : List FieldDescriptor}
    (blocks : ∀ group ∈ openGroups fields, openGroups group.fields = []) :
    ∀ group ∈ fields.filterMap FieldDescriptor.group?, openGroups group.fields = [] := by
  intro group member
  cases fixed : group.fixedSize with
  | true =>
    apply openGroups_of_fixed
    exact (Bool.and_eq_true_iff.mp fixed).1
  | false =>
    apply blocks
    rw [← filter_groups, List.mem_filter]
    exact ⟨member, by rw [fixed]; rfl⟩

variable (tokenCount : Nat) (descriptor : Descriptor)

theorem calculateGroupSize_eq : calculateGroupSize tokenCount descriptor =
      if tokenCount < singles descriptor.fields % 2 ^ 32 then some (.insufficientTokens, none)
      else if descriptor.fields.filterMap FieldDescriptor.group? = [] then
        some (if singles descriptor.fields % 2 ^ 32 = tokenCount then .noVariableGroups
          else .extraTokens, none)
      else
        match (descriptor.fields.filterMap FieldDescriptor.group?).foldlM addGroup
            (totalsWith (singles descriptor.fields % 2 ^ 32) none) with
        | .error state => some (state, none)
        | .ok totals =>
          if tokenCount < totals.requiredTokens then some (.insufficientTokens, none)
          else
            match totals.variableGroup with
            | none =>
              some (if totals.requiredTokens = tokenCount then .noVariableGroups
                else .extraTokens, none)
            | some group =>
              variableGroupSize group totals.variableGroupTokenCount
                (tokenCount - totals.requiredTokens) := by
  have count : (descriptor.fields.filter (fun field => field.group?.isNone)).length =
      singles descriptor.fields := (List.countP_eq_length_filter).symm
  unfold calculateGroupSize
  rw [foldl_visit, List.nil_append, List.nil_append]
  dsimp only
  rw [count]
  simp only [List.isEmpty_iff]
  rfl

/-- Either the tokens may be for a number of blocks, or there is no number of them. -/
theorem calculateGroupSize_cases : (∃ group, Repeats tokenCount descriptor group ∧
      calculateGroupSize tokenCount descriptor =
        variableGroupSize group (tokensAll group.fields % 2 ^ 32)
          (tokenCount - fixedTokens descriptor.fields % 2 ^ 32)) ∨
    (∀ group, ¬ Repeats tokenCount descriptor group) ∧
      ∃ state, calculateGroupSize tokenCount descriptor = some (state, none) ∧
        state ≠ .singleVariableGroup ∧
        (state = .noVariableGroups → openGroups descriptor.fields = [] ∧
          fixedTokens descriptor.fields % 2 ^ 32 = tokenCount) := by
  have total := closedTokens_groups descriptor.fields
  have filtered := filter_groups descriptor.fields
  rw [calculateGroupSize_eq]
  by_cases few : tokenCount < singles descriptor.fields % 2 ^ 32
  · rw [if_pos few]
    right
    refine ⟨?_, _, rfl, by decide, fun other => by cases other⟩
    intro group repeats
    exact absurd repeats.enough (Nat.not_le_of_lt few)
  · rw [if_neg few]
    by_cases groups : descriptor.fields.filterMap FieldDescriptor.group? = []
    · rw [groups] at filtered total
      have none : openGroups descriptor.fields = [] := filtered.symm
      have fixed : fixedTokens descriptor.fields = singles descriptor.fields := total.symm
      rw [if_pos groups]
      right
      rw [none, fixed]
      refine ⟨?_, _, rfl, ?_, ?_⟩
      · intro group repeats
        have only := repeats.only
        rw [none] at only
        cases only
      · split_ifs <;> decide
      · split_ifs with same
        · exact fun _ => ⟨rfl, same⟩
        · exact fun other => by cases other
    · rw [if_neg groups]
      have loop := foldlM_addGroup (descriptor.fields.filterMap FieldDescriptor.group?)
        (Nat.mod_lt (singles descriptor.fields) (Nat.two_pow_pos 32)) none
      rw [Option.toList_none, List.nil_append, filtered, Nat.mod_add_mod, total] at loop
      cases done : (descriptor.fields.filterMap FieldDescriptor.group?).foldlM addGroup
          (totalsWith (singles descriptor.fields % 2 ^ 32) none) with
      | error state =>
        have failed := foldlM_error done
        right
        refine ⟨?_, state, rfl, ?_, ?_⟩
        · intro group repeats
          have blocks : ∀ other ∈ openGroups descriptor.fields, openGroups other.fields = [] := by
            rw [repeats.only]
            simpa using repeats.block
          have ends := (loop _).mpr ⟨blocks_closed blocks, some group, repeats.only, rfl⟩
          rw [done] at ends
          cases ends
        · rcases failed with rfl | rfl <;> decide
        · intro other
          rcases failed with rfl | rfl <;> cases other
      | ok totals =>
        obtain ⟨blocks, last, only, rfl⟩ := (loop totals).mp done
        by_cases short : tokenCount < fixedTokens descriptor.fields % 2 ^ 32
        · right
          refine ⟨?_, _, if_pos short, by decide, fun other => by cases other⟩
          intro group repeats
          exact absurd repeats.fixedPart (Nat.not_le_of_lt short)
        · cases last with
          | none =>
            right
            refine ⟨?_, _, if_neg short, ?_, ?_⟩
            · intro group repeats
              have other := repeats.only
              rw [only] at other
              cases other
            · split_ifs <;> decide
            · split_ifs with same
              · exact fun _ => ⟨only, same⟩
              · exact fun other => by cases other
          | some group =>
            left
            refine ⟨group, ⟨only, ?_, Nat.le_of_not_lt few, Nat.le_of_not_lt short⟩,
              if_neg short⟩
            apply blocks
            have member : group ∈ openGroups descriptor.fields := by
              rw [only]
              exact List.mem_singleton_self group
            rw [← filtered] at member
            exact List.mem_of_mem_filter member

theorem calculateGroupSize_noVariableGroups {tokenCount : Nat} {descriptor : Descriptor}
    (closed : openGroups descriptor.fields = [])
    (enough : singles descriptor.fields % 2 ^ 32 ≤ tokenCount)
    (same : fixedTokens descriptor.fields % 2 ^ 32 = tokenCount) :
    calculateGroupSize tokenCount descriptor = some (.noVariableGroups, none) := by
  have total := closedTokens_groups descriptor.fields
  have filtered := filter_groups descriptor.fields
  rw [calculateGroupSize_eq, if_neg (Nat.not_lt_of_le enough)]
  by_cases groups : descriptor.fields.filterMap FieldDescriptor.group? = []
  · rw [groups] at total
    have fixed : singles descriptor.fields = fixedTokens descriptor.fields := total
    rw [if_pos groups, fixed, if_pos same]
  · have loop := foldlM_addGroup (descriptor.fields.filterMap FieldDescriptor.group?)
      (Nat.mod_lt (singles descriptor.fields) (Nat.two_pow_pos 32)) none
    rw [Option.toList_none, List.nil_append, filtered, Nat.mod_add_mod, total] at loop
    rw [if_neg groups, (loop _).mpr ⟨blocks_closed (by rw [closed]; simp), none, closed, rfl⟩]
    dsimp only [totalsWith]
    rw [same, if_neg (Nat.lt_irrefl tokenCount), if_pos rfl]

/-- The blocks take tokens, and those left for them are too many, or no whole number of blocks, or
a number that is allowed. -/
def Suits (group : VariableGroup) (tokens left : Nat) : Prop :=
  group.maxBlocks = unlimitedBlocks ∨ left ≤ toUnsigned group.maxBlocks * tokens % 2 ^ 32 →
    0 < tokens ∧ (tokens ∣ left → group.minBlocks.toNat * tokens ≤ left ∧ -1 ≤ group.maxBlocks.toInt)

/-- The calculator divides by no zero, and any repeat count is allowed. -/
def Respects : Prop :=
  (calculateGroupSize tokenCount descriptor).isSome = true ∧
    ∀ count, calculateGroupSize tokenCount descriptor = some (.singleVariableGroup, some count) →
      ∃ group, openGroups descriptor.fields = [group] ∧
        BlocksAllowed group.minBlocks group.maxBlocks count

theorem eq_unlimitedBlocks {maxBlocks : Int16} (value : maxBlocks.toInt = -1) :
    maxBlocks = unlimitedBlocks :=
  Int16.toInt_inj.mp value

/-- A number of blocks that the limit lets through is within it, but for limits that no number
meets. -/
theorem withinLimit_iff {maxBlocks : Int16} {tokens count : Nat} (some : 0 < tokens)
    (limited : maxBlocks = unlimitedBlocks ∨
      tokens * count ≤ toUnsigned maxBlocks * tokens % 2 ^ 32) :
    (maxBlocks = unlimitedBlocks ∨ (count : Int) ≤ maxBlocks.toInt) ↔ -1 ≤ maxBlocks.toInt := by
  have unlimited : unlimitedBlocks.toInt = -1 := rfl
  constructor
  · rintro (rfl | within)
    · omega
    · omega
  · intro least
    by_cases negative : maxBlocks.toInt = -1
    · exact .inl (eq_unlimitedBlocks negative)
    · right
      rcases limited with rfl | limited
      · omega
      · have value : maxBlocks.toInt = (maxBlocks.toInt.toNat : Int) := by omega
        rw [toUnsigned_of_nonneg value, Nat.mul_comm tokens] at limited
        have most : count * tokens ≤ maxBlocks.toInt.toNat * tokens :=
          Nat.le_trans limited (Nat.mod_le _ _)
        have within := Nat.le_of_mul_le_mul_right most some
        omega

theorem variableGroupSize_suits (group : VariableGroup) (tokens left : Nat) :
    ((variableGroupSize group tokens left).isSome = true ∧
      ∀ count, variableGroupSize group tokens left = some (.singleVariableGroup, some count) →
        BlocksAllowed group.minBlocks group.maxBlocks count) ↔ Suits group tokens left := by
  unfold variableGroupSize Suits
  by_cases most : group.maxBlocks ≠ unlimitedBlocks ∧
      toUnsigned group.maxBlocks * tokens % 2 ^ 32 < left
  · rw [if_pos most]
    apply iff_of_true
    · exact ⟨rfl, fun count other => by cases other⟩
    · rintro (unlimited | within)
      · exact absurd unlimited most.1
      · omega
  · have limited : group.maxBlocks = unlimitedBlocks ∨
        left ≤ toUnsigned group.maxBlocks * tokens % 2 ^ 32 := by
      by_cases unlimited : group.maxBlocks = unlimitedBlocks
      · exact .inl unlimited
      · exact .inr (Nat.le_of_not_lt (fun more => most ⟨unlimited, more⟩))
    rw [if_neg most, forall_prop_of_true limited]
    by_cases none : tokens = 0
    · rw [if_pos none, none]
      simp
    · have some : 0 < tokens := Nat.pos_of_ne_zero none
      rw [if_neg none]
      by_cases whole : tokens ∣ left
      · obtain ⟨count, rfl⟩ := whole
        have least : group.minBlocks.toNat * tokens ≤ tokens * count ↔
            group.minBlocks.toNat ≤ count := by
          rw [Nat.mul_comm tokens]
          exact Nat.mul_le_mul_right_iff some
        rw [if_neg (by simp), Nat.mul_div_cancel_left count some]
        simp only [Option.isSome_some, Option.some.injEq, Prod.mk.injEq, true_and, forall_eq',
          Nat.dvd_mul_right, some, least, true_implies, BlocksAllowed, withinLimit_iff some limited]
      · have rest : left % tokens ≠ 0 := fun none => whole (Nat.dvd_of_mod_eq_zero none)
        rw [if_pos rest]
        simp [whole, some]

/-- Nothing is divided by zero, and the repeat count is one of those the group allows, exactly if
what the descriptor leaves for its variable group suits that group. -/
theorem respects_iff (tokenCount : Nat) (descriptor : Descriptor) :
    Respects tokenCount descriptor ↔ ∀ group, Repeats tokenCount descriptor group →
      Suits group (tokensAll group.fields % 2 ^ 32)
        (tokenCount - fixedTokens descriptor.fields % 2 ^ 32) := by
  unfold Respects
  rcases calculateGroupSize_cases tokenCount descriptor with
    ⟨group, repeats, same⟩ | ⟨never, state, same, single, _⟩
  · rw [same]
    have unique : ∀ other, Repeats tokenCount descriptor other → other = group := by
      intro other others
      have only := others.only
      rw [repeats.only] at only
      exact (List.cons.inj only).1.symm
    constructor
    · rintro ⟨done, allowed⟩ other others
      rw [unique other others]
      apply (variableGroupSize_suits group _ _).mp
      refine ⟨done, ?_⟩
      intro count result
      obtain ⟨found, only, within⟩ := allowed count result
      rw [repeats.only] at only
      rw [(List.cons.inj only).1]
      exact within
    · intro suits
      have both := (variableGroupSize_suits group _ _).mpr (suits group repeats)
      exact ⟨both.1, fun count result => ⟨group, repeats.only, both.2 count result⟩⟩
  · rw [same]
    apply iff_of_true
    · exact ⟨rfl, fun count other => by cases other⟩
    · exact fun group repeats => absurd repeats (never group)

/-- No token for a group without fields, and one token for a group of two blocks at least. -/
theorem emptyGroup_divides :
    ¬ Respects 0 ⟨[], [.group [] [] 0 unlimitedBlocks]⟩ ∧
      ¬ Respects 1 ⟨[], [.group [] [.bool []] 2 unlimitedBlocks]⟩ := by
  constructor
  · rintro ⟨divides, _⟩
    exact absurd divides (by decide)
  · rintro ⟨_, allowed⟩
    obtain ⟨group, only, within⟩ := allowed 1 (by decide)
    have same : openGroups [.group [] [.bool []] 2 unlimitedBlocks] =
      [⟨[.bool []], 2, unlimitedBlocks⟩] := rfl
    cases same.symm.trans only
    exact absurd within.1 (by decide)

end GroupSizeCalculator

end OpenLighting.Messaging
