import OpenLighting.BoundedReads
import OpenLighting.OrderedInsertion
import OpenLighting.WhileLoop

/- The values of a slot and what is to be done at each of them. -/
namespace OpenLighting.Trigger

open BoundedReads OrderedInsertion WhileLoop List

structure ValueInterval where
  lower : UInt8
  upper : UInt8
  deriving DecidableEq

namespace ValueInterval

def Contains (interval : ValueInterval) (value : UInt8) : Prop :=
  interval.lower ≤ value ∧ value ≤ interval.upper

instance (interval : ValueInterval) (value : UInt8) : Decidable (interval.Contains value) :=
  inferInstanceAs (Decidable (_ ∧ _))

def Intersects (interval other : ValueInterval) : Prop :=
  other.Contains interval.lower ∨ other.Contains interval.upper ∨
    interval.Contains other.lower ∨ interval.Contains other.upper

instance (interval other : ValueInterval) : Decidable (interval.Intersects other) :=
  inferInstanceAs (Decidable (_ ∨ _))

instance : LT ValueInterval := ⟨fun interval other => interval.lower < other.lower⟩

instance (interval other : ValueInterval) : Decidable (interval < other) :=
  inferInstanceAs (Decidable (interval.lower < other.lower))

/-- What `CreateInterval` accepts. -/
def Ordered (interval : ValueInterval) : Prop := interval.lower ≤ interval.upper

/-- There is a value in both intervals. -/
def Overlaps (interval other : ValueInterval) : Prop :=
  ∃ value, interval.Contains value ∧ other.Contains value

/-- All values of one interval are below those of the other. -/
def Precedes (interval other : ValueInterval) : Prop := interval.upper < other.lower

variable {interval other : ValueInterval} {value : UInt8}

theorem contains_iff :
    interval.Contains value ↔
      interval.lower.toNat ≤ value.toNat ∧ value.toNat ≤ interval.upper.toNat := by
  rw [Contains, UInt8.le_iff_toNat_le, UInt8.le_iff_toNat_le]

theorem lt_iff : interval < other ↔ interval.lower.toNat < other.lower.toNat :=
  UInt8.lt_iff_toNat_lt

theorem ordered_iff : interval.Ordered ↔ interval.lower.toNat ≤ interval.upper.toNat :=
  UInt8.le_iff_toNat_le

theorem precedes_iff : interval.Precedes other ↔ interval.upper.toNat < other.lower.toNat :=
  UInt8.lt_iff_toNat_lt

section
variable (ordered : interval.Ordered) (ordered' : other.Ordered)
include ordered ordered'

theorem intersects_iff :
    interval.Intersects other ↔ ¬ interval.Precedes other ∧ ¬ other.Precedes interval := by
  rw [ordered_iff] at ordered ordered'
  simp only [Intersects, contains_iff, precedes_iff]
  omega

theorem overlaps_iff :
    interval.Overlaps other ↔ ¬ interval.Precedes other ∧ ¬ other.Precedes interval := by
  constructor
  · rintro ⟨value, inside, inside'⟩
    rw [contains_iff] at inside inside'
    simp only [precedes_iff]
    omega
  · intro apart
    -- The larger of the two lower ends is in both.
    by_cases less : interval < other
    · refine ⟨other.lower, ?_, ?_⟩ <;>
      · rw [lt_iff] at less
        rw [ordered_iff] at ordered ordered'
        simp only [precedes_iff, contains_iff] at apart ⊢
        omega
    · refine ⟨interval.lower, ?_, ?_⟩ <;>
      · rw [lt_iff] at less
        rw [ordered_iff] at ordered ordered'
        simp only [precedes_iff, contains_iff] at apart ⊢
        omega

/-- An interval that does not intersect another lies to the side that the order of the lower ends
tells. -/
theorem precedes_of_lt (apart : ¬ interval.Intersects other) (less : interval < other) :
    interval.Precedes other := by
  rw [intersects_iff ordered ordered'] at apart
  rw [ordered_iff] at ordered ordered'
  rw [lt_iff] at less
  simp only [precedes_iff] at apart ⊢
  omega

/-- Two intervals with the same lower end intersect. -/
theorem lt_of_not_lt (apart : ¬ interval.Intersects other) (notLess : ¬ interval < other) :
    other < interval := by
  rw [intersects_iff ordered ordered'] at apart
  rw [ordered_iff] at ordered ordered'
  rw [lt_iff] at notLess ⊢
  simp only [precedes_iff] at apart
  omega

end

theorem lt_of_precedes (ordered : interval.Ordered) (precedes : interval.Precedes other) :
    interval < other := by
  rw [ordered_iff] at ordered
  rw [precedes_iff] at precedes
  rw [lt_iff]
  omega

theorem intersects_comm : interval.Intersects other ↔ other.Intersects interval := by
  simp only [Intersects]
  tauto

end ValueInterval

variable {α : Type*}

/-- An interval and the actions for its values. Either action may be missing. -/
structure ActionInterval (α : Type*) where
  interval : ValueInterval
  risingAction : Option α
  fallingAction : Option α
  deriving DecidableEq

namespace ActionInterval

def action (stored : ActionInterval α) (rising : Bool) : Option α :=
  if rising then stored.risingAction else stored.fallingAction

/-- The interval of one is below that of the other. -/
def Before (stored other : ActionInterval α) : Prop := stored.interval.Precedes other.interval

end ActionInterval

/-- How `AddAction` returns: with true and what is now stored, or with false, for an interval that
intersects another or after the warning about inconsistent intervals. -/
inductive AddOutcome (α : Type*) where
  | inserted (actions : List (ActionInterval α))
  | intersecting
  | inconsistent
  deriving DecidableEq

namespace AddOutcome

def accepted : AddOutcome α → Bool
  | .inserted _ => true
  | .intersecting | .inconsistent => false

/-- What is stored after the call. -/
def stored (before : List (ActionInterval α)) : AddOutcome α → List (ActionInterval α)
  | .inserted actions => actions
  | .intersecting | .inconsistent => before

end AddOutcome

/-- A round of the loop of `AddAction`, between two of the stored intervals. -/
def addActionRound (actions : List (ActionInterval α)) (added : ActionInterval α) :
    Nat × Nat → Round (Nat × Nat) (Except Fault (AddOutcome α))
  | (lower, upper) =>
    if lower + 1 = upper then .leave (.ok (.inserted (actions.insertIdx upper added)))
    else
      let difference := minus upper lower
      let mid := lower + difference / 2
      match actions[mid]? with
      | none => .leave (.error .outside)
      | some middle =>
        if added.interval.Intersects middle.interval then .leave (.ok .intersecting)
        else if added.interval < middle.interval then .again (lower, mid)
        else if middle.interval < added.interval then .again (mid, upper)
        else .leave (.ok .inconsistent)

def addAction (actions : List (ActionInterval α)) (added : ActionInterval α) :
    Except Fault (AddOutcome α) :=
  match actions with
  | [] => .ok (.inserted [added])
  | lower :: rest =>
    let upper := (lower :: rest).getLast (List.cons_ne_nil lower rest)
    if added.interval.Intersects lower.interval then .ok .intersecting
    else if added.interval < lower.interval then .ok (.inserted (added :: lower :: rest))
    else if added.interval.Intersects upper.interval then .ok .intersecting
    else if upper.interval < added.interval then .ok (.inserted (lower :: rest ++ [added]))
    else if rest.length = 0 then .ok .inconsistent
    else
      (runFor (addActionRound (lower :: rest) added) (rest.length + 1) (0, rest.length)).getD
        (.error .unfinished)

/-- What is stored after some calls on a new slot. -/
def addActions (calls : List (ActionInterval α)) : Except Fault (List (ActionInterval α)) :=
  calls.foldlM (fun actions call => (·.stored actions) <$> addAction actions call) []

/-- How `LocateMatchingAction` returns: with an action or without one, or without one after the
warning about inconsistent intervals. -/
inductive Located (α : Type*) where
  | returned (action : Option α)
  | inconsistent
  deriving DecidableEq

def valueWithinIntervals (value : UInt8) (lowerInterval upperInterval : ValueInterval) : Prop :=
  lowerInterval.lower ≤ value ∧ value ≤ upperInterval.upper

instance (value : UInt8) (lowerInterval upperInterval : ValueInterval) :
    Decidable (valueWithinIntervals value lowerInterval upperInterval) :=
  inferInstanceAs (Decidable (_ ∧ _))

def locateRound (actions : List (ActionInterval α)) (value : UInt8) (rising : Bool) :
    Nat × Nat → Round (Nat × Nat) (Except Fault (Located α))
  | (lower, upper) =>
    let difference := minus upper lower
    let mid := lower + difference / 2
    if mid = lower then .leave (.ok (.returned none))
    else
      match actions[mid]? with
      | none => .leave (.error .outside)
      | some middle =>
        if middle.interval.Contains value then .leave (.ok (.returned (middle.action rising)))
        else if value ≤ middle.interval.lower then .again (lower, mid)
        else if middle.interval.upper ≤ value then .again (mid, upper)
        else .leave (.ok .inconsistent)

def locateMatchingAction (actions : List (ActionInterval α)) (value : UInt8) (rising : Bool) :
    Except Fault (Located α) :=
  match actions with
  | [] => .ok (.returned none)
  | lower :: rest =>
    let upper := (lower :: rest).getLast (List.cons_ne_nil lower rest)
    if ¬ valueWithinIntervals value lower.interval upper.interval then .ok (.returned none)
    else if lower.interval.Contains value then .ok (.returned (lower.action rising))
    else if upper.interval.Contains value then .ok (.returned (upper.action rising))
    else
      (runFor (locateRound (lower :: rest) value rising) (rest.length + 1) (0, rest.length)).getD
        (.error .unfinished)

/-- The stored intervals are sorted by their lower ends, and no two overlap. -/
structure SortedApart (actions : List (ActionInterval α)) : Prop where
  sorted : actions.Pairwise fun stored other => stored.interval < other.interval
  apart : actions.Pairwise fun stored other => ¬ stored.interval.Overlaps other.interval

/-- What a call of `AddAction` should come to: it adds the interval if that overlaps none of those
stored, and else leaves these alone. -/
structure AddsRightly (actions : List (ActionInterval α)) (added : ActionInterval α)
    (outcome : AddOutcome α) : Prop where
  consistent : outcome ≠ .inconsistent
  accepts : outcome.accepted = true ↔
    ∀ stored ∈ actions, ¬ added.interval.Overlaps stored.interval
  adds : outcome.accepted = true → (outcome.stored actions).Perm (added :: actions)
  refuses : outcome.accepted = false → outcome.stored actions = actions
  sortedApart : SortedApart (outcome.stored actions)

/-- What a call of `LocateMatchingAction` should come to: the action of the one interval that the
value lies in, or none if there is no such interval. -/
def LocatesRightly (actions : List (ActionInterval α)) (value : UInt8) (rising : Bool)
    (located : Located α) : Prop :=
  (∃ stored ∈ actions, stored.interval.Contains value ∧
    (∀ other ∈ actions, other.interval.Contains value → other = stored) ∧
      located = .returned (stored.action rising)) ∨
  (∀ stored ∈ actions, ¬ stored.interval.Contains value) ∧ located = .returned none

/-- The invariant of a slot: each interval ends before the next one starts. -/
structure Valid (actions : List (ActionInterval α)) : Prop where
  ordered : ∀ stored ∈ actions, stored.interval.Ordered
  before : actions.Pairwise ActionInterval.Before

section Valid
variable {actions : List (ActionInterval α)} {added : ActionInterval α}

theorem valid_nil : Valid ([] : List (ActionInterval α)) := by
  refine ⟨?_, List.Pairwise.nil⟩
  intro stored member
  cases member

theorem Valid.chains (valid : Valid actions) : Chains ActionInterval.Before actions := by
  intro middle member first last before after
  have ordered := ValueInterval.ordered_iff.mp (valid.ordered middle member)
  unfold ActionInterval.Before at before after ⊢
  rw [ValueInterval.precedes_iff] at before after ⊢
  omega

theorem Valid.sortedApart (valid : Valid actions) : SortedApart actions := by
  constructor
  · refine valid.before.imp_of_mem fun member _ before => ?_
    exact ValueInterval.lt_of_precedes (valid.ordered _ member) before
  · refine valid.before.imp_of_mem fun member member' before overlap => ?_
    rw [ValueInterval.overlaps_iff (valid.ordered _ member) (valid.ordered _ member')] at overlap
    exact overlap.1 before

/-- The lower ends rise, so that there are no more intervals than values. -/
theorem Valid.index_le (valid : Valid actions) {index : Nat} (inside : index < actions.length) :
    index ≤ actions[index].interval.lower.toNat := by
  induction index with
  | zero => exact Nat.zero_le _
  | succ index ih =>
    have below := ih (by omega)
    have before := pairwise_iff_getElem.mp valid.before index (index + 1) (by omega) inside
      (Nat.lt_succ_self index)
    have ordered := valid.ordered actions[index] (getElem_mem _)
    rw [ValueInterval.ordered_iff] at ordered
    rw [ActionInterval.Before, ValueInterval.precedes_iff] at before
    omega

theorem Valid.length_le (valid : Valid actions) : actions.length ≤ 256 := by
  by_contra many
  have last := valid.index_le (show 256 < actions.length by omega)
  have few := (actions[256].interval.lower).toNat_lt
  omega

theorem Valid.insert {inserted : List (ActionInterval α)} (valid : Valid actions)
    (ordered : added.interval.Ordered) (all : inserted.Perm (added :: actions))
    (before : inserted.Pairwise ActionInterval.Before) : Valid inserted := by
  refine ⟨?_, before⟩
  intro stored member
  rcases mem_cons.mp (all.mem_iff.mp member) with rfl | old
  · exact ordered
  · exact valid.ordered stored old

end Valid

section AddAction
variable {actions : List (ActionInterval α)} {added : ActionInterval α}

/-- The call returns rightly, and the invariant holds after it. -/
def Adds (actions : List (ActionInterval α)) (added : ActionInterval α)
    (result : Except Fault (AddOutcome α)) : Prop :=
  ∃ outcome, result = .ok outcome ∧ AddsRightly actions added outcome ∧
    Valid (outcome.stored actions)

theorem overlaps_comm {interval other : ValueInterval} :
    interval.Overlaps other ↔ other.Overlaps interval := by
  simp only [ValueInterval.Overlaps, and_comm]

theorem adds_inserted {inserted : List (ActionInterval α)} (valid : Valid actions)
    (ordered : added.interval.Ordered) (all : inserted.Perm (added :: actions))
    (before : inserted.Pairwise ActionInterval.Before) :
    Adds actions added (.ok (.inserted inserted)) := by
  have valid' := valid.insert ordered all before
  have symmetric : ∀ {stored other : ActionInterval α},
      ¬ stored.interval.Overlaps other.interval → ¬ other.interval.Overlaps stored.interval :=
    fun apart overlap => apart (overlaps_comm.mp overlap)
  have apart := (all.pairwise_iff symmetric).mp valid'.sortedApart.apart
  refine ⟨.inserted inserted, rfl, ⟨by simp, ?_, fun _ => all, ?_, valid'.sortedApart⟩, valid'⟩
  · exact iff_of_true rfl (pairwise_cons.mp apart).1
  · intro refused
    cases refused

theorem adds_intersecting {stored : ActionInterval α} (valid : Valid actions)
    (ordered : added.interval.Ordered) (member : stored ∈ actions)
    (meets : added.interval.Intersects stored.interval) :
    Adds actions added (.ok .intersecting) := by
  have ordered' := valid.ordered stored member
  rw [ValueInterval.intersects_iff ordered ordered',
    ← ValueInterval.overlaps_iff ordered ordered'] at meets
  refine ⟨.intersecting, rfl, ⟨by simp, ?_, ?_, fun _ => rfl, valid.sortedApart⟩, valid⟩
  · exact iff_of_false (by simp [AddOutcome.accepted]) fun clear => clear stored member meets
  · intro accepted
    cases accepted

/-- The middle of two positions that are not neighbours is between them. -/
theorem middle_between {lower upper : Nat} (less : lower < upper) (apart : lower + 1 ≠ upper)
    (few : upper ≤ 256) :
    lower < lower + minus upper lower / 2 ∧ lower + minus upper lower / 2 < upper := by
  rw [minus_eq less.le (by omega)]
  omega

theorem addActionRound_bisects (valid : Valid actions) (ordered : added.interval.Ordered)
    (lower upper : Nat) (less : lower < upper)
    (after : ∃ _ : lower < actions.length, actions[lower].Before added)
    (before : ∃ _ : upper < actions.length, added.Before actions[upper]) :
    (∃ result, addActionRound actions added (lower, upper) = .leave result ∧
      Adds actions added result) ∨
    ∃ mid, lower < mid ∧ mid < upper ∧
      ((∃ _ : mid < actions.length, added.Before actions[mid]) ∧
          addActionRound actions added (lower, upper) = .again (lower, mid) ∨
        (∃ _ : mid < actions.length, actions[mid].Before added) ∧
          addActionRound actions added (lower, upper) = .again (mid, upper)) := by
  obtain ⟨_, after⟩ := after
  obtain ⟨inside, before⟩ := before
  have few := valid.length_le
  rw [addActionRound]
  by_cases neighbours : lower + 1 = upper
  · subst neighbours
    exact .inl ⟨_, if_pos rfl,
      adds_inserted valid ordered (perm_insertIdx added actions inside.le)
        (insertIdx_between valid.before valid.chains inside after before)⟩
  · have middle := middle_between less neighbours (by omega)
    rw [if_neg neighbours]
    dsimp only
    generalize lower + minus upper lower / 2 = mid at middle ⊢
    have bound : mid < actions.length := by omega
    have ordered' := valid.ordered actions[mid] (getElem_mem bound)
    rw [List.getElem?_eq_getElem bound]
    dsimp only
    by_cases meets : added.interval.Intersects actions[mid].interval
    · exact .inl ⟨_, if_pos meets,
        adds_intersecting valid ordered (getElem_mem bound) meets⟩
    · refine .inr ⟨mid, middle.1, middle.2, ?_⟩
      rw [if_neg meets]
      by_cases below : added.interval < actions[mid].interval
      · exact .inl ⟨⟨bound, ValueInterval.precedes_of_lt ordered ordered' meets below⟩,
          if_pos below⟩
      · have above := ValueInterval.lt_of_not_lt ordered ordered' meets below
        rw [if_neg below, if_pos above]
        rw [ValueInterval.intersects_comm] at meets
        exact .inr ⟨⟨bound, ValueInterval.precedes_of_lt ordered' ordered meets above⟩, rfl⟩

theorem getLast_eq_getElem (lower : ActionInterval α) (rest : List (ActionInterval α)) :
    (lower :: rest).getLast (List.cons_ne_nil lower rest) =
      getElem (lower :: rest) rest.length (Nat.lt_succ_self rest.length) :=
  List.getLast_eq_getElem _

theorem addAction_adds (valid : Valid actions) (ordered : added.interval.Ordered) :
    Adds actions added (addAction actions added) := by
  cases actions with
  | nil =>
    exact adds_inserted valid ordered (List.Perm.refl _)
      (pairwise_singleton ActionInterval.Before added)
  | cons lower rest =>
    have first : lower ∈ lower :: rest := mem_cons_self
    have last := getLast_mem (cons_ne_nil lower rest)
    have ordered' := valid.ordered lower first
    have ordered'' := valid.ordered _ last
    unfold addAction
    dsimp only
    split
    · rename_i meets
      exact adds_intersecting valid ordered first meets
    · rename_i distinct
      split
      · rename_i below
        have precedes := ValueInterval.precedes_of_lt ordered ordered' distinct below
        exact adds_inserted valid ordered (List.Perm.refl _)
          (cons_of_before valid.before valid.chains (Nat.succ_pos _) precedes)
      · rename_i notBelow
        split
        · rename_i meets
          exact adds_intersecting valid ordered last meets
        · rename_i distinct'
          have after := ValueInterval.lt_of_not_lt ordered ordered' distinct notBelow
          rw [ValueInterval.intersects_comm] at distinct distinct'
          have precedes := ValueInterval.precedes_of_lt ordered' ordered distinct after
          split
          · rename_i above
            have precedes' := ValueInterval.precedes_of_lt ordered'' ordered distinct' above
            rw [getLast_eq_getElem] at precedes'
            exact adds_inserted valid ordered (perm_append_singleton added (lower :: rest))
              (append_of_after valid.before valid.chains rfl precedes')
          · rename_i notAbove
            have below := ValueInterval.lt_of_not_lt ordered'' ordered distinct' notAbove
            rw [ValueInterval.intersects_comm] at distinct'
            have precedes' := ValueInterval.precedes_of_lt ordered ordered'' distinct' below
            rw [getLast_eq_getElem] at precedes'
            split
            · rename_i single
              cases length_eq_zero_iff.mp single
              rw [ValueInterval.ordered_iff] at ordered ordered'
              rw [ValueInterval.precedes_iff] at precedes precedes'
              rw [getElem_singleton] at precedes'
              omega
            · rename_i several
              obtain ⟨result, runs, adds⟩ := runFor_bisects (addActionRound_bisects valid ordered)
                (Nat.pos_of_ne_zero several) ⟨Nat.succ_pos _, precedes⟩
                ⟨Nat.lt_succ_self _, precedes'⟩ (Nat.lt_succ_self rest.length)
              rw [runs]
              exact adds

/-- Calls on a slot never fault, and its invariant holds after them. -/
theorem addActions_valid {calls : List (ActionInterval α)}
    (ordered : ∀ call ∈ calls, call.interval.Ordered) (valid : Valid actions) :
    ∃ result, calls.foldlM (fun actions call => (·.stored actions) <$> addAction actions call)
        actions = .ok result ∧ Valid result := by
  induction calls generalizing actions with
  | nil => exact ⟨actions, rfl, valid⟩
  | cons call rest ih =>
    obtain ⟨outcome, returns, _, valid'⟩ :=
      addAction_adds valid (ordered call mem_cons_self)
    rw [foldlM_cons, returns]
    exact ih (fun other member => ordered other (mem_cons_of_mem call member)) valid'

end AddAction

section LocateMatchingAction
variable {actions : List (ActionInterval α)} {value : UInt8} {rising : Bool}

/-- Intervals before one that ends below the value end below it too. -/
theorem not_contains_below (valid : Valid actions) {index other : Nat}
    (inside : index < actions.length) (below : actions[index].interval.upper < value)
    (le : other ≤ index) : ¬ actions[other].interval.Contains value := by
  have before := before_of_le valid.before valid.chains
    (show index < actions.length from inside) le
    (show actions[index].Before ⟨⟨value, value⟩, none, none⟩ from below)
  rw [ActionInterval.Before, ValueInterval.precedes_iff] at before
  rw [ValueInterval.contains_iff]
  dsimp only at before
  omega

theorem not_contains_above (valid : Valid actions) {index other : Nat}
    (inside : other < actions.length) (le : index ≤ other)
    (above : value < actions[index].interval.lower) :
    ¬ actions[other].interval.Contains value := by
  have after := after_of_le valid.before valid.chains inside le
    (show ActionInterval.Before ⟨⟨value, value⟩, none, none⟩ actions[index] from above)
  rw [ActionInterval.Before, ValueInterval.precedes_iff] at after
  rw [ValueInterval.contains_iff]
  dsimp only at after
  omega

/-- A value lies in one stored interval only. -/
theorem contains_unique (valid : Valid actions) {stored other : ActionInterval α}
    (member : stored ∈ actions) (contains : stored.interval.Contains value)
    (member' : other ∈ actions) (contains' : other.interval.Contains value) : other = stored := by
  obtain ⟨index, inside, rfl⟩ := getElem_of_mem member
  obtain ⟨index', inside', rfl⟩ := getElem_of_mem member'
  have apart := pairwise_iff_getElem.mp valid.sortedApart.apart
  rcases Nat.lt_trichotomy index index' with less | rfl | more
  · exact absurd ⟨value, contains, contains'⟩ (apart index index' inside inside' less)
  · rfl
  · exact absurd ⟨value, contains', contains⟩ (apart index' index inside' inside more)

theorem locates_found (valid : Valid actions) {stored : ActionInterval α}
    (member : stored ∈ actions) (contains : stored.interval.Contains value) :
    LocatesRightly actions value rising (.returned (stored.action rising)) :=
  .inl ⟨stored, member, contains,
    fun _ member' contains' => contains_unique valid member contains member' contains', rfl⟩

/-- The call returns rightly. -/
def Locates (actions : List (ActionInterval α)) (value : UInt8) (rising : Bool)
    (result : Except Fault (Located α)) : Prop :=
  ∃ located, result = .ok located ∧ LocatesRightly actions value rising located

theorem locates_none (valid : Valid actions) {lower : Nat} (bound : lower + 1 < actions.length)
    (below : actions[lower].interval.upper < value)
    (above : value < actions[lower + 1].interval.lower) :
    LocatesRightly actions value rising (.returned none) := by
  refine .inr ⟨?_, rfl⟩
  intro stored member
  obtain ⟨index, inside, rfl⟩ := getElem_of_mem member
  by_cases left : index ≤ lower
  · exact not_contains_below valid (by omega) below left
  · exact not_contains_above valid inside (by omega) above

/-- A round of the loop of `LocateMatchingAction`. The value stays between two intervals. -/
theorem locateRound_bisects (valid : Valid actions) (lower upper : Nat) (less : lower < upper)
    (below : ∃ _ : lower < actions.length, actions[lower].interval.upper < value)
    (above : ∃ _ : upper < actions.length, value < actions[upper].interval.lower) :
    (∃ result, locateRound actions value rising (lower, upper) = .leave result ∧
      Locates actions value rising result) ∨
    ∃ mid, lower < mid ∧ mid < upper ∧
      ((∃ _ : mid < actions.length, value < actions[mid].interval.lower) ∧
          locateRound actions value rising (lower, upper) = .again (lower, mid) ∨
        (∃ _ : mid < actions.length, actions[mid].interval.upper < value) ∧
          locateRound actions value rising (lower, upper) = .again (mid, upper)) := by
  obtain ⟨_, below⟩ := below
  obtain ⟨inside, above⟩ := above
  have few := valid.length_le
  rw [locateRound]
  by_cases neighbours : lower + 1 = upper
  · subst neighbours
    rw [minus_eq (by omega) (by omega), Nat.add_sub_cancel_left]
    exact .inl ⟨_, if_pos rfl, _, rfl, locates_none valid inside below above⟩
  · have middle := middle_between less neighbours (by omega)
    generalize lower + minus upper lower / 2 = mid at middle ⊢
    have bound : mid < actions.length := by omega
    have ordered := ValueInterval.ordered_iff.mp
      (valid.ordered actions[mid] (getElem_mem bound))
    rw [if_neg (show ¬ mid = lower by omega), List.getElem?_eq_getElem bound]
    dsimp only
    by_cases contains : actions[mid].interval.Contains value
    · exact .inl ⟨_, if_pos contains, _, rfl,
        locates_found valid (getElem_mem bound) contains⟩
    · refine .inr ⟨mid, middle.1, middle.2, ?_⟩
      rw [if_neg contains]
      rw [ValueInterval.contains_iff] at contains
      by_cases notAbove : value ≤ actions[mid].interval.lower
      · refine .inl ⟨⟨bound, ?_⟩, if_pos notAbove⟩
        rw [UInt8.le_iff_toNat_le] at notAbove
        rw [UInt8.lt_iff_toNat_lt]
        omega
      · rw [if_neg notAbove]
        rw [UInt8.le_iff_toNat_le] at notAbove
        have higher : actions[mid].interval.upper < value := by
          rw [UInt8.lt_iff_toNat_lt]
          omega
        exact .inr ⟨⟨bound, higher⟩, if_pos (UInt8.le_of_lt higher)⟩

theorem locateMatchingAction_locates (valid : Valid actions) (value : UInt8) (rising : Bool) :
    Locates actions value rising (locateMatchingAction actions value rising) := by
  cases actions with
  | nil =>
    refine ⟨_, rfl, .inr ⟨?_, rfl⟩⟩
    intro stored member
    cases member
  | cons lower rest =>
    have last := getLast_eq_getElem lower rest
    have inside : rest.length < (lower :: rest).length := Nat.lt_succ_self _
    unfold locateMatchingAction
    dsimp only
    rw [last]
    split
    · rename_i outside
      refine ⟨_, rfl, .inr ⟨?_, rfl⟩⟩
      intro stored member contains
      obtain ⟨index, bound, rfl⟩ := getElem_of_mem member
      rw [valueWithinIntervals, not_and_or, UInt8.not_le, UInt8.not_le] at outside
      rcases outside with below | above
      · exact not_contains_above valid bound (Nat.zero_le index) below contains
      · exact not_contains_below valid inside above (Nat.le_of_lt_succ bound) contains
    · rename_i within
      rw [not_not, valueWithinIntervals, UInt8.le_iff_toNat_le, UInt8.le_iff_toNat_le] at within
      split
      · rename_i contains
        exact ⟨_, rfl, locates_found valid mem_cons_self contains⟩
      · rename_i notLowest
        split
        · rename_i contains
          exact ⟨_, rfl, locates_found valid (getElem_mem inside) contains⟩
        · rename_i notHighest
          rw [ValueInterval.contains_iff] at notLowest notHighest
          have below : lower.interval.upper < value := by
            rw [UInt8.lt_iff_toNat_lt]
            omega
          have above : value < (lower :: rest)[rest.length].interval.lower := by
            rw [UInt8.lt_iff_toNat_lt]
            omega
          have several : 0 < rest.length := by
            by_contra single
            cases length_eq_zero_iff.mp (Nat.eq_zero_of_not_pos single)
            exact notLowest ⟨within.1, within.2⟩
          obtain ⟨result, runs, locates⟩ := runFor_bisects (locateRound_bisects valid) several
            ⟨Nat.succ_pos _, below⟩ ⟨inside, above⟩ (Nat.lt_succ_self rest.length)
          rw [runs]
          exact locates

end LocateMatchingAction

/-- After any calls of `AddAction`, the intervals are sorted and apart, the next call adds its
interval exactly if that overlaps none, and each value is looked up rightly. -/
theorem addActions_consistent (calls : List (ActionInterval α))
    (ordered : ∀ call ∈ calls, call.interval.Ordered) :
    ∃ actions, addActions calls = .ok actions ∧ SortedApart actions ∧
      (∀ added : ActionInterval α, added.interval.Ordered →
        ∃ outcome, addAction actions added = .ok outcome ∧ AddsRightly actions added outcome) ∧
      ∀ value rising, ∃ located, locateMatchingAction actions value rising = .ok located ∧
        LocatesRightly actions value rising located := by
  obtain ⟨actions, runs, valid⟩ := addActions_valid ordered valid_nil
  refine ⟨actions, runs, valid.sortedApart, ?_, locateMatchingAction_locates valid⟩
  intro added ordered'
  obtain ⟨outcome, returns, rightly, _⟩ := addAction_adds valid ordered'
  exact ⟨outcome, returns, rightly⟩

/-- Two intervals that overlap. -/
theorem addActions_consistent_twice :
    (∀ call ∈ [(⟨⟨10, 20⟩, some 0, none⟩ : ActionInterval Nat), ⟨⟨15, 25⟩, some 1, none⟩],
        call.interval.Ordered) ∧
      ∃ actions, addActions [(⟨⟨10, 20⟩, some 0, none⟩ : ActionInterval Nat),
          ⟨⟨15, 25⟩, some 1, none⟩] = .ok actions ∧ SortedApart actions ∧
        (∀ added : ActionInterval Nat, added.interval.Ordered →
          ∃ outcome, addAction actions added = .ok outcome ∧ AddsRightly actions added outcome) ∧
        ∀ value rising, ∃ located, locateMatchingAction actions value rising = .ok located ∧
          LocatesRightly actions value rising located := by
  have ordered : ∀ call ∈ [(⟨⟨10, 20⟩, some 0, none⟩ : ActionInterval Nat),
      ⟨⟨15, 25⟩, some 1, none⟩], call.interval.Ordered := by
    simp only [List.forall_mem_cons, ValueInterval.Ordered]
    decide
  exact ⟨ordered, addActions_consistent _ ordered⟩

/-- The second interval is refused, and a value of the first is found. -/
example : addActions [(⟨⟨10, 20⟩, some 0, none⟩ : ActionInterval Nat),
      ⟨⟨15, 25⟩, some 1, none⟩] = .ok [⟨⟨10, 20⟩, some 0, none⟩] ∧
    locateMatchingAction [(⟨⟨10, 20⟩, some 0, none⟩ : ActionInterval Nat)] 12 true =
      .ok (.returned (some 0)) := by decide

end OpenLighting.Trigger
