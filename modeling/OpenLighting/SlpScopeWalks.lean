import OpenLighting.OrderedMerge
import OpenLighting.SlpScopeSet
import OpenLighting.WhileLoop

/- `ScopeSet` walked with two iterators. -/
namespace OpenLighting.Slp

open OrderedMerge WhileLoop

/-- The set a member function is called with: another object, or the one it is called on. -/
inductive Operand where
  | another (set : ScopeSet)
  | self

/-- `other.m_scopes`, with what `m_scopes` is by now. -/
def Operand.scopes (own : Finset (List UInt8)) : Operand → Finset (List UInt8)
  | .another set => set.scopes
  | .self => own

variable {τ β : Type}

/-- `m_scopes`, `iter1` and `iter2`, and what the function has found. An iterator is the scope of
its node, or `none` at the end. -/
structure Walk (β : Type) where
  own : Finset (List UInt8)
  iter1 : Option (List UInt8)
  iter2 : Option (List UInt8)
  found : β

def Walk.begin (set : ScopeSet) (operand : Operand) (found : β) : Walk β :=
  ⟨set.scopes, first set.scopes, first (operand.scopes set.scopes), found⟩

variable (operand : Operand)

/-- A round of a loop over both sets. What is done with a scope of both is up to the function.
No node that is erased can be looked at: that is `none`. -/
def walkRound (same : Walk β → List UInt8 → Round (Walk β) (Option τ))
    (ended : Walk β → τ) (walk : Walk β) : Round (Walk β) (Option τ) :=
  match walk.iter1, walk.iter2 with
  | some one, some two =>
    if one ∉ walk.own ∨ two ∉ operand.scopes walk.own then .leave none
    else if one = two then same walk one
    else if one < two then .again { walk with iter1 := next walk.own one }
    else .again { walk with iter2 := next (operand.scopes walk.own) two }
  | _, _ => .leave (some (ended walk))

def intersectsRound : Walk Unit → Round (Walk Unit) (Option Bool) :=
  walkRound operand (fun _ _ => .leave (some true)) fun _ => false

/-- A round of `IntersectionCount`. `i` has 32 bits. -/
def countRound : Walk Nat → Round (Walk Nat) (Option Nat) :=
  walkRound operand
    (fun walk scope =>
      .again
        { walk with
          iter1 := next walk.own scope
          iter2 := next (operand.scopes walk.own) scope
          found := (walk.found + 1) % 0x100000000 })
    fun walk => walk.found

/-- A round of `DifferenceUpdate`. `iter2` can be incremented if its node is still there. -/
def differenceRound : Walk (Finset (List UInt8)) →
    Round (Walk (Finset (List UInt8))) (Option (Finset (List UInt8) × Finset (List UInt8))) :=
  walkRound operand
    (fun walk scope =>
      let own := walk.own.erase scope
      if scope ∉ operand.scopes own then .leave none
      else
        .again
          { own := own
            iter1 := next walk.own scope
            iter2 := next (operand.scopes own) scope
            found := insert scope walk.found })
    fun walk => (walk.own, walk.found)

/-- What `Intersects`, `IntersectionCount` and `DifferenceUpdate` return, what is left of the set,
and that the loops end. -/
structure WalksRight (set : ScopeSet) (operand : Operand) : Prop where
  intersects : ∃ result,
    Returns (intersectsRound operand) (.begin set operand ()) (some result) ∧
      (result = true ↔ ∃ scope, scope ∈ set.scopes ∧ scope ∈ operand.scopes set.scopes)
  count : Returns (countRound operand) (.begin set operand 0)
    (some (set.scopes ∩ operand.scopes set.scopes).card)
  difference : ∃ left taken,
    Returns (differenceRound operand) (.begin set operand ∅) (some (left, taken)) ∧
      left = set.scopes \ operand.scopes set.scopes ∧
      (ScopeSet.ofSet taken).scopes = set.scopes ∩ operand.scopes set.scopes

section Rounds

/-- The iterators have these scopes in front of them. -/
structure At (operand : Operand) (walk : Walk β) (left right : List (List UInt8)) : Prop where
  own : left <:+ walk.own.sort (· ≤ ·)
  other : right <:+ (operand.scopes walk.own).sort (· ≤ ·)
  iter1 : walk.iter1 = left.head?
  iter2 : walk.iter2 = right.head?

variable {operand : Operand} {walk : Walk β} {one two : List UInt8}
  {rest more left right : List (List UInt8)}
  {same : Walk β → List UInt8 → Round (Walk β) (Option τ)} {ended : Walk β → τ}

theorem at_begin (set : ScopeSet) (operand : Operand) (found : β) :
    At operand (.begin set operand found) (set.scopes.sort (· ≤ ·))
      ((operand.scopes set.scopes).sort (· ≤ ·)) :=
  ⟨List.suffix_rfl, List.suffix_rfl, rfl, rfl⟩

theorem walkRound_left (at_ : At operand walk [] right) :
    walkRound operand same ended walk = .leave (some (ended walk)) := by
  unfold walkRound
  rw [at_.iter1]
  rfl

theorem walkRound_right (at_ : At operand walk (one :: rest) []) :
    walkRound operand same ended walk = .leave (some (ended walk)) := by
  unfold walkRound
  rw [at_.iter1, at_.iter2]
  rfl

/-- The nodes of both iterators are there. -/
theorem At.present (at_ : At operand walk (one :: rest) (two :: more)) :
    ¬ (one ∉ walk.own ∨ two ∉ operand.scopes walk.own) := by
  have here := at_.own.subset List.mem_cons_self
  have there := at_.other.subset List.mem_cons_self
  rw [Finset.mem_sort] at here there
  rw [not_or, not_not, not_not]
  exact ⟨here, there⟩

theorem walkRound_same (at_ : At operand walk (one :: rest) (one :: more)) :
    walkRound operand same ended walk = same walk one := by
  unfold walkRound
  rw [at_.iter1, at_.iter2]
  simp only [List.head?_cons, if_neg at_.present, if_true]

theorem walkRound_less (at_ : At operand walk (one :: rest) (two :: more)) (differs : one ≠ two)
    (less : one < two) : ∃ after : Walk β, walkRound operand same ended walk = .again after ∧
      At operand after rest (two :: more) ∧ after.own = walk.own ∧ after.found = walk.found := by
  refine ⟨{ walk with iter1 := next walk.own one }, ?_, ?_, rfl, rfl⟩
  · unfold walkRound
    rw [at_.iter1, at_.iter2]
    simp only [List.head?_cons, if_neg at_.present, if_neg differs, if_pos less]
  · exact { at_ with
      own := (List.suffix_cons one rest).trans at_.own
      iter1 := next_eq_head at_.own }

theorem walkRound_more (at_ : At operand walk (one :: rest) (two :: more)) (differs : one ≠ two)
    (notLess : ¬ one < two) :
    ∃ after : Walk β, walkRound operand same ended walk = .again after ∧
      At operand after (one :: rest) more ∧ after.own = walk.own ∧ after.found = walk.found := by
  refine ⟨{ walk with iter2 := next (operand.scopes walk.own) two }, ?_, ?_, rfl, rfl⟩
  · unfold walkRound
    rw [at_.iter1, at_.iter2]
    simp only [List.head?_cons, if_neg at_.present, if_neg differs, if_neg notLess]
  · exact { at_ with
      other := (List.suffix_cons two more).trans at_.other
      iter2 := next_eq_head at_.other }

end Rounds

section Loops
variable {operand : Operand} {left right : List (List UInt8)}

theorem intersects_returns {walk : Walk Unit} (at_ : At operand walk left right) :
    Returns (intersectsRound operand) walk (some (commonCount left right != 0)) := by
  induction left, right using takeCommon.induct generalizing walk with
  | case1 right =>
    rw [commonCount]
    exact .leave (walkRound_left at_)
  | case2 one rest =>
    rw [commonCount]
    exact .leave (walkRound_right at_)
  | case3 rest other more ih =>
    rw [commonCount, if_pos rfl]
    exact .leave (walkRound_same at_)
  | case4 one rest other more differs less ih =>
    obtain ⟨after, goes, at', _⟩ := walkRound_less at_ differs less
    rw [commonCount, if_neg differs, if_pos less]
    exact .again goes (ih at')
  | case5 one rest other more differs notLess ih =>
    obtain ⟨after, goes, at', _⟩ := walkRound_more at_ differs notLess
    rw [commonCount, if_neg differs, if_neg notLess]
    exact .again goes (ih at')

theorem count_returns {walk : Walk Nat} (at_ : At operand walk left right)
    (small : walk.found < 0x100000000) :
    Returns (countRound operand) walk
      (some ((walk.found + commonCount left right) % 0x100000000)) := by
  induction left, right using takeCommon.induct generalizing walk with
  | case1 right =>
    rw [commonCount, Nat.add_zero, Nat.mod_eq_of_lt small]
    exact .leave (walkRound_left at_)
  | case2 one rest =>
    rw [commonCount, Nat.add_zero, Nat.mod_eq_of_lt small]
    exact .leave (walkRound_right at_)
  | case3 rest scope more ih =>
    have stepped := @ih
      { walk with
        iter1 := next walk.own scope
        iter2 := next (operand.scopes walk.own) scope
        found := (walk.found + 1) % 0x100000000 }
      ⟨(List.suffix_cons scope rest).trans at_.own, (List.suffix_cons scope more).trans at_.other,
        next_eq_head at_.own, next_eq_head at_.other⟩
      (Nat.mod_lt _ (by decide))
    rw [Nat.mod_add_mod, Nat.add_right_comm, Nat.add_assoc] at stepped
    rw [commonCount, if_pos rfl]
    exact .again (walkRound_same at_) stepped
  | case4 one rest other more differs less ih =>
    obtain ⟨after, goes, at', _, found⟩ := walkRound_less at_ differs less
    rw [commonCount, if_neg differs, if_pos less, ← found]
    exact .again goes (ih at' (found ▸ small))
  | case5 one rest other more differs notLess ih =>
    obtain ⟨after, goes, at', _, found⟩ := walkRound_more at_ differs notLess
    rw [commonCount, if_neg differs, if_neg notLess, ← found]
    exact .again goes (ih at' (found ▸ small))

/-- With another set, also while its own nodes are erased. -/
theorem difference_returns {other : ScopeSet} {walk : Walk (Finset (List UInt8))}
    (at_ : At (.another other) walk left right) :
    Returns (differenceRound (.another other)) walk
      (some (walk.own \ (takeCommon left right).2.toFinset,
        walk.found ∪ (takeCommon left right).2.toFinset)) := by
  induction left, right using takeCommon.induct generalizing walk with
  | case1 right =>
    simp only [takeCommon, List.toFinset_nil, Finset.sdiff_empty, Finset.union_empty]
    exact .leave (walkRound_left at_)
  | case2 one rest =>
    simp only [takeCommon, List.toFinset_nil, Finset.sdiff_empty, Finset.union_empty]
    exact .leave (walkRound_right at_)
  | case3 rest scope more ih =>
    have there : scope ∈ other.scopes := by
      have member := at_.other.subset List.mem_cons_self
      rwa [Finset.mem_sort] at member
    have stepped := @ih
      { own := walk.own.erase scope
        iter1 := next walk.own scope
        iter2 := next other.scopes scope
        found := insert scope walk.found }
      ⟨suffix_erase at_.own, (List.suffix_cons scope more).trans at_.other,
        next_eq_head at_.own, next_eq_head at_.other⟩
    rw [takeCommon, if_pos rfl]
    simp only [List.toFinset_cons, Finset.sdiff_insert, Finset.union_insert]
    rw [← Finset.erase_sdiff_comm, ← Finset.insert_union]
    refine .again ((walkRound_same at_).trans ?_) stepped
    exact if_neg (not_not.mpr there)
  | case4 one rest scope more differs less ih =>
    obtain ⟨after, goes, at', own, found⟩ := walkRound_less at_ differs less
    rw [takeCommon, if_neg differs, if_pos less, ← own, ← found]
    exact .again goes (ih at')
  | case5 one rest scope more differs notLess ih =>
    obtain ⟨after, goes, at', own, found⟩ := walkRound_more at_ differs notLess
    rw [takeCommon, if_neg differs, if_neg notLess, ← own, ← found]
    exact .again goes (ih at')

/-- With itself there is nothing left at `iter2` once the first scope is erased. -/
theorem difference_self {set : ScopeSet} (filled : set.scopes ≠ ∅) :
    Returns (differenceRound .self) (.begin set .self ∅) none := by
  have at_ := at_begin set .self (∅ : Finset (List UInt8))
  cases nodes : set.scopes.sort (· ≤ ·) with
  | nil =>
    have whole := Finset.sort_toFinset set.scopes (· ≤ ·)
    rw [nodes] at whole
    exact absurd whole.symm filled
  | cons scope rest =>
    simp only [Operand.scopes, nodes] at at_
    refine .leave ((walkRound_same at_).trans ?_)
    exact if_pos (Finset.notMem_erase scope set.scopes)

end Loops

section Results

theorem scopes_ofSet {set : ScopeSet} {taken : Finset (List UInt8)} (part : taken ⊆ set.scopes) :
    (ScopeSet.ofSet taken).scopes = taken := by
  have same : (taken.sort (· ≤ ·)).map slpGetCanonicalString = taken.sort (· ≤ ·) :=
    (List.map_congr_left fun scope member =>
      set.canonical scope (part ((Finset.mem_sort _).mp member))).trans (List.map_id _)
  rw [ScopeSet.ofSet, ScopeSet.scopes_ofStrings, same, Finset.sort_toFinset]

variable (set : ScopeSet) (operand : Operand)

theorem intersects_right : ∃ result,
    Returns (intersectsRound operand) (.begin set operand ()) (some result) ∧
      (result = true ↔ ∃ scope, scope ∈ set.scopes ∧ scope ∈ operand.scopes set.scopes) := by
  refine ⟨_, intersects_returns (at_begin set operand ()), ?_⟩
  rw [commonCount_sort, bne_iff_ne, ne_eq, Finset.card_eq_zero, ← ne_eq,
    ← Finset.nonempty_iff_ne_empty]
  simp only [Finset.Nonempty, Finset.mem_inter]

theorem count_right_iff : Returns (countRound operand) (.begin set operand 0)
      (some (set.scopes ∩ operand.scopes set.scopes).card) ↔
    (set.scopes ∩ operand.scopes set.scopes).card < 0x100000000 := by
  have returns := count_returns (at_begin set operand 0) (Nat.zero_lt_succ _)
  rw [commonCount_sort] at returns
  simp only [Walk.begin, Nat.zero_add] at returns
  constructor
  · intro right
    have same := Option.some_inj.mp (right.unique returns)
    rw [same]
    omega
  · intro small
    rw [Nat.mod_eq_of_lt small] at returns
    exact returns

theorem difference_right_iff : (∃ left taken,
      Returns (differenceRound operand) (.begin set operand ∅) (some (left, taken)) ∧
        left = set.scopes \ operand.scopes set.scopes ∧
        (ScopeSet.ofSet taken).scopes = set.scopes ∩ operand.scopes set.scopes) ↔
    (operand = .self → set.scopes = ∅) := by
  cases operand with
  | another other =>
    have returns := difference_returns (at_begin set (.another other) ∅)
    simp only [Operand.scopes, toFinset_takeCommon_snd, Walk.begin, Finset.empty_union,
      Finset.sdiff_inter_self_left] at returns
    constructor
    · intro _ same
      cases same
    · intro _
      exact ⟨_, _, returns, rfl, scopes_ofSet Finset.inter_subset_left⟩
  | self =>
    constructor
    · rintro ⟨left, taken, returns, _⟩ _
      by_contra filled
      cases returns.unique (difference_self filled)
    · intro empty
      have none := empty rfl
      have at_ := at_begin set .self (∅ : Finset (List UInt8))
      rw [none, Finset.sort_empty] at at_
      refine ⟨_, _, .leave (walkRound_left at_), ?_, ?_⟩
      · rw [Walk.begin, Operand.scopes, Finset.sdiff_self, none]
      · rw [Operand.scopes, Finset.inter_self, none]
        exact scopes_ofSet (Finset.empty_subset set.scopes)

/-- The walks are right as long as `DifferenceUpdate` is not asked to take a set from itself, but
for the empty one, and the count fits in 32 bits. -/
theorem walksRight_iff : WalksRight set operand ↔
    (operand = .self → set.scopes = ∅) ∧
      (set.scopes ∩ operand.scopes set.scopes).card < 0x100000000 := by
  constructor
  · intro right
    exact ⟨(difference_right_iff set operand).mp right.difference,
      (count_right_iff set operand).mp right.count⟩
  · rintro ⟨apart, small⟩
    exact ⟨intersects_right set operand, (count_right_iff set operand).mpr small,
      (difference_right_iff set operand).mpr apart⟩

/-- A set with one scope loses the node that both iterators are at. -/
theorem not_walksRight_self : ¬ WalksRight (ScopeSet.ofStrings [[97]]) .self := by
  intro right
  have empty := (difference_right_iff _ _).mp right.difference rfl
  exact absurd empty (by decide)

end Results

end OpenLighting.Slp
