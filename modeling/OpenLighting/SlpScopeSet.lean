import OpenLighting.SlpStrings
import OpenLighting.StringSplit

namespace OpenLighting.Slp

open OpenLighting.StringUtils

@[ext] structure ScopeSet where
  scopes : Finset (List UInt8)
  canonical : ∀ scope ∈ scopes, slpGetCanonicalString scope = scope

instance : DecidableEq ScopeSet := fun one two =>
  decidable_of_iff (one.scopes = two.scopes) ScopeSet.ext_iff.symm

variable (set : ScopeSet)

namespace ScopeSet

def ofStrings (texts : List (List UInt8)) : ScopeSet where
  scopes := (texts.map slpGetCanonicalString).toFinset
  canonical := by
    intro scope member
    obtain ⟨text, _, rfl⟩ := List.mem_map.mp (List.mem_toFinset.mp member)
    exact canonical_canonical text

def ofSet (scopes : Finset (List UInt8)) : ScopeSet := ofStrings (scopes.sort (· ≤ ·))

/-- The scopes one behind the other, as the set is walked. -/
def ascending : List (List UInt8) := set.scopes.sort (· ≤ ·)

/-- The constructor from a comma separated string. What is empty is left out before the rest
becomes canonical. -/
def parse (text : List UInt8) : ScopeSet :=
  ofStrings (((stringSplit text [44]).filter (fun scope => !scope.isEmpty)).map slpStringUnescape)

def isSuperSet (set other : ScopeSet) : Bool := decide (other.scopes ⊆ set.scopes)

def intersects (set other : ScopeSet) : Bool := decide (¬ Disjoint set.scopes other.scopes)

/-- `Intersection`. The elements of both are canonical already. -/
def intersection (set other : ScopeSet) : ScopeSet := ofSet (set.scopes ∩ other.scopes)

/-- `AsEscapedString`, in the order of the set. -/
def asEscapedString : List UInt8 :=
  stringJoin [44] ((set.scopes.sort (· ≤ ·)).map slpStringEscape)

/-- Also with no strings at all, where nothing is taken that is empty. -/
theorem split_stringJoin {texts : List (List UInt8)} (apart : ∀ text ∈ texts, 44 ∉ text) :
    (stringSplit (stringJoin [44] texts) [44]).filter (fun scope => !scope.isEmpty) =
      texts.filter (fun scope => !scope.isEmpty) := by
  by_cases empty : texts = []
  · rw [empty]
    rfl
  · rw [stringSplit_stringJoin apart empty]

theorem scopes_ofStrings (texts : List (List UInt8)) :
    (ofStrings texts).scopes = (texts.map slpGetCanonicalString).toFinset := rfl

/-- The empty scope is lost on the way. -/
theorem scopes_parse_asEscapedString :
    (parse set.asEscapedString).scopes = set.scopes.erase [] := by
  have apart : ∀ text ∈ (set.scopes.sort (· ≤ ·)).map slpStringEscape, 44 ∉ text := by
    intro text member
    obtain ⟨scope, _, rfl⟩ := List.mem_map.mp member
    exact comma_notMem_escape scope
  rw [parse, asEscapedString, split_stringJoin apart, scopes_ofStrings]
  ext scope
  simp only [List.mem_toFinset, List.mem_map, List.mem_filter, Finset.mem_sort, Finset.mem_erase]
  constructor
  · intro found
    obtain ⟨_, ⟨_, ⟨⟨original, member, rfl⟩, filled⟩, rfl⟩, rfl⟩ := found
    rw [unescape_escape, set.canonical original member]
    refine ⟨?_, member⟩
    intro empty
    rw [empty] at filled
    exact absurd filled (by decide)
  · intro found
    refine ⟨scope, ⟨slpStringEscape scope, ⟨⟨scope, found.2, rfl⟩, ?_⟩, unescape_escape scope⟩,
      set.canonical scope found.2⟩
    rw [Bool.not_eq_true', List.isEmpty_eq_false_iff]
    exact fun empty => found.1 ((escape_eq_nil_iff scope).mp empty)

theorem parse_asEscapedString_iff : parse set.asEscapedString = set ↔ [] ∉ set.scopes := by
  rw [ScopeSet.ext_iff, scopes_parse_asEscapedString, Finset.erase_eq_self]

end ScopeSet

end OpenLighting.Slp
