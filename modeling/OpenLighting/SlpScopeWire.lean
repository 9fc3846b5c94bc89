import Mathlib.Data.List.Chain
import OpenLighting.SlpStringLoops

/- Scope sets that are made from a string, sent, and made again from what is sent. -/
namespace OpenLighting.Slp

open OpenLighting.StringUtils WhileLoop

variable (scopes : List UInt8) (state : Finset (List UInt8) × Nat)

/-- A round of the constructor of a `ScopeSet` from a string: the scopes so far, and
`start_offset`. -/
def scopeRound : Round (Finset (List UInt8) × Nat) (Finset (List UInt8)) :=
  let stop := findFirstOf (· == 44) scopes state.2
  let scope := (scopes.drop state.2).take (stop.getD scopes.length - state.2)
  let found :=
    if scope.isEmpty then state.1
    else insert (slpGetCanonicalString (slpStringUnescape scope)) state.1
  match stop with
  | none => .leave found
  | some stop => .again (found, stop + 1)

/-- The scopes of a comma separated string. -/
def scopesOf (texts : List (List UInt8)) : Finset (List UInt8) :=
  (ScopeSet.ofStrings
    ((texts.filter (fun scope => !scope.isEmpty)).map slpStringUnescape)).scopes

theorem scopesOf_cons (first : List UInt8) (rest : List (List UInt8)) :
    scopesOf (first :: rest) =
      if first.isEmpty then scopesOf rest
      else insert (slpGetCanonicalString (slpStringUnescape first)) (scopesOf rest) := by
  unfold scopesOf
  cases first with
  | nil => rfl
  | cons byte others => simp [ScopeSet.scopes_ofStrings]

/-- What is found, and what the loop will find in the rest. -/
def scopeSpec : Finset (List UInt8) :=
  state.1 ∪ scopesOf (stringSplit (scopes.drop state.2) [44])

theorem scopeSpec_split {scopes first : List UInt8} {found : Finset (List UInt8)} {start : Nat}
    {rest : List (List UInt8)} (split : stringSplit (scopes.drop start) [44] = first :: rest) :
    scopeSpec scopes (found, start) =
      (if first.isEmpty then found
        else insert (slpGetCanonicalString (slpStringUnescape first)) found) ∪ scopesOf rest := by
  unfold scopeSpec
  rw [split, scopesOf_cons]
  split
  · rfl
  · rw [Finset.union_insert, Finset.insert_union]

theorem comma_contains (byte : UInt8) : ([44] : List UInt8).contains byte = (byte == 44) := by
  simp only [List.contains_cons, List.contains_nil, Bool.or_false]

/-- The loop of the constructor ends, for every string. -/
theorem scopes_return : Returns (scopeRound scopes) (∅, 0) (ScopeSet.parse scopes).scopes := by
  have whole : (ScopeSet.parse scopes).scopes = scopeSpec scopes (∅, 0) := by
    rfl
  rw [whole]
  apply @returns_of_rounds _ _ _ (fun _ => True) (scopeSpec scopes)
    (fun state => scopes.length + 1 - state.2) _ _ (∅, 0) trivial
  · intro state next _ goes
    unfold scopeRound at goes
    cases comma : findFirstOf (· == 44) scopes state.2 with
    | none =>
      simp only [comma] at goes
      cases goes
    | some stop =>
      have ⟨front, plain, byte, rest, shape, length, position, before, here⟩ :=
        findFirstOf_some comma
      have behind : scopes.drop state.2 = plain ++ byte :: rest := by
        rw [shape, ← length, List.drop_left]
      have others : scopes.drop (stop + 1) = rest := by
        have parts : scopes = (front ++ plain ++ [byte]) ++ rest := by
          simp only [shape, List.append_assoc, List.singleton_append]
        rw [parts, List.drop_left']
        simp only [List.length_append, List.length_singleton]
        omega
      have scope : (scopes.drop state.2).take (stop - state.2) = plain := by
        rw [behind, List.take_left' (by omega)]
      have split : stringSplit (scopes.drop state.2) [44] = plain :: stringSplit rest [44] := by
        rw [behind]
        apply List.splitOnP_append_cons_of_forall_mem
        · intro other member
          rw [comma_contains]
          exact before other member
        · rw [comma_contains]
          exact here
      simp only [comma, Option.getD_some, scope] at goes
      cases goes
      have whole := @scopeSpec_split scopes plain state.1 state.2 (stringSplit rest [44]) split
      refine ⟨trivial, ?_, ?_⟩
      · rw [show state = (state.1, state.2) from rfl, whole]
        simp only [scopeSpec, others]
      · simp only [shape, List.length_append, List.length_cons]
        omega
  · intro state result _ leaves
    unfold scopeRound at leaves
    cases comma : findFirstOf (· == 44) scopes state.2 with
    | some stop =>
      simp only [comma] at leaves
      cases leaves
    | none =>
      have scope : (scopes.drop state.2).take (scopes.length - state.2) = scopes.drop state.2 := by
        rw [List.take_of_length_le]
        rw [List.length_drop]
      have split : stringSplit (scopes.drop state.2) [44] = [scopes.drop state.2] := by
        apply List.splitOnP_eq_singleton
        intro other member
        rw [comma_contains]
        exact findFirstOf_none comma other member
      simp only [comma, Option.getD_none, scope] at leaves
      cases leaves
      have whole := @scopeSpec_split scopes _ state.1 state.2 [] split
      have nothing : scopesOf [] = ∅ := rfl
      rw [nothing, Finset.union_empty] at whole
      exact whole

/-- Lower case, without white space at the start or the end, or twice in a row. -/
structure CanonicalForm (scope : List UInt8) : Prop where
  lower : ∀ byte ∈ scope, ¬ (65 ≤ byte ∧ byte ≤ 90)
  leading : ∀ byte ∈ scope.head?, isWhitespace byte = false
  trailing : ∀ byte ∈ scope.getLast?, isWhitespace byte = false
  single : scope.IsChain (fun one two => ¬ (isWhitespace one = true ∧ isWhitespace two = true))

theorem foldLoop_trailing (blank : Bool) (text : List UInt8) :
    ∀ byte ∈ (foldLoop blank text).getLast?, isWhitespace byte = false := by
  induction text generalizing blank with
  | nil => simp [foldLoop]
  | cons first rest ih =>
    cases solid : isWhitespace first with
    | true =>
      simp only [foldLoop, solid, ↓reduceIte]
      exact ih true
    | false =>
      have last := ih false
      have kept : ∀ byte ∈ (first :: foldLoop false rest).getLast?, isWhitespace byte = false := by
        intro byte member
        cases behind : foldLoop false rest with
        | nil =>
          rw [behind] at member
          cases member
          exact solid
        | cons second others =>
          rw [behind] at member last
          exact last byte member
      cases blank with
      | false => simpa only [foldLoop, solid, Bool.false_eq_true, ↓reduceIte] using kept
      | true =>
        simp only [foldLoop, solid, Bool.false_eq_true, ↓reduceIte, List.getLast?_cons_cons]
        exact kept

theorem foldLoop_single (blank : Bool) (text : List UInt8) :
    (foldLoop blank text).IsChain
      (fun one two => ¬ (isWhitespace one = true ∧ isWhitespace two = true)) := by
  induction text generalizing blank with
  | nil => simp [foldLoop]
  | cons first rest ih =>
    cases solid : isWhitespace first with
    | true =>
      simp only [foldLoop, solid, ↓reduceIte]
      exact ih true
    | false =>
      have kept : (first :: foldLoop false rest).IsChain
          (fun one two => ¬ (isWhitespace one = true ∧ isWhitespace two = true)) := by
        rw [List.isChain_cons]
        refine ⟨?_, ih false⟩
        intro byte _ both
        rw [solid] at both
        cases both.1
      cases blank with
      | false => simpa only [foldLoop, solid, Bool.false_eq_true, ↓reduceIte] using kept
      | true =>
        simp only [foldLoop, solid, Bool.false_eq_true, ↓reduceIte, List.isChain_cons_cons]
        refine ⟨?_, kept⟩
        exact fun both => both.2

variable (text : List UInt8)

/-- What the white space at the start is taken off starts with something else. -/
theorem foldWhitespace_leading :
    ∀ byte ∈ (foldWhitespace text).head?, isWhitespace byte = false := by
  intro byte member
  rw [← dropWhile_foldWhitespace] at member
  have first := List.head?_dropWhile_not isWhitespace (foldWhitespace text)
  rw [Option.mem_def.mp member] at first
  exact first

theorem toLower_not_upper (byte : UInt8) :
    toLower byte = byte → ¬ (65 ≤ byte ∧ byte ≤ 90) := by
  apply forall_byte _ byte
  decide +kernel

theorem canonicalForm : CanonicalForm (slpGetCanonicalString text) where
  lower byte member := toLower_not_upper byte (toLower_canonical member)
  leading := foldWhitespace_leading _
  trailing := foldLoop_trailing false _
  single := foldLoop_single false _

theorem isWhitespace_toLower (byte : UInt8) :
    isWhitespace (toLower byte) = isWhitespace byte := by
  apply forall_byte (p := fun byte => isWhitespace (toLower byte) = isWhitespace byte)
  decide +kernel

/-- Only white space becomes the empty string. -/
theorem canonical_eq_nil_iff :
    slpGetCanonicalString text = [] ↔ ∀ byte ∈ text, isWhitespace byte = true := by
  have trimmed : foldWhitespace (text.map toLower) = [] ↔
      (text.map toLower).dropWhile isWhitespace = [] := by
    unfold foldWhitespace
    constructor
    · intro empty
      cases shape : (text.map toLower).dropWhile isWhitespace with
      | nil => rfl
      | cons byte rest =>
        have first := List.head?_dropWhile_not isWhitespace (text.map toLower)
        rw [shape] at first empty
        have solid : isWhitespace byte = false := first
        simp only [foldLoop, solid, Bool.false_eq_true, ↓reduceIte] at empty
        cases empty
    · intro empty
      rw [empty]
      rfl
  rw [slpGetCanonicalString, trimmed, List.dropWhile_eq_nil_iff]
  simp only [List.mem_map, forall_exists_index, and_imp, forall_apply_eq_imp_iff₂,
    isWhitespace_toLower]

/-- The set made from the string is found again in what it sends, and its scopes are in canonical
form. -/
def Survives : Prop :=
  ∃ set : ScopeSet, Returns (scopeRound text) (∅, 0) set.scopes ∧
    Returns (scopeRound set.asEscapedString) (∅, 0) set.scopes ∧
    ∀ scope ∈ set.scopes, CanonicalForm scope

theorem survives_iff_notMem : Survives text ↔ [] ∉ (ScopeSet.parse text).scopes := by
  have made := scopes_return text
  constructor
  · intro survives
    have ⟨set, first, second, _⟩ := survives
    have same : set = ScopeSet.parse text := ScopeSet.ext (first.unique made)
    rw [same] at second
    have again := second.unique (scopes_return (ScopeSet.parse text).asEscapedString)
    exact (ScopeSet.parse_asEscapedString_iff _).mp (ScopeSet.ext again.symm)
  · intro filled
    have again := scopes_return (ScopeSet.parse text).asEscapedString
    rw [(ScopeSet.parse_asEscapedString_iff _).mpr filled] at again
    refine ⟨ScopeSet.parse text, made, again, ?_⟩
    intro scope member
    rw [← (ScopeSet.parse text).canonical scope member]
    exact canonicalForm scope

/-- A scope set survives the wire exactly if none of the pieces of its text that are not empty is
only white space once it is unescaped. -/
theorem scopes_survive_iff (text : List UInt8) :
    Survives text ↔ ∀ piece ∈ stringSplit text [44], piece ≠ [] →
      ∃ byte ∈ slpStringUnescape piece, isWhitespace byte = false := by
  rw [survives_iff_notMem, ScopeSet.parse, ScopeSet.scopes_ofStrings, List.mem_toFinset]
  constructor
  · intro apart piece member filled
    by_contra hidden
    apply apart
    rw [List.map_map]
    refine List.mem_map.mpr ⟨piece, List.mem_filter.mpr ⟨member, by simpa using filled⟩, ?_⟩
    show slpGetCanonicalString (slpStringUnescape piece) = []
    rw [canonical_eq_nil_iff]
    intro byte inside
    by_contra solid
    exact hidden ⟨byte, inside, by simpa using solid⟩
  · intro visible inside
    rw [List.map_map] at inside
    obtain ⟨piece, member, empty⟩ := List.mem_map.mp inside
    obtain ⟨split, filled⟩ := List.mem_filter.mp member
    obtain ⟨byte, found, solid⟩ := visible piece split (by simpa using filled)
    rw [Function.comp_apply, canonical_eq_nil_iff] at empty
    rw [empty byte found] at solid
    cases solid

/-- The scope set of a single space has the empty scope, which is lost. -/
theorem blank_scope_lost : ¬ Survives [32] := by
  rw [survives_iff_notMem]
  decide +kernel

end OpenLighting.Slp
