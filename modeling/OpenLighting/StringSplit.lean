import OpenLighting.StringUtils
import OpenLighting.WhileLoop

/- `StringSplit` as its loop does it, and what was joined. -/
namespace OpenLighting.StringUtils

open WhileLoop List

/-- `find_first_of`, from a position on. -/
def findFirstOf (wanted : UInt8 → Bool) (text : List UInt8) (start : Nat) : Option Nat :=
  ((text.drop start).findIdx? wanted).map (fun offset => start + offset)

def npos : Nat := 0xffffffffffffffff

/-- `substr`, which throws where the position is behind the end. -/
def substr (text : List UInt8) (position count : Nat) : Option (List UInt8) :=
  if text.length < position then none else some ((text.drop position).take count)

/-- The tokens so far and `start_offset`. -/
structure Splitting where
  tokens : List (List UInt8)
  start : Nat

/-- A round of `StringSplit`; `none` is what `substr` throws. -/
def splitRound (input delimiters : List UInt8) (state : Splitting) :
    Round Splitting (Option (List (List UInt8))) :=
  match findFirstOf delimiters.contains input state.start with
  | none =>
    .leave ((substr input state.start (input.length - state.start)).map
      fun token => state.tokens ++ [token])
  | some stop =>
    match substr input state.start (stop - state.start) with
    | none => .leave none
    | some token =>
      .again ⟨state.tokens ++ [token], if input.length < stop + 1 then npos else stop + 1⟩

section Finding
variable {wanted : UInt8 → Bool} {text : List UInt8} {start position : Nat}

/-- Where something is found, nothing behind the start and before it is wanted. -/
theorem findFirstOf_some (found : findFirstOf wanted text start = some position) :
    ∃ front plain byte rest, text = front ++ (plain ++ byte :: rest) ∧ front.length = start ∧
      position = start + plain.length ∧ (∀ other ∈ plain, wanted other = false) ∧
      wanted byte = true := by
  unfold findFirstOf at found
  rw [Option.map_eq_some_iff] at found
  have ⟨offset, at_, same⟩ := found
  have ⟨inside, here, before⟩ := List.findIdx?_eq_some_iff_getElem.mp at_
  rw [length_drop] at inside
  refine ⟨text.take start, (text.drop start).take offset, (text.drop start)[offset],
    (text.drop start).drop (offset + 1), ?_, ?_, ?_, ?_, here⟩
  · rw [getElem_cons_drop, take_append_drop, take_append_drop]
  · rw [length_take]
    omega
  · rw [length_take, length_drop]
    omega
  · intro other member
    have ⟨index, small, equal⟩ := getElem_of_mem member
    rw [length_take] at small
    have plain := before index (by omega)
    rw [← equal, getElem_take]
    simpa using plain

theorem findFirstOf_none (found : findFirstOf wanted text start = none) :
    ∀ other ∈ text.drop start, wanted other = false := by
  unfold findFirstOf at found
  rw [Option.map_eq_none_iff, List.findIdx?_eq_none_iff] at found
  exact found

end Finding

/-- What is done, and what the loop will make of the rest. -/
def splitSpec (input delimiters : List UInt8) (state : Splitting) :
    Option (List (List UInt8)) :=
  some (state.tokens ++ stringSplit (input.drop state.start) delimiters)

/-- The loop of `StringSplit` ends, for every string. No part of it is looked for behind the end. -/
theorem split_returns (input delimiters : List UInt8) :
    Returns (splitRound input delimiters) ⟨[], 0⟩ (some (stringSplit input delimiters)) := by
  apply @returns_of_rounds _ _ _ (fun state => state.start ≤ input.length)
    (splitSpec input delimiters) (fun state => input.length - state.start) _ _ ⟨[], 0⟩
    (Nat.zero_le _)
  · intro state next within goes
    unfold splitRound at goes
    cases found : findFirstOf delimiters.contains input state.start with
    | none =>
      rw [found] at goes
      cases goes
    | some stop =>
      obtain ⟨front, plain, byte, rest, shape, length, position, before, here⟩ :=
        findFirstOf_some found
      have total : input.length = stop + 1 + rest.length := by
        rw [shape]
        simp only [length_append, length_cons]
        omega
      have ahead : input.drop state.start = plain ++ byte :: rest := by
        rw [shape, ← length, drop_left]
      have behind : input.drop (stop + 1) = rest := by
        have offset : stop + 1 = state.start + (plain.length + 1) := by omega
        rw [offset, ← drop_drop, ahead, ← drop_drop, drop_left, drop_succ_cons,
          drop_zero]
      have token : substr input state.start (stop - state.start) = some plain := by
        rw [substr, if_neg (by omega), ahead, take_left' (by omega)]
      have parts := splitOnP_append_cons_of_forall_mem before byte here rest
      rw [found] at goes
      simp only [token] at goes
      cases goes
      rw [if_neg (by omega)]
      refine ⟨by dsimp only; omega, ?_, by dsimp only; omega⟩
      simp only [splitSpec, ahead, behind, stringSplit]
      rw [parts, append_assoc, singleton_append]
  · intro state result within leaves
    unfold splitRound at leaves
    cases found : findFirstOf delimiters.contains input state.start with
    | none =>
      have single := splitOnP_eq_singleton (findFirstOf_none found)
      rw [found] at leaves
      cases leaves
      rw [substr, if_neg (by omega), take_of_length_le (by rw [length_drop]), splitSpec,
        stringSplit, single]
      rfl
    | some stop =>
      obtain ⟨front, plain, byte, rest, shape, length, position, before, here⟩ :=
        findFirstOf_some found
      rw [found] at leaves
      simp only [substr, if_neg (Nat.not_lt.mpr within)] at leaves
      cases leaves

theorem stringSplit_comma (text : List UInt8) : stringSplit text [44] = text.splitOn 44 := by
  have same : (fun byte => [(44 : UInt8)].contains byte) = (· == 44) := by
    funext byte
    rw [Bool.eq_iff_iff]
    simp
  rw [stringSplit, same, List.splitOn]

/-- What was joined with commas is found when it is split again. -/
theorem stringSplit_stringJoin {texts : List (List UInt8)} (apart : ∀ text ∈ texts, 44 ∉ text)
    (filled : texts ≠ []) : stringSplit (stringJoin [44] texts) [44] = texts := by
  rw [stringSplit_comma, stringJoin, splitOn_intercalate 44 apart filled]

end OpenLighting.StringUtils
