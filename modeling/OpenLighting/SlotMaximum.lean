import Mathlib.Data.List.Basic
import Mathlib.Data.Set.Insert

/- The largest value at every position of some rows, which may differ in length.
Nothing here depends on what the values are. -/
namespace SlotMaximum

variable {α : Type*} [LE α] [DecidableLE α]

def larger (first second : α) : α := if first ≤ second then second else first

/-- The larger value where both rows have one, and the rest of the longer row. -/
def merge : List α → List α → List α
  | [], second => second
  | first, [] => first
  | value :: first, other :: second => larger value other :: merge first second

/-- At every position the largest value of the rows that reach it. -/
structure IsMaximum (rows : Set (List α)) (result : List α) : Prop where
  above : ∀ row ∈ rows, ∀ (index : Nat) (value : α), row[index]? = some value →
    ∃ top, result[index]? = some top ∧ value ≤ top
  reached : ∀ (index : Nat) (top : α), result[index]? = some top → ∃ row ∈ rows, row[index]? = some top

@[simp] theorem merge_nil (row : List α) : merge row [] = row := by
  cases row <;> rfl

theorem merge_length (first second : List α) :
    (merge first second).length = max first.length second.length := by
  induction first, second using merge.induct with
  | case1 second => simp [merge]
  | case2 first _ => simp
  | case3 value first other second ih => simp [merge, ih]

/-- The rows side by side, and what is left of the longer one. -/
theorem merge_eq (first second : List α) :
    merge first second =
      List.zipWith larger first second ++ (first.drop second.length ++ second.drop first.length) := by
  induction first, second using merge.induct with
  | case1 second => simp [merge]
  | case2 first _ => simp
  | case3 value first other second ih => simp [merge, ih]

/-- A position that one of the rows does not reach is that of the other row. -/
theorem merge_getElem? (first second : List α) (index : Nat) :
    (merge first second)[index]? = Option.merge larger first[index]? second[index]? := by
  induction first, second using merge.induct generalizing index with
  | case1 second => simp [merge]
  | case2 first _ => simp
  | case3 value first other second ih =>
    cases index with
    | zero => rfl
    | succ index =>
      exact ih index

theorem merge_self (row : List α) : merge row row = row := by
  have same : ∀ value : α, larger value value = value := by
    intro value
    unfold larger
    split <;> rfl
  induction row with
  | nil => rfl
  | cons value row ih => rw [merge, same, ih]

variable {first second : List α}

theorem merge_reached {index : Nat} {top : α} (found : (merge first second)[index]? = some top) :
    first[index]? = some top ∨ second[index]? = some top := by
  induction first, second using merge.induct generalizing index with
  | case1 second => exact Or.inr found
  | case2 first _ =>
    rw [merge_nil] at found
    exact Or.inl found
  | case3 value first other second ih =>
    cases index with
    | zero =>
      have head : larger value other = top := by simpa [merge] using found
      unfold larger at head
      split at head
      · exact Or.inr (by simpa using head)
      · exact Or.inl (by simpa using head)
    | succ index =>
      exact ih found

omit [DecidableLE α] in
theorem isMaximum_empty : IsMaximum (∅ : Set (List α)) [] := by
  constructor
  · intro row member
    cases member
  · intro index top found
    cases found

variable {rows : Set (List α)}

omit [DecidableLE α] in
theorem IsMaximum.below (left : IsMaximum rows first) (right : IsMaximum rows second) {index : Nat}
    {value : α} (found : first[index]? = some value) :
    ∃ top, second[index]? = some top ∧ value ≤ top := by
  obtain ⟨row, member, here⟩ := left.reached index value found
  exact right.above row member index value here

section Order

variable [Std.IsLinearOrder α]

theorem le_larger_left (first second : α) : first ≤ larger first second := by
  unfold larger
  split
  · assumption
  · exact Std.le_refl first

theorem le_larger_right (first second : α) : second ≤ larger first second := by
  unfold larger
  split
  · exact Std.le_refl second
  · exact Std.le_of_not_ge ‹_›

theorem merge_above {index : Nat} {value : α}
    (found : first[index]? = some value ∨ second[index]? = some value) :
    ∃ top, (merge first second)[index]? = some top ∧ value ≤ top := by
  induction first, second using merge.induct generalizing index with
  | case1 second =>
    have here : second[index]? = some value := by simpa using found
    exact ⟨value, here, Std.le_refl value⟩
  | case2 first _ =>
    have here : first[index]? = some value := by simpa using found
    rw [merge_nil]
    exact ⟨value, here, Std.le_refl value⟩
  | case3 head first other second ih =>
    cases index with
    | zero =>
      refine ⟨larger head other, rfl, ?_⟩
      rcases found with here | here
      · rw [List.getElem?_cons_zero, Option.some_inj] at here
        rw [← here]
        exact le_larger_left head other
      · rw [List.getElem?_cons_zero, Option.some_inj] at here
        rw [← here]
        exact le_larger_right head other
    | succ index =>
      exact ih found

omit [DecidableLE α] in
theorem IsMaximum.unique (left : IsMaximum rows first) (right : IsMaximum rows second) :
    first = second := by
  apply List.ext_getElem?
  intro index
  cases here : first[index]? with
  | none =>
    cases there : second[index]? with
    | none => rfl
    | some value =>
      obtain ⟨top, found, _⟩ := right.below left there
      rw [here] at found
      cases found
  | some value =>
    obtain ⟨top, there, up⟩ := left.below right here
    obtain ⟨back, found, down⟩ := right.below left there
    rw [here, Option.some_inj] at found
    rw [there, found, Std.le_antisymm (found ▸ up) down]

theorem IsMaximum.insert {result : List α} (maximum : IsMaximum rows result) (row : List α) :
    IsMaximum (insert row rows) (merge result row) := by
  constructor
  · intro other member index value found
    rcases Set.mem_insert_iff.mp member with rfl | earlier
    · exact merge_above (Or.inr found)
    · obtain ⟨top, here, up⟩ := maximum.above other earlier index value found
      obtain ⟨peak, there, higher⟩ := merge_above (Or.inl here : _ ∨ row[index]? = _)
      exact ⟨peak, there, Std.le_trans up higher⟩
  · intro index top found
    rcases merge_reached found with here | here
    · obtain ⟨other, member, there⟩ := maximum.reached index top here
      exact ⟨other, Set.mem_insert_of_mem row member, there⟩
    · exact ⟨row, Set.mem_insert row rows, here⟩

/-- Merging rows one after the other finds the maximum. -/
theorem IsMaximum.foldl {result : List α} (maximum : IsMaximum rows result) (more : List (List α)) :
    IsMaximum {row | row ∈ more ∨ row ∈ rows} (more.foldl merge result) := by
  induction more generalizing rows result with
  | nil => simpa using maximum
  | cons row more ih =>
    have later := ih (maximum.insert row)
    have same : {other | other ∈ more ∨ other ∈ Insert.insert row rows} =
        {other | other ∈ row :: more ∨ other ∈ rows} := by
      ext other
      simp only [Set.mem_ofPred_eq, Set.mem_insert_iff, List.mem_cons]
      tauto
    rwa [same] at later

end Order

end SlotMaximum
