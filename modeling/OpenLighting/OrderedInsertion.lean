import Mathlib.Data.List.InsertIdx

/- Lists in which each element comes before all later ones. The relation need not compare every
two elements, and chains of it need only hold together over elements of the list. -/
namespace OrderedInsertion

variable {α : Type*} {Before : α → α → Prop} {list : List α} {element : α}

/-- A chain over an element of the list holds without it. -/
def Chains (Before : α → α → Prop) (list : List α) : Prop :=
  ∀ middle ∈ list, ∀ first last, Before first middle → Before middle last → Before first last

section Neighbours
variable (ordered : list.Pairwise Before) (chains : Chains Before list)
include ordered chains

theorem before_of_le {index other : Nat} (inside : index < list.length) (le : other ≤ index)
    (before : Before list[index] element) : Before list[other] element := by
  obtain less | rfl := Nat.lt_or_eq_of_le le
  · have earlier := List.pairwise_iff_getElem.mp ordered other index (by omega) inside less
    exact chains list[index] (List.getElem_mem inside) _ _ earlier before
  · exact before

theorem after_of_le {index other : Nat} (inside : other < list.length) (le : index ≤ other)
    (after : Before element list[index]) : Before element list[other] := by
  obtain less | rfl := Nat.lt_or_eq_of_le le
  · have later := List.pairwise_iff_getElem.mp ordered index other (by omega) inside less
    exact chains list[index] (List.getElem_mem (by omega)) _ _ after later
  · exact after

theorem cons_of_before (inside : 0 < list.length) (before : Before element list[0]) :
    (element :: list).Pairwise Before := by
  refine List.pairwise_cons.mpr ⟨?_, ordered⟩
  intro other member
  obtain ⟨index, bound, rfl⟩ := List.getElem_of_mem member
  exact after_of_le ordered chains bound (Nat.zero_le index) before

theorem append_of_after {last : Nat} (inside : last + 1 = list.length)
    (after : Before list[last] element) : (list ++ [element]).Pairwise Before := by
  refine List.pairwise_append.mpr ⟨ordered, List.pairwise_singleton Before element, ?_⟩
  intro other member added same
  cases List.mem_singleton.mp same
  obtain ⟨index, bound, rfl⟩ := List.getElem_of_mem member
  exact before_of_le ordered chains (by omega) (by omega) after

/-- What lies between two neighbours can be put between them. -/
theorem insertIdx_between {lower : Nat} (inside : lower + 1 < list.length)
    (after : Before list[lower] element) (before : Before element list[lower + 1]) :
    (list.insertIdx (lower + 1) element).Pairwise Before := by
  refine List.pairwise_iff_getElem.mpr ?_
  intro first second firstInside secondInside less
  have each := List.pairwise_iff_getElem.mp ordered
  rw [List.length_insertIdx_of_le_length (by omega)] at firstInside secondInside
  rw [List.getElem_insertIdx, List.getElem_insertIdx]
  by_cases left : first < lower + 1
  · rw [dif_pos left]
    by_cases right : second < lower + 1
    · rw [dif_pos right]
      exact each first second (by omega) (by omega) less
    · rw [dif_neg right]
      split
      · exact before_of_le ordered chains (by omega) (by omega) after
      · exact each first (second - 1) (by omega) (by omega) (by omega)
  · rw [dif_neg left, dif_neg (show ¬ second < lower + 1 by omega),
      dif_neg (show ¬ second = lower + 1 by omega)]
    split
    · exact after_of_le ordered chains (by omega) (by omega) before
    · exact each (first - 1) (second - 1) (by omega) (by omega) (by omega)

end Neighbours

end OrderedInsertion
