import Mathlib.Data.Finset.Sort

/- Walks over two lists in increasing order, a step in the one with the smaller head. -/
namespace OrderedMerge

open List

universe u

variable {α : Type u} [LinearOrder α]

/-- The number of steps in which the heads are the same. -/
def commonCount : List α → List α → Nat
  | [], _ => 0
  | _ :: _, [] => 0
  | one :: rest, other :: more =>
    if one = other then commonCount rest more + 1
    else if one < other then commonCount rest (other :: more)
    else commonCount (one :: rest) more
termination_by left right => left.length + right.length

/-- What a walk leaves of the first list, and what it takes out because it is in the second. -/
def takeCommon : List α → List α → List α × List α
  | [], _ => ([], [])
  | one :: rest, [] => (one :: rest, [])
  | one :: rest, other :: more =>
    if one = other then
      let walk := takeCommon rest more
      (walk.1, one :: walk.2)
    else if one < other then
      let walk := takeCommon rest (other :: more)
      (one :: walk.1, walk.2)
    else takeCommon (one :: rest) more
termination_by left right => left.length + right.length

section Ordered
variable {one other : α} {rest more : List α}

/-- A head that is smaller than the other list's is not in that list. -/
theorem notMem_of_lt_head (ordered : (other :: more).SortedLT) (less : one < other) :
    one ∉ other :: more := by
  intro member
  have above := pairwise_cons.mp ordered.pairwise
  have either := mem_cons.mp member
  cases either with
  | inl same => exact absurd same less.ne
  | inr later => exact absurd (above.1 one later) less.asymm

theorem tail_ordered (ordered : (other :: more).SortedLT) : more.SortedLT :=
  (pairwise_cons.mp ordered.pairwise).2.sortedLT

/-- What comes after a head is another value. -/
theorem head_ne (ordered : (other :: more).SortedLT) {value : α} (later : value ∈ more) :
    value ≠ other := by
  have above := (pairwise_cons.mp ordered.pairwise).1 value later
  exact above.ne'

end Ordered

/-- Lists that agree on the members of a third one split it alike. -/
theorem split_congr {list one other : List α}
    (alike : ∀ value ∈ list, value ∈ one ↔ value ∈ other) :
    list.filter (· ∉ one) = list.filter (· ∉ other) ∧
      list.filter (· ∈ one) = list.filter (· ∈ other) := by
  constructor
  · exact filter_congr (fun value member => by simp only [alike value member])
  · exact filter_congr (fun value member => by simp only [alike value member])

/-- The walk splits the first list by what is in the second. -/
theorem takeCommon_eq (left right : List α) (ordered : left.SortedLT)
    (ordered' : right.SortedLT) :
    takeCommon left right = (left.filter (· ∉ right), left.filter (· ∈ right)) := by
  induction left, right using takeCommon.induct with
  | case1 right => simp only [takeCommon, filter_nil]
  | case2 one rest => simp [takeCommon]
  | case3 rest other more ih =>
    have alike : ∀ value ∈ rest, value ∈ other :: more ↔ value ∈ more := by
      intro value later
      simp only [mem_cons, head_ne ordered later, false_or]
    have ⟨kept, taken⟩ := split_congr alike
    rw [takeCommon, if_pos rfl, ih (tail_ordered ordered) (tail_ordered ordered')]
    simp only [filter_cons, mem_cons_self, not_true, decide_true, decide_false,
      Bool.false_eq_true, if_true, if_false, kept, taken]
  | case4 one rest other more differs less ih =>
    have absent := notMem_of_lt_head ordered' less
    rw [takeCommon, if_neg differs, if_pos less, ih (tail_ordered ordered) ordered']
    simp only [filter_cons, absent, not_false_eq_true, decide_true, if_true, decide_false,
      Bool.false_eq_true, if_false]
  | case5 one rest other more differs notLess ih =>
    have less : other < one := lt_of_le_of_ne (not_lt.mp notLess) (Ne.symm differs)
    have absent := notMem_of_lt_head ordered less
    have alike : ∀ value ∈ one :: rest, value ∈ other :: more ↔ value ∈ more := by
      intro value member
      have apart : value ≠ other := fun same => absent (same ▸ member)
      simp only [mem_cons, apart, false_or]
    have ⟨kept, taken⟩ := split_congr alike
    rw [takeCommon, if_neg differs, if_neg notLess, ih ordered (tail_ordered ordered'), kept,
      taken]

/-- The walk that counts makes the same steps. -/
theorem commonCount_eq (left right : List α) :
    commonCount left right = (takeCommon left right).2.length := by
  induction left, right using takeCommon.induct with
  | case1 right | case2 one rest => simp only [commonCount, takeCommon, length_nil]
  | case3 rest other more ih =>
    simp only [commonCount, takeCommon, if_true, length_cons, ih]
  | case4 one rest other more differs less ih =>
    simp only [commonCount, takeCommon, differs, less, if_true, if_false, ih]
  | case5 one rest other more differs notLess ih =>
    simp only [commonCount, takeCommon, differs, notLess, if_false, ih]

section Nodes
variable {set : Finset α} {one : α} {rest : List α}

/-- The smallest member. -/
def first (set : Finset α) : Option α := (set.sort (· ≤ ·)).head?

/-- The member that comes behind a value. -/
def next (set : Finset α) (value : α) : Option α :=
  (set.sort (· ≤ ·)).find? fun other => value < other

theorem next_eq_head (suffix : one :: rest <:+ set.sort (· ≤ ·)) : next set one = rest.head? := by
  obtain ⟨passed, same⟩ := suffix
  have ordered := (Finset.sortedLT_sort set).pairwise
  rw [← same, pairwise_append, pairwise_cons] at ordered
  have skipped : (passed.find? fun other => one < other) = none := by
    rw [List.find?_eq_none]
    intro other member
    have below := ordered.2.2 other member one mem_cons_self
    simpa using le_of_lt below
  rw [next, ← same, List.find?_append, skipped, Option.none_or,
    List.find?_cons_of_neg (by simp)]
  cases rest with
  | nil => rfl
  | cons other rest =>
    have above := ordered.2.1.1 other mem_cons_self
    exact List.find?_cons_of_pos (decide_eq_true above)

/-- What is behind a member stays behind when the member is erased. -/
theorem suffix_erase [DecidableEq α] (suffix : one :: rest <:+ set.sort (· ≤ ·)) :
    rest <:+ (set.erase one).sort (· ≤ ·) := by
  obtain ⟨passed, same⟩ := suffix
  have ordered := (Finset.sortedLT_sort set).pairwise
  rw [← same] at ordered
  have shorter : (passed ++ rest).Pairwise (· < ·) :=
    ordered.sublist ((sublist_cons_self one rest).append_left passed)
  have absent : one ∉ passed ++ rest := by
    rw [pairwise_append, pairwise_cons] at ordered
    intro member
    cases mem_append.mp member with
    | inl member => exact absurd (ordered.2.2 one member one mem_cons_self) (lt_irrefl one)
    | inr member => exact absurd (ordered.2.1.1 one member) (lt_irrefl one)
  have members : (passed ++ rest).toFinset = set.erase one := by
    have whole := Finset.sort_toFinset set (· ≤ ·)
    ext value
    rw [← whole, ← same]
    simp only [mem_toFinset, mem_append, Finset.mem_erase, mem_cons] at absent ⊢
    grind
  have sorted := (toFinset_sort (· ≤ ·) (shorter.imp ne_of_lt)).mpr (shorter.imp le_of_lt)
  rw [members] at sorted
  exact ⟨passed, sorted.symm⟩

end Nodes

/- Equality may be decided in another way than by the order. -/
variable [DecidableEq α] (one other : Finset α)

/-- On sets, what is left is the difference. -/
theorem toFinset_takeCommon_fst :
    (takeCommon (one.sort (· ≤ ·)) (other.sort (· ≤ ·))).1.toFinset = one \ other := by
  rw [takeCommon_eq _ _ (Finset.sortedLT_sort one) (Finset.sortedLT_sort other)]
  ext value
  simp

/-- What is taken out is the intersection. -/
theorem toFinset_takeCommon_snd :
    (takeCommon (one.sort (· ≤ ·)) (other.sort (· ≤ ·))).2.toFinset = one ∩ other := by
  rw [takeCommon_eq _ _ (Finset.sortedLT_sort one) (Finset.sortedLT_sort other)]
  ext value
  simp

theorem commonCount_sort :
    commonCount (one.sort (· ≤ ·)) (other.sort (· ≤ ·)) = (one ∩ other).card := by
  have once : (takeCommon (one.sort (· ≤ ·)) (other.sort (· ≤ ·))).2.Nodup := by
    rw [takeCommon_eq _ _ (Finset.sortedLT_sort one) (Finset.sortedLT_sort other)]
    exact (Finset.sort_nodup one _).filter _
  rw [commonCount_eq, ← toFinset_takeCommon_snd, toFinset_card_of_nodup once]

end OrderedMerge
