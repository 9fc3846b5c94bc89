import OpenLighting.RunLengthTail

/- Where the loops of the encoder stop. -/
namespace OpenLighting.RunLengthEncoder

variable {src : DmxBuffer} {i : Nat}

theorem get_eq {k : Nat} (below : k < src.size) : src.slots[k]? = some (src.get k) := by
  unfold DmxBuffer.get
  rw [List.getD_eq_getElem?_getD, List.getElem?_eq_getElem below]
  rfl

theorem tripleAt_iff (k : Nat) :
    TripleAt src.slots k ↔
      k + 2 < src.size ∧ src.get k = src.get (k + 1) ∧ src.get k = src.get (k + 2) := by
  constructor
  · rintro ⟨value, first, second, third⟩
    have below : k + 2 < src.size := (List.getElem?_eq_some_iff.mp third).1
    rw [get_eq (by omega), Option.some_inj] at first second third
    exact ⟨below, first.trans second.symm, first.trans third.symm⟩
  · rintro ⟨below, second, third⟩
    refine ⟨src.get k, get_eq (by omega), ?_, ?_⟩
    · rw [get_eq (by omega), second]
    · rw [get_eq below, third]

/-- Up to `j` all values are equal. -/
structure Repeats (src : DmxBuffer) (i j : Nat) : Prop where
  after : i < j
  inside : j ≤ src.size
  short : j - i ≤ 0x7f
  equal : ∀ k, i ≤ k → k < j → src.get k = src.get i

variable {j : Nat}

theorem repeatLoop_spec (fuel : Nat) (repeats : Repeats src i j) (enough : 0x7f ≤ fuel + (j - i)) :
    Repeats src i (repeatLoop src i fuel j) ∧
      (repeatLoop src i fuel j = src.size ∨ src.get (repeatLoop src i fuel j) ≠ src.get i ∨
        repeatLoop src i fuel j - i = 0x7f) := by
  induction fuel generalizing j with
  | zero =>
    have short := repeats.short
    exact ⟨repeats, Or.inr (Or.inr (by unfold repeatLoop; omega))⟩
  | succ fuel ih =>
    have after := repeats.after
    unfold repeatLoop
    by_cases next : j < src.size ∧ src.get i = src.get j ∧ j - i < 0x7f
    · rw [if_pos next]
      apply ih
      · refine ⟨by omega, by omega, by omega, ?_⟩
        intro k above below
        by_cases last : k = j
        · rw [last, next.2.1]
        · exact repeats.equal k above (by omega)
      · omega
    · rw [if_neg next]
      refine ⟨repeats, ?_⟩
      by_cases ended : j = src.size
      · exact Or.inl ended
      · right
        by_cases other : src.get j = src.get i
        · right
          have inside := repeats.inside
          have short := repeats.short
          by_contra more
          exact next ⟨by omega, other.symm, by omega⟩
        · exact Or.inl other

theorem repeatEnd_spec (below : i < src.size) :
    Repeats src i (repeatEnd src i) ∧
      (repeatEnd src i = src.size ∨ src.get (repeatEnd src i) ≠ src.get i ∨
        repeatEnd src i - i = 0x7f) := by
  apply repeatLoop_spec
  · refine ⟨by omega, by omega, by omega, ?_⟩
    intro k above under
    rw [show k = i by omega]
  · omega

theorem drop_eq_slice (order : i ≤ j) : src.slots.drop i = slice src i j ++ src.slots.drop j := by
  unfold slice
  rw [show src.slots.drop j = (src.slots.drop i).drop (j - i) by
    rw [List.drop_drop, Nat.add_sub_cancel' order], List.take_append_drop]

theorem slice_length (inside : j ≤ src.size) : (slice src i j).length = j - i := by
  unfold slice DmxBuffer.size at *
  rw [List.length_take, List.length_drop]
  omega

theorem slice_repeats (repeats : Repeats src i j) :
    slice src i j = List.replicate (j - i) (src.get i) := by
  rw [List.eq_replicate_iff]
  refine ⟨slice_length repeats.inside, ?_⟩
  intro value member
  obtain ⟨k, found⟩ := List.mem_iff_getElem?.mp member
  have below : k < j - i := by
    rw [← slice_length repeats.inside]
    exact (List.getElem?_eq_some_iff.mp found).1
  have inside := repeats.inside
  unfold slice at found
  rw [List.getElem?_take_of_lt below, List.getElem?_drop, get_eq (by omega), Option.some_inj] at found
  rw [← found]
  exact repeats.equal (i + k) (by omega) (by omega)

/-- Where a literal ends: at the end of the data, before three equal values, or at its
full length with three values to go. -/
inductive LiteralEnds (src : DmxBuffer) (i : Nat) : Nat → Prop where
  | atEnd : src.size - i ≤ 0x7f + 2 → (∀ k, i ≤ k → ¬ TripleAt src.slots k) →
      LiteralEnds src i src.size
  | atTriple (j : Nat) : i < j → j - i ≤ 0x7f → TripleAt src.slots j →
      (∀ k, i ≤ k → k < j → ¬ TripleAt src.slots k) → LiteralEnds src i j
  | full (j : Nat) : j = i + 0x7f → j + 3 ≤ src.size →
      (∀ k, i ≤ k → k < j → ¬ TripleAt src.slots k) → LiteralEnds src i j

/-- The loop stops at the last two values or at its full length. -/
theorem literal_stops {j : Nat} (size : 2 ≤ src.size) (short : j - i ≤ 0x7f)
    (stops : src.size - 2 ≤ j ∨ j = i + 0x7f)
    (plain : ∀ k, i ≤ k → k < j → ¬ TripleAt src.slots k) :
    LiteralEnds src i (if src.size - 2 ≤ j then src.size else j) := by
  by_cases ended : src.size - 2 ≤ j
  · rw [if_pos ended]
    apply LiteralEnds.atEnd
    · omega
    · intro k above triple
      by_cases before : k < j
      · exact plain k above before triple
      · have below := ((tripleAt_iff k).mp triple).1
        omega
  · rw [if_neg ended]
    exact LiteralEnds.full j (stops.resolve_left ended) (by omega) plain

theorem literalLoop_spec (fuel : Nat) (size : 2 ≤ src.size)
    (tail : tailStart src.size = src.size - 2) (after : i < j) (short : j - i ≤ 0x7f)
    (enough : 0x7f ≤ fuel + (j - i)) (plain : ∀ k, i ≤ k → k < j → ¬ TripleAt src.slots k) :
    LiteralEnds src i (if src.size - 2 ≤ literalLoop src i fuel j then src.size
      else literalLoop src i fuel j) := by
  induction fuel generalizing j with
  | zero =>
    unfold literalLoop
    exact literal_stops size short (Or.inr (by omega)) plain
  | succ fuel ih =>
    unfold literalLoop
    rw [tail]
    by_cases next : j < src.size - 2 ∧ j - i < 0x7f
    · rw [if_pos next, if_neg (by omega : ¬ j = src.size - 2)]
      by_cases same : src.get j = src.get (j + 1) ∧ src.get j = src.get (j + 2)
      · rw [if_pos same, if_neg (by omega : ¬ src.size - 2 ≤ j)]
        exact LiteralEnds.atTriple j after short
          ((tripleAt_iff j).mpr ⟨by omega, same⟩) plain
      · rw [if_neg same]
        apply ih (by omega) (by omega) (by omega)
        intro k above below triple
        by_cases last : k = j
        · subst last
          exact same ((tripleAt_iff k).mp triple).2
        · exact plain k above (by omega) triple
    · rw [if_neg next]
      exact literal_stops size short (by omega) plain

theorem literalEnd_spec (below : i < src.size) (plain : ¬ TripleAt src.slots i) :
    LiteralEnds src i (literalEnd src i) := by
  have bounded : src.size ≤ dmxUniverseSize := src.bounded
  unfold dmxUniverseSize at bounded
  unfold literalEnd
  by_cases single : src.size = 1
  · -- src_size - 2 wraps around, and the values behind the data read as zeros
    have first : i = 0 := by omega
    subst first
    have zero : ∀ k, 1 ≤ k → src.get k = 0 := by
      intro k above
      unfold DmxBuffer.get
      unfold DmxBuffer.size at single
      rw [List.getD_eq_getElem?_getD, List.getElem?_eq_none (by omega)]
      rfl
    have stop : literalLoop src 0 0x7f (0 + 1) = 1 := by
      unfold literalLoop
      rw [single]
      have equal : src.get (0 + 1) = src.get (0 + 1 + 1) ∧ src.get (0 + 1) = src.get (0 + 1 + 2) := by
        rw [zero _ (by omega), zero _ (by omega), zero _ (by omega)]
        exact ⟨rfl, rfl⟩
      rw [if_pos (by decide), if_neg (by decide), if_pos equal]
    rw [stop]
    have ends : LiteralEnds src 0 src.size := by
      apply LiteralEnds.atEnd
      · omega
      · intro k _ triple
        have inside := ((tripleAt_iff k).mp triple).1
        omega
    rw [single] at ends ⊢
    exact ends
  · have tail : tailStart src.size = src.size - 2 := by
      unfold tailStart
      omega
    rw [tail]
    apply literalLoop_spec 0x7f (by omega) tail (by omega) (by omega) (by omega)
    intro k above under
    rw [show k = i by omega]
    exact plain

theorem LiteralEnds.after (ends : LiteralEnds src i j) (below : i < src.size) :
    i < j ∧ j ≤ src.size := by
  cases ends with
  | atEnd => exact ⟨below, Nat.le_refl _⟩
  | atTriple _ after _ triple _ =>
    have inside := ((tripleAt_iff j).mp triple).1
    omega
  | full _ after inside _ => omega

theorem tripleAt_drop (k : Nat) :
    TripleAt (src.slots.drop i) k ↔ TripleAt src.slots (i + k) := by
  unfold TripleAt
  simp only [List.getElem?_drop, Nat.add_assoc]

theorem longTail_repeat (below : i < src.size) (many : 2 < repeatEnd src i - i) :
    LongTail (src.slots.drop i) ↔ LongTail (src.slots.drop (repeatEnd src i)) := by
  obtain ⟨repeats, ended⟩ := repeatEnd_spec below
  have same : tailLength (src.slots.drop i) = tailLength (src.slots.drop (repeatEnd src i)) := by
    rw [drop_eq_slice (Nat.le_of_lt repeats.after), slice_repeats repeats]
    apply tailLength_repeat many repeats.short
    rcases ended with last | other | full
    · left
      rw [last, DmxBuffer.size, List.drop_length]
      simp
    · left
      rw [List.head?_drop]
      intro head
      have inside : repeatEnd src i < src.size := (List.getElem?_eq_some_iff.mp head).1
      rw [get_eq inside, Option.some_inj] at head
      exact other head
    · exact Or.inr full
  unfold LongTail
  rw [same]

theorem not_tripleAt_of_repeatEnd (below : i < src.size) (few : ¬ 2 < repeatEnd src i - i) :
    ¬ TripleAt src.slots i := by
  intro triple
  obtain ⟨inside, second, third⟩ := (tripleAt_iff i).mp triple
  obtain ⟨repeats, ended⟩ := repeatEnd_spec below
  have after := repeats.after
  rcases ended with last | other | full
  · omega
  · have cases : repeatEnd src i = i + 1 ∨ repeatEnd src i = i + 2 := by omega
    rcases cases with one | two
    · rw [one] at other
      exact other second.symm
    · rw [two] at other
      exact other third.symm
  · omega

/-- A literal leaves it as it is, or is the end of it. -/
theorem longTail_literal (below : i < src.size) (ends : LiteralEnds src i j) :
    (j = src.size ∧ j - i ≤ 0x7f + 2 ∧ (∀ k, i ≤ k → ¬ TripleAt src.slots k) ∧
        (LongTail (src.slots.drop i) ↔ 0x7f < j - i)) ∨
      (j - i ≤ 0x7f ∧ (LongTail (src.slots.drop i) ↔ LongTail (src.slots.drop j))) := by
  have inside := ends.after below
  cases ends with
  | atEnd short plain =>
    left
    refine ⟨rfl, short, plain, ?_⟩
    have length : tailLength (src.slots.drop i) = src.size - i := by
      rw [tailLength_plain, List.length_drop]
      · rfl
      · intro k triple
        exact plain (i + k) (by omega) ((tripleAt_drop k).mp triple)
    unfold LongTail
    omega
  | atTriple _ after short triple plain =>
    right
    refine ⟨short, ?_⟩
    have same : tailLength (src.slots.drop i) = tailLength (src.slots.drop j) := by
      rw [drop_eq_slice (Nat.le_of_lt after)]
      apply tailLength_before_run
      · intro none
        have length := @slice_length src i j inside.2
        rw [none] at length
        simp only [List.length_nil] at length
        omega
      · exact (tripleAt_drop 0).mpr triple
      · intro k under
        rw [slice_length inside.2] at under
        rw [← drop_eq_slice (Nat.le_of_lt after), tripleAt_drop]
        exact plain (i + k) (by omega) (by omega)
    unfold LongTail
    rw [same]
  | full _ after more plain =>
    right
    refine ⟨by omega, ?_⟩
    rw [drop_eq_slice (Nat.le_of_lt inside.1)]
    apply longTail_full
    · rw [slice_length inside.2]
      omega
    · rw [List.length_drop]
      unfold DmxBuffer.size at more
      omega
    · intro k under
      rw [slice_length inside.2] at under
      rw [← drop_eq_slice (Nat.le_of_lt inside.1), tripleAt_drop]
      exact plain (i + k) (by omega) (by omega)

/-- Where the tail is not too long, a literal fits into a segment and leaves none that is. -/
theorem shortTail_literal (below : i < src.size) (ends : LiteralEnds src i j)
    (short : ¬ LongTail (src.slots.drop i)) : j - i ≤ 0x7f ∧ ¬ LongTail (src.slots.drop j) := by
  rcases longTail_literal below ends with ⟨last, _, _, long⟩ | ⟨within, same⟩
  · refine ⟨by rw [long] at short; omega, ?_⟩
    rw [last, DmxBuffer.size, List.drop_length]
    intro absent
    have none : 0x7f < 0 := absent.1
    omega
  · exact ⟨within, by rwa [← same]⟩

end OpenLighting.RunLengthEncoder
