import OpenLighting.RunLengthSegments

/- How many bytes the encoder needs, from the runs of equal values in a buffer. -/
namespace OpenLighting.RunLengthEncoder

open List

/-- The runs of equal values, each as long as it can be. -/
def runs : List UInt8 → List (UInt8 × Nat)
  | [] => []
  | value :: rest =>
    match runs rest with
    | [] => [(value, 1)]
    | (other, length) :: more =>
      if value = other then (value, length + 1) :: more
      else (value, 1) :: (other, length) :: more

/-- The bytes for values that are sent as they are: a header for up to `0x7f` of them. -/
def literalBytes (count : Nat) : Nat := count + (count + 0x7e) / 0x7f

/-- The bytes for a run of three or more: two for each repeat of up to `0x7f`. -/
def repeatBytes (length : Nat) : Nat :=
  2 * (length / 0x7f + if length % 0x7f < 3 then 0 else 1)

/-- The bytes for some runs behind values that are sent as they are. -/
def cost : Nat → List (UInt8 × Nat) → Nat
  | pending, [] => literalBytes pending
  | pending, (_, length) :: rest =>
    if length < 3 then cost (pending + length) rest
    else literalBytes pending + repeatBytes length + cost (leftover length) rest

/-- The number of bytes that the values need. -/
def encodedLength (slots : List UInt8) : Nat := cost 0 (runs slots)

section Runs
variable {value : UInt8} {slots rest : List UInt8} {length : Nat} {more : List (UInt8 × Nat)}

theorem runs_cons_same (known : runs rest = (value, length) :: more) :
    runs (value :: rest) = (value, length + 1) :: more := by
  rw [runs, known]
  exact if_pos rfl

theorem runs_cons_other {other : UInt8} (known : runs rest = (other, length) :: more)
    (different : value ≠ other) : runs (value :: rest) = (value, 1) :: runs rest := by
  rw [runs, known]
  exact if_neg different

theorem runs_split (known : runs slots = (value, length) :: more) :
    ∃ rest, slots = List.replicate length value ++ rest ∧ 0 < length ∧
      rest.head? ≠ some value ∧ runs rest = more := by
  induction slots generalizing value length more with
  | nil => cases known
  | cons first others ih =>
    cases next : runs others with
    | nil =>
      rw [runs, next] at known
      cases known
      cases others with
      | nil => exact ⟨[], rfl, Nat.one_pos, by simp, rfl⟩
      | cons second others =>
        rw [runs] at next
        split at next
        · cases next
        · split at next <;> cases next
    | cons run others' =>
      obtain ⟨other, count⟩ := run
      obtain ⟨rest, split, positive, ended, following⟩ := ih next
      by_cases same : first = other
      · subst same
        rw [runs_cons_same next] at known
        cases known
        exact ⟨rest, by rw [split]; rfl, Nat.succ_pos count, ended, following⟩
      · rw [runs_cons_other next same, next] at known
        cases known
        refine ⟨others, rfl, Nat.one_pos, ?_, next⟩
        obtain ⟨count, rfl⟩ := Nat.exists_eq_succ_of_ne_zero (Nat.ne_of_gt positive)
        rw [split, replicate_succ]
        intro head
        exact same (Option.some.inj head).symm

theorem runs_ne_nil (first : UInt8) (others : List UInt8) :
    ∃ length more, runs (first :: others) = (first, length) :: more := by
  rw [runs]
  split
  · exact ⟨1, [], rfl⟩
  · split
    · exact ⟨_, _, rfl⟩
    · exact ⟨_, _, rfl⟩

theorem runs_replicate (known : runs rest = (value, length) :: more) (count : Nat) :
    runs (List.replicate count value ++ rest) = (value, length + count) :: more := by
  induction count with
  | zero => exact known
  | succ count ih =>
    rw [replicate_succ, cons_append, runs_cons_same ih]
    rfl

theorem runs_replicate_other (ended : rest.head? ≠ some value) {count : Nat} (some : 0 < count) :
    runs (List.replicate count value ++ rest) = (value, count) :: runs rest := by
  obtain ⟨count, rfl⟩ := Nat.exists_eq_succ_of_ne_zero (Nat.ne_of_gt some)
  have one : runs (value :: rest) = (value, 1) :: runs rest := by
    cases rest with
    | nil => rfl
    | cons other others =>
      obtain ⟨length, more, known⟩ := runs_ne_nil other others
      apply runs_cons_other known
      intro same
      rw [same] at ended
      exact ended rfl
  have shape : List.replicate count.succ value ++ rest =
      List.replicate count value ++ value :: rest := by
    rw [replicate_succ', append_assoc]
    rfl
  rw [shape, runs_replicate one, Nat.add_comm 1 count]

theorem tripleAt_zero_iff (known : runs slots = (value, length) :: more) :
    TripleAt slots 0 ↔ 3 ≤ length := by
  obtain ⟨rest, rfl, positive, ended, _⟩ := runs_split known
  constructor
  · intro triple
    obtain ⟨other, first, second, third⟩ := triple
    by_contra short
    have cases : length = 1 ∨ length = 2 := by omega
    apply ended
    rcases cases with rfl | rfl
    · simp only [replicate_one, singleton_append, List.getElem?_cons_zero,
        List.getElem?_cons_succ, Nat.zero_add] at first second
      rw [List.head?_eq_getElem?, second, first]
    · simp only [replicate_succ, replicate_zero, cons_append, nil_append,
        List.getElem?_cons_zero, List.getElem?_cons_succ, Nat.zero_add] at first third
      rw [List.head?_eq_getElem?, third, first]
  · intro long
    have read (index : Nat) (below : index < length) :
        (List.replicate length value ++ rest)[index]? = some value := by
      rw [List.getElem?_append_left (by rw [length_replicate]; exact below),
        List.getElem?_replicate_of_lt below]
    exact ⟨value, read 0 (by omega), read 1 (by omega), read 2 (by omega)⟩

end Runs

theorem literalBytes_full (count : Nat) : literalBytes (0x7f + count) = 0x80 + literalBytes count := by
  unfold literalBytes
  omega

/-- A full literal in front costs its values and a header. -/
theorem cost_full (pending : Nat) (following : List (UInt8 × Nat)) :
    cost (0x7f + pending) following = 0x80 + cost pending following := by
  induction following generalizing pending with
  | nil => exact literalBytes_full pending
  | cons run rest ih =>
    rw [cost, cost]
    split
    · rw [Nat.add_assoc, ih]
    · rw [literalBytes_full]
      omega

/-- A repeat of full length leaves the rest of its run. -/
theorem cost_repeat_full (value : UInt8) (length : Nat) (more : List (UInt8 × Nat)) :
    cost 0 ((value, length + 0x7f) :: more) = 2 + cost 0 ((value, length) :: more) := by
  have quotient : (length + 0x7f) / 0x7f = length / 0x7f + 1 := by omega
  have remainder : (length + 0x7f) % 0x7f = length % 0x7f := by omega
  have none : literalBytes 0 = 0 := rfl
  rw [cost, cost, if_neg (by omega), repeatBytes, leftover, quotient, remainder, none]
  by_cases short : length < 3
  · have same : length % 0x7f = length := by omega
    have zero : length / 0x7f = 0 := by omega
    rw [if_pos short, same, if_pos short, if_pos short, zero]
    simp
  · rw [if_neg short, repeatBytes, leftover]
    omega

/-- Values without a triple wait to be sent as they are. -/
theorem cost_literal (pending : Nat) {lit rest : List UInt8}
    (plain : ∀ index < lit.length, ¬ TripleAt (lit ++ rest) index) :
    cost pending (runs (lit ++ rest)) = cost (pending + lit.length) (runs rest) := by
  induction lit generalizing pending with
  | nil => rfl
  | cons first lit ih =>
    have later : ∀ index < lit.length, ¬ TripleAt (lit ++ rest) index := by
      intro index below triple
      exact plain (index + 1) (Nat.succ_lt_succ below) triple
    have next := ih (pending + 1) later
    rw [length_cons, Nat.add_comm lit.length 1, ← Nat.add_assoc, ← next, cons_append]
    cases known : runs (lit ++ rest) with
    | nil =>
      rw [runs, known]
      rfl
    | cons run more =>
      obtain ⟨other, length⟩ := run
      by_cases same : first = other
      · subst same
        have longer := runs_cons_same known
        have short : ¬ 3 ≤ length + 1 :=
          fun long => plain 0 (Nat.succ_pos _) ((tripleAt_zero_iff longer).mpr long)
        rw [longer, cost, cost, if_pos (by omega), if_pos (by omega), Nat.add_assoc,
          Nat.add_comm 1 length]
      · rw [runs_cons_other known same, cost, if_pos (by decide), known]

section Encoder
variable {src : DmxBuffer} {i : Nat}

theorem encodedLength_repeat (below : i < src.size) (many : 2 < repeatEnd src i - i) :
    encodedLength (src.slots.drop i) = 2 + encodedLength (src.slots.drop (repeatEnd src i)) := by
  obtain ⟨repeats, ended⟩ := repeatEnd_spec below
  have short := repeats.short
  have after := repeats.after
  unfold encodedLength
  rw [drop_eq_slice (Nat.le_of_lt after), slice_repeats repeats]
  by_cases boundary : (src.slots.drop (repeatEnd src i)).head? = some (src.get i)
  · -- The run goes on behind a repeat of full length.
    have full : repeatEnd src i - i = 0x7f := by
      rcases ended with last | other | full
      · rw [last, DmxBuffer.size, drop_length] at boundary
        cases boundary
      · rw [List.head?_drop] at boundary
        have inside : repeatEnd src i < src.size := (List.getElem?_eq_some_iff.mp boundary).1
        rw [get_eq inside, Option.some_inj] at boundary
        exact absurd boundary other
      · exact full
    obtain ⟨others, following⟩ := List.head?_eq_some_iff.mp boundary
    obtain ⟨length, more, known⟩ := runs_ne_nil (src.get i) others
    rw [← following] at known
    rw [runs_replicate known, known, full, cost_repeat_full]
  · have two : repeatBytes (repeatEnd src i - i) = 2 := by
      unfold repeatBytes
      split <;> omega
    have none : leftover (repeatEnd src i - i) = 0 := by
      unfold leftover
      split <;> omega
    rw [runs_replicate_other boundary (by omega), cost, if_neg (by omega), two, none]
    rfl

theorem encodedLength_literal {j : Nat} (below : i < src.size) (ends : LiteralEnds src i j)
    (short : j - i ≤ 0x7f) :
    encodedLength (src.slots.drop i) = 1 + (j - i) + encodedLength (src.slots.drop j) := by
  have after := ends.after below
  have length : (slice src i j).length = j - i := slice_length after.2
  have split : src.slots.drop i = slice src i j ++ src.slots.drop j :=
    drop_eq_slice (Nat.le_of_lt after.1)
  have plain : ∀ index < (slice src i j).length,
      ¬ TripleAt (slice src i j ++ src.slots.drop j) index := by
    intro index inside
    rw [← split, tripleAt_drop]
    cases ends with
    | atEnd _ none => exact none (i + index) (Nat.le_add_right i index)
    | atTriple _ _ _ _ none | full _ _ _ none =>
      exact none (i + index) (Nat.le_add_right i index) (by omega)
  unfold encodedLength
  rw [split, cost_literal 0 plain, length, Nat.zero_add]
  have literal : literalBytes (j - i) = 1 + (j - i) := by
    unfold literalBytes
    omega
  cases ends with
  | atEnd =>
    rw [DmxBuffer.size, drop_length]
    exact literal
  | atTriple _ _ _ triple =>
    have here : TripleAt (src.slots.drop j) 0 := by rwa [tripleAt_drop]
    obtain ⟨value, first, _, _⟩ := here
    obtain ⟨others, following⟩ := List.head?_eq_some_iff.mp (List.head?_eq_getElem? ▸ first)
    obtain ⟨run, more, known⟩ := runs_ne_nil value others
    rw [← following] at known
    have long := (tripleAt_zero_iff known).mp (by rwa [tripleAt_drop])
    rw [known, cost, cost, if_neg (by omega), if_neg (by omega), literal]
    have none : literalBytes 0 = 0 := rfl
    omega
  | full _ last =>
    have full : j - i = 0x7f + 0 := by omega
    rw [full, cost_full]

theorem encodedLength_pos (below : i < src.size) : 0 < encodedLength (src.slots.drop i) := by
  by_cases many : 2 < repeatEnd src i - i
  · rw [encodedLength_repeat below many]
    omega
  · have plain : ∀ index < (slice src i (i + 1)).length,
        ¬ TripleAt (slice src i (i + 1) ++ src.slots.drop (i + 1)) index := by
      intro index inside
      rw [slice_length (by omega)] at inside
      rw [← drop_eq_slice (Nat.le_succ i), tripleAt_drop, show i + index = i by omega]
      exact not_tripleAt_of_repeatEnd below many
    unfold encodedLength
    rw [drop_eq_slice (Nat.le_succ i), cost_literal 0 plain, slice_length (by omega)]
    have positive (pending : Nat) (following : List (UInt8 × Nat)) :
        0 < cost (pending + 1) following := by
      induction following generalizing pending with
      | nil =>
        unfold cost literalBytes
        omega
      | cons run rest ih =>
        rw [cost]
        split
        · rw [Nat.add_right_comm]
          exact ih _
        · unfold literalBytes
          omega
    rw [show 0 + (i + 1 - i) = 0 + 1 by omega]
    exact positive 0 _

/-- An encoder that stops for want of room. -/
theorem incomplete_length {needed dstSize length : Nat} (bytes : List UInt8)
    (lacks : ¬ needed ≤ dstSize) :
    ((false, bytes).1 = true ↔ needed ≤ dstSize) ∧
      ((false, bytes).1 = true → (false, bytes).2.length = length) := by
  have never : ¬ (false, bytes).1 = true := Bool.false_ne_true
  exact ⟨iff_of_false never lacks, fun complete => absurd complete never⟩

/-- The encoder gets to the end if there is room for that many bytes, and writes them. -/
theorem encodeLoop_length {dstSize dstIndex fuel : Nat} (inside : i ≤ src.size)
    (enough : src.size - i < fuel) (within : dstIndex ≤ dstSize)
    (short : ¬ LongTail (src.slots.drop i)) :
    ((encodeLoop src dstSize fuel i dstIndex).1 = true ↔
        dstIndex + encodedLength (src.slots.drop i) ≤ dstSize) ∧
      ((encodeLoop src dstSize fuel i dstIndex).1 = true →
        (encodeLoop src dstSize fuel i dstIndex).2.length =
          encodedLength (src.slots.drop i)) := by
  induction fuel generalizing i dstIndex with
  | zero => omega
  | succ fuel ih =>
    unfold encodeLoop
    by_cases more : i < src.size ∧ dstIndex < dstSize
    · rw [if_pos more]
      dsimp only
      by_cases many : 2 < repeatEnd src i - i
      · have repeats := (repeatEnd_spec more.1).1
        have after := repeats.after
        have length := encodedLength_repeat more.1 many
        have tail : ¬ LongTail (src.slots.drop (repeatEnd src i)) := by
          rwa [← longTail_repeat more.1 many]
        rw [if_pos many]
        by_cases room : 1 < dstSize - dstIndex
        · have later := @ih (repeatEnd src i) (dstIndex + 2) repeats.inside (by omega) (by omega)
            tail
          rw [if_pos room, length]
          refine ⟨by rw [later.1]; omega, ?_⟩
          intro complete
          rw [length_cons, length_cons, later.2 complete]
          omega
        · rw [if_neg room, length]
          exact incomplete_length _ (by omega)
      · have ends := literalEnd_spec more.1 (not_tripleAt_of_repeatEnd more.1 many)
        have after := ends.after more.1
        have tail := shortTail_literal more.1 ends short
        have length := encodedLength_literal more.1 ends tail.1
        rw [if_neg many]
        by_cases room : dstIndex + (literalEnd src i - i) < dstSize
        · have later := @ih (literalEnd src i) (dstIndex + 1 + (literalEnd src i - i)) after.2
            (by omega) (by omega) tail.2
          rw [if_pos room, length]
          refine ⟨by rw [later.1]; omega, ?_⟩
          intro complete
          rw [length_cons, length_append, slice_length after.2, later.2 complete]
          omega
        · rw [if_neg room, length]
          split
          · exact incomplete_length _ (by omega)
          · exact incomplete_length _ (by omega)
    · rw [if_neg more]
      by_cases ended : i = src.size
      · have none : encodedLength (src.slots.drop i) = 0 := by
          rw [ended, DmxBuffer.size, drop_length]
          rfl
        rw [none]
        exact ⟨⟨fun _ => within, fun _ => decide_eq_true (by omega)⟩, fun _ => rfl⟩
      · have positive := @encodedLength_pos src i (by omega)
        have incomplete : decide (src.size ≤ i) = false := decide_eq_false (by omega)
        rw [incomplete]
        exact incomplete_length _ (by omega)

/-- The encoder stays within its destination. -/
theorem encodeLoop_bounded {dstSize dstIndex : Nat} (fuel : Nat) (within : dstIndex ≤ dstSize) :
    dstIndex + (encodeLoop src dstSize fuel i dstIndex).2.length ≤ dstSize := by
  induction fuel generalizing i dstIndex with
  | zero => exact within
  | succ fuel ih =>
    have sliced (j : Nat) : (slice src i j).length ≤ j - i := by
      unfold slice
      rw [length_take]
      omega
    unfold encodeLoop
    dsimp only
    split
    · split
      · split
        · have later := @ih (repeatEnd src i) (dstIndex + 2) (by omega)
          rw [length_cons, length_cons]
          omega
        · exact within
      · split
        · have later := @ih (literalEnd src i) (dstIndex + 1 + (literalEnd src i - i)) (by omega)
          have values := sliced (literalEnd src i)
          rw [length_cons, length_append]
          omega
        · split
          · have values := sliced (i + (dstSize - dstIndex - 1))
            rw [length_cons]
            omega
          · exact within
    · exact within

theorem encode_bounded (src : DmxBuffer) (dstSize : Nat) :
    (encode src dstSize).2.length ≤ dstSize := by
  have within := @encodeLoop_bounded src 0 dstSize 0 (src.size + 1) (Nat.zero_le _)
  rwa [Nat.zero_add] at within

theorem encode_length {dstSize : Nat} (short : ¬ LongTail src.slots) :
    ((encode src dstSize).1 = true ↔ encodedLength src.slots ≤ dstSize) ∧
      ((encode src dstSize).1 = true →
        (encode src dstSize).2.length = encodedLength src.slots) := by
  have whole := @encodeLoop_length src 0 dstSize 0 (src.size + 1) (Nat.zero_le _) (by omega)
    (Nat.zero_le _) short
  rwa [Nat.zero_add] at whole

end Encoder

end OpenLighting.RunLengthEncoder
