import OpenLighting.RunLengthLength
import OpenLighting.RunLengthOverlong

/- What goes wrong with encoded data: it is decoded to something else if it is incomplete or has a
long tail, and it is never the data that was encoded. -/
namespace OpenLighting.RunLengthEncoder

variable {src : DmxBuffer} {dstSize i dstIndex : Nat}

/-- A buffer with some of the values only. -/
theorem not_restored_part {count : Nat} (below : count < src.size) :
    ¬ Restored src.slots (written (opposite src) (src.slots.take count)) := by
  intro restored
  exact (missing_opposite (Nat.le_of_lt below)).differs count (Nat.le_refl count) below
    (restored count below)

variable {steps fuel : Nat} {result : DmxBuffer}

theorem not_restored_nil (below : i < src.size)
    (decoded : decodeLoop steps i [] (written (opposite src) (src.slots.take i)) = some result) :
    ¬ Restored src.slots result := by
  cases steps with
  | zero => cases decoded
  | succ steps =>
    cases decoded
    exact not_restored_part below

/-- The end of a literal that did not fit. -/
theorem not_restored_cut {length : Nat} (some : 0 < length) (short : length ≤ 0x7f + 1)
    (cut : i + length < src.size) (plain : 0x7f < length → ∀ k, i ≤ k → ¬ TripleAt src.slots k)
    (decoded : decodeLoop steps i (UInt8.ofNat length :: slice src i (i + length))
      (written (opposite src) (src.slots.take i)) = .some result) :
    ¬ Restored src.slots result := by
  by_cases flagged : 0x7f < length
  · -- The header is taken for a repeat of no value.
    have full : length = 128 := by omega
    intro restored
    have plain := plain flagged
    have values : (slice src i (i + length)).length = length := by
      rw [slice_length (by omega)]
      omega
    have restores : Restores src.slots i (UInt8.ofNat length :: slice src i (i + length)) result :=
      ⟨steps, _, missing_opposite (by omega), decoded⟩
    have more : i < src.slots.length := by
      unfold DmxBuffer.size at cut
      omega
    generalize headed : UInt8.ofNat length :: slice src i (i + length) = bytes at restores
    cases restores_segment src.bounded (plain i (Nat.le_refl i)) more restored restores with
    | literal header bytes rest _ flag =>
      have same : header = UInt8.ofNat length := (List.cons.inj headed).1.symm
      rw [same, full] at flag
      exact absurd (by decide) flag
    | repeats header value rest flag _ _ later =>
      obtain ⟨head, tail⟩ := List.cons.inj headed
      rw [full] at head
      subst head
      have left := restores_length src.bounded (fun k above => plain k (by omega)) restored later
      have zero : (UInt8.ofNat 128 &&& ~~~repeatFlag).toNat = 0 := by decide
      have size := congrArg List.length tail
      rw [values, List.length_cons] at size
      unfold DmxBuffer.size at cut
      rw [zero] at left
      omega
  · cases steps with
    | zero => cases decoded
    | succ steps =>
      have literal := @decodeLoop_encoded_literal src (opposite src) i (i + length) steps []
        (by omega) (by omega) (by omega)
      rw [List.append_nil, Nat.add_sub_cancel_left] at literal
      rw [literal] at decoded
      exact not_restored_nil cut decoded

/-- An encoding that stops, or that has a long tail, is decoded to something else. -/
theorem encodeLoop_not_restored (inside : i ≤ src.size) (enough : src.size - i < fuel)
    (wrong : (encodeLoop src dstSize fuel i dstIndex).1 = false ∨ LongTail (src.slots.drop i))
    (decoded : decodeLoop steps i (encodeLoop src dstSize fuel i dstIndex).2
      (written (opposite src) (src.slots.take i)) = some result) :
    ¬ Restored src.slots result := by
  induction fuel generalizing i dstIndex steps with
  | zero => omega
  | succ fuel ih =>
    unfold encodeLoop at wrong decoded
    by_cases more : i < src.size ∧ dstIndex < dstSize
    · rw [if_pos more] at wrong decoded
      dsimp only at wrong decoded
      by_cases many : 2 < repeatEnd src i - i
      · have repeats := (repeatEnd_spec more.1).1
        have after := repeats.after
        rw [if_pos many] at wrong decoded
        by_cases room : 1 < dstSize - dstIndex
        · rw [if_pos room] at wrong decoded
          rw [longTail_repeat more.1 many] at wrong
          cases steps with
          | zero => cases decoded
          | succ steps =>
            rw [decodeLoop_encoded_repeat repeats] at decoded
            exact ih repeats.inside (by omega) wrong decoded
        · rw [if_neg room] at decoded
          exact not_restored_nil more.1 decoded
      · have ends := literalEnd_spec more.1 (not_tripleAt_of_repeatEnd more.1 many)
        have after := ends.after more.1
        have tail := longTail_literal more.1 ends
        rw [if_neg many] at wrong decoded
        by_cases room : dstIndex + (literalEnd src i - i) < dstSize
        · rw [if_pos room] at wrong decoded
          by_cases within : literalEnd src i - i ≤ 0x7f
          · have later : (encodeLoop src dstSize fuel (literalEnd src i)
                (dstIndex + 1 + (literalEnd src i - i))).1 = false ∨
                LongTail (src.slots.drop (literalEnd src i)) := by
              apply wrong.imp id
              intro long
              rcases tail with ⟨_, _, _, overlong⟩ | ⟨_, same⟩
              · exact absurd (overlong.mp long) (by omega)
              · exact same.mp long
            cases steps with
            | zero => cases decoded
            | succ steps =>
              rw [decodeLoop_encoded_literal after.1 after.2 within] at decoded
              exact ih after.2 (by omega) later decoded
          · obtain ⟨last, most, plain, _⟩ := tail.resolve_right (fun other => within other.1)
            have rest : src.slots.drop i = slice src i (literalEnd src i) := by
              rw [drop_eq_slice (Nat.le_of_lt after.1), last, DmxBuffer.size, List.drop_length,
                List.append_nil]
            have length : (slice src i (literalEnd src i)).length = literalEnd src i - i :=
              slice_length after.2
            rw [encodeLoop_ended (by omega) (by omega), List.append_nil, ← length] at decoded
            apply overlong_not_restored src.bounded plain rest
            · rw [length]
              omega
            · rw [length]
              exact most
            · exact ⟨steps, _, missing_opposite inside, decoded⟩
        · rw [if_neg room] at decoded
          by_cases some : 1 < dstSize - dstIndex
          · rw [if_pos some] at decoded
            apply not_restored_cut (by omega) (by omega) (by omega) _ decoded
            intro long
            exact (tail.resolve_right (fun other => by omega)).2.2.1
          · rw [if_neg some] at decoded
            exact not_restored_nil more.1 decoded
    · rw [if_neg more] at wrong decoded
      have below : i < src.size := by
        rcases wrong with incomplete | long
        · exact not_le.mp (of_decide_eq_false incomplete)
        · by_contra ended
          have last : i = src.size := by omega
          rw [last, DmxBuffer.size, List.drop_length] at long
          have none : 0x7f < 0 := long.1
          omega
      exact not_restored_nil below decoded

/-! ### Encoded data is not the data -/

/-- The next segment, where there is room for any. -/
inductive Writes (src : DmxBuffer) (dstSize fuel i dstIndex : Nat) : List UInt8 → Prop where
  | repeats : 2 < repeatEnd src i - i →
      Writes src dstSize fuel i dstIndex ((repeatFlag ||| UInt8.ofNat (repeatEnd src i - i)) ::
        src.get i :: (encodeLoop src dstSize fuel (repeatEnd src i) (dstIndex + 2)).2)
  | literal (rest : List UInt8) : LiteralEnds src i (literalEnd src i) → ¬ TripleAt src.slots i →
      Writes src dstSize fuel i dstIndex
        (UInt8.ofNat (literalEnd src i - i) :: (slice src i (literalEnd src i) ++ rest))

theorem literalEnds_length {j : Nat} (ends : LiteralEnds src i j) : j - i ≤ 0x7f + 2 := by
  cases ends with
  | atEnd short => exact short
  | atTriple _ _ short | full => omega

theorem encodeLoop_writes {fuel : Nat} (below : i < src.size)
    (room : dstIndex + 0x83 ≤ dstSize) :
    Writes src dstSize fuel i dstIndex (encodeLoop src dstSize (fuel + 1) i dstIndex).2 := by
  unfold encodeLoop
  rw [if_pos ⟨below, by omega⟩]
  dsimp only
  by_cases many : 2 < repeatEnd src i - i
  · rw [if_pos many, if_pos (by omega)]
    exact Writes.repeats many
  · have plain := not_tripleAt_of_repeatEnd below many
    have ends := literalEnd_spec below plain
    have short := literalEnds_length ends
    rw [if_neg many, if_pos (by omega)]
    exact Writes.literal _ ends plain

/-- A literal has no header of a repeat of three or more. -/
theorem header_ne {literal repeats : Nat} (short : literal ≤ 0x7f + 2) (many : 2 < repeats)
    (most : repeats ≤ 0x7f) : UInt8.ofNat literal ≠ repeatFlag ||| UInt8.ofNat repeats := by
  intro same
  have header := repeat_header most
  rw [← same] at header
  have cases : literal ≤ 0x7f ∨ literal = 128 ∨ literal = 129 := by omega
  rcases cases with within | rfl | rfl
  · exact (literal_header within).1 header.1
  · have zero : (UInt8.ofNat 128 &&& ~~~repeatFlag).toNat = 0 := by decide
    omega
  · have one : (UInt8.ofNat 129 &&& ~~~repeatFlag).toNat = 1 := by decide
    omega

theorem repeat_header_inj {first second : Nat} (left : first ≤ 0x7f) (right : second ≤ 0x7f)
    (same : repeatFlag ||| UInt8.ofNat first = repeatFlag ||| UInt8.ofNat second) :
    first = second := by
  rw [← (repeat_header left).2, same, (repeat_header right).2]

theorem repeats_full (count : Nat) (inside : i ≤ src.size) (enough : src.size - i < fuel)
    (room : dstIndex + 2 * count + 0x83 ≤ dstSize)
    (full : ∀ k < 2 * count, (encodeLoop src dstSize fuel i dstIndex).2[k]? = some 0xff) :
    i + 0x7f * count ≤ src.size := by
  induction count generalizing i dstIndex fuel with
  | zero => omega
  | succ count ih =>
    obtain ⟨fuel, rfl⟩ := Nat.exists_eq_succ_of_ne_zero (by omega : fuel ≠ 0)
    have first := full 0 (by omega)
    by_cases below : i < src.size
    · have writes := @encodeLoop_writes src dstSize i dstIndex fuel below (by omega)
      generalize written : (encodeLoop src dstSize fuel.succ i dstIndex).2 = bytes at writes full first
      have eq : (0xff : UInt8) = repeatFlag ||| UInt8.ofNat 0x7f := by decide
      cases writes with
      | repeats many =>
        have repeats := (repeatEnd_spec below).1
        have short := repeats.short
        rw [List.getElem?_cons_zero, Option.some_inj, eq] at first
        have length := repeat_header_inj short (Nat.le_refl _) first
        have later := @ih (repeatEnd src i) (dstIndex + 2) fuel repeats.inside (by omega)
          (by omega) (fun k below => full (k + 2) (by omega))
        omega
      | literal rest ends =>
        rw [List.getElem?_cons_zero, Option.some_inj, eq] at first
        exact absurd first (header_ne (literalEnds_length ends) (by decide) (Nat.le_refl _))
    · rw [encodeLoop_ended (by omega) (Nat.succ_ne_zero fuel)] at first
      cases first

/-- A literal at the start is not its own encoding. -/
theorem literal_ne {rest : List UInt8} (some : 0 < src.size)
    (ends : LiteralEnds src 0 (literalEnd src 0)) (plain : ¬ TripleAt src.slots 0) :
    UInt8.ofNat (literalEnd src 0 - 0) :: (slice src 0 (literalEnd src 0) ++ rest) ≠
      src.slots := by
  intro same
  have after := ends.after some
  have length : (slice src 0 (literalEnd src 0)).length = literalEnd src 0 := by
    rw [slice_length after.2, Nat.sub_zero]
  have size : 1 + literalEnd src 0 ≤ src.size := by
    unfold DmxBuffer.size
    rw [← same, List.length_cons, List.length_append, length]
    omega
  have next (k : Nat) (below : k < literalEnd src 0) : src.get (k + 1) = src.get k := by
    have read := congrArg (fun bytes : List UInt8 => bytes[k + 1]?) same
    rw [List.getElem?_cons_succ, List.getElem?_append_left (by rw [length]; exact below), slice,
      List.drop_zero, List.getElem?_take_of_lt (by omega), get_eq (by omega), get_eq (by omega),
      Option.some_inj] at read
    exact read.symm
  have one := next 0 (by omega)
  apply plain
  rw [tripleAt_iff]
  by_cases single : literalEnd src 0 = 1
  · rw [single] at ends size
    generalize stop : 1 = j at ends
    cases ends with
    | atEnd | full _ last => omega
    | atTriple _ _ _ triple =>
      subst stop
      obtain ⟨inside, second, third⟩ := (tripleAt_iff 1).mp triple
      exact ⟨by omega, one.symm, by rw [← one]; exact second⟩
  · have two := next 1 (by omega)
    exact ⟨by omega, one.symm, by rw [← one, ← two]⟩

/-- Behind the header of any segment is its first value. -/
theorem Writes.second {bytes : List UInt8} (writes : Writes src dstSize fuel i dstIndex bytes)
    (below : i < src.size) :
    bytes[1]? = some (src.get i) := by
  cases writes with
  | repeats => rfl
  | literal rest ends _ =>
    have after := ends.after below
    rw [List.getElem?_cons_succ,
      List.getElem?_append_left (by rw [slice_length after.2]; omega), slice,
      List.getElem?_take_of_lt (by omega), List.getElem?_drop]
    exact get_eq below

theorem Writes.length_pos {bytes : List UInt8} (writes : Writes src dstSize fuel i dstIndex bytes) :
    0 < bytes.length := by
  cases writes with
  | repeats | literal => exact List.length_pos_iff.mpr (List.cons_ne_nil _ _)

theorem encode_pos (some : 0 < src.size) (room : 0x100 ≤ dstSize) :
    0 < (encode src dstSize).2.length :=
  (@encodeLoop_writes src dstSize 0 0 src.size some (by omega)).length_pos

/-- Some bytes are those of the data from an index on. -/
def SameFrom (src : DmxBuffer) (offset : Nat) (bytes : List UInt8) : Prop :=
  ∀ k, offset + k < src.size → bytes[k]? = some (src.get (offset + k))

/-- After a repeat whose header is its value, there is one of the same length. -/
theorem second_repeat {m : Nat} (repeats : Repeats src 0 m) (many : 2 < m)
    (header : repeatFlag ||| UInt8.ofNat m = src.get 0) (below : m < src.size)
    (room : 0x100 ≤ dstSize) (same : SameFrom src 2 (encodeLoop src dstSize (fuel + 1) m 2).2) :
    repeatEnd src m = m + m ∧ src.get m = src.get 3 ∧
      SameFrom src 4 (encodeLoop src dstSize fuel (m + m) 4).2 := by
  have short := repeats.short
  have writes := @encodeLoop_writes src dstSize m 2 fuel below (by omega)
  generalize (encodeLoop src dstSize (fuel + 1) m 2).2 = bytes at writes same
  have first := same 0 (by omega)
  have second := same 1 (by omega)
  rw [repeats.equal (2 + 0) (by omega) (by omega), ← header] at first
  rw [writes.second below, Option.some_inj] at second
  cases writes with
  | literal rest ends _ =>
    rw [List.getElem?_cons_zero, Option.some_inj] at first
    exact absurd first (header_ne (literalEnds_length ends) many short)
  | repeats again =>
    have next := (repeatEnd_spec below).1
    rw [List.getElem?_cons_zero, Option.some_inj] at first
    have length := repeat_header_inj next.short short first
    have stop : repeatEnd src m = m + m := by omega
    refine ⟨stop, second, ?_⟩
    intro k inside
    have later := same (k + 2) (by omega)
    rw [List.getElem?_cons_succ, List.getElem?_cons_succ, stop] at later
    rw [later, show 2 + (k + 2) = 4 + k by omega]

/-- Two runs of three: the third segment would start with the value of the second. -/
theorem not_threes (repeats : Repeats src 0 3) (header : repeatFlag ||| UInt8.ofNat 3 = src.get 0)
    (below : 3 < src.size) (room : 0x100 ≤ dstSize) (enough : src.size ≤ fuel + 1)
    (same : SameFrom src 2 (encodeLoop src dstSize (fuel + 1) 3 2).2) : False := by
  obtain ⟨six, _, same⟩ := second_repeat repeats (by decide) header below room same
  obtain ⟨next, ended⟩ := repeatEnd_spec below
  have inside := next.inside
  rw [six] at next ended inside
  by_cases more : 6 < src.size
  · obtain ⟨fuel, rfl⟩ := Nat.exists_eq_succ_of_ne_zero (by omega : fuel ≠ 0)
    have second := same 1 (by omega)
    rw [(@encodeLoop_writes src dstSize 6 4 fuel more (by omega)).second more,
      next.equal (4 + 1) (by omega) (by omega), Option.some_inj] at second
    rcases ended with last | other | full
    · omega
    · exact other second
    · omega
  · have first := same 0 (by omega)
    rw [encodeLoop_ended (by omega) (by omega)] at first
    cases first

/-- Encoded data is never the data itself. -/
theorem encode_ne (some : 0 < src.size) (room : 0x100 ≤ dstSize) :
    (encode src dstSize).2 ≠ src.slots := by
  intro equal
  have bounded : src.size ≤ dmxUniverseSize := src.bounded
  unfold dmxUniverseSize at bounded
  unfold encode at equal
  have whole : SameFrom src 0 (encodeLoop src dstSize (src.size + 1) 0 0).2 := by
    intro k below
    rw [equal, Nat.zero_add]
    exact get_eq (by omega)
  have writes := @encodeLoop_writes src dstSize 0 0 src.size some (by omega)
  generalize written : (encodeLoop src dstSize (src.size + 1) 0 0).2 = bytes at writes equal
  cases writes with
  | literal rest ends plain => exact literal_ne some ends plain equal
  | repeats many =>
    obtain ⟨repeats, ended⟩ := repeatEnd_spec some
    have short := repeats.short
    have inside := repeats.inside
    have start := whole
    rw [written] at whole
    generalize repeatEnd src 0 = m at many repeats ended short inside whole
    obtain ⟨fuel, size⟩ := Nat.exists_eq_succ_of_ne_zero (Nat.ne_of_gt some)
    have header : repeatFlag ||| UInt8.ofNat m = src.get 0 :=
      Option.some.inj (whole 0 (by omega))
    have same : SameFrom src 2 (encodeLoop src dstSize (fuel + 1) m 2).2 := by
      intro k below
      have read := whole (k + 2) (by omega)
      rw [List.getElem?_cons_succ, List.getElem?_cons_succ, size] at read
      rw [read, show 0 + (k + 2) = 2 + k by omega]
    by_cases last : m = src.size
    · have first := same 0 (by omega)
      rw [encodeLoop_ended (by omega) (Nat.succ_ne_zero fuel)] at first
      cases first
    · have below : m < src.size := by omega
      by_cases three : m = 3
      · subst three
        exact not_threes repeats header below room (by omega) same
      · -- The run goes on with its value, so it is of full length, and so are all that follow.
        obtain ⟨_, value, _⟩ := second_repeat repeats (by omega) header below room same
        have full : m = 0x7f := by
          rw [repeats.equal 3 (by omega) (by omega)] at value
          rcases ended with ended | other | full
          · omega
          · exact absurd value other
          · exact full
        have ones : ∀ k < 2 * 5,
            (encodeLoop src dstSize (src.size + 1) 0 0).2[k]? = Option.some 0xff := by
          intro k above
          rw [start k (by omega), repeats.equal (0 + k) (by omega) (by omega), ← header, full]
          rfl
        have long := repeats_full 5 (Nat.zero_le _) (by omega) (by omega) ones
        omega

end OpenLighting.RunLengthEncoder
