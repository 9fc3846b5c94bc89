import OpenLighting.RunLengthSegments

namespace OpenLighting.RunLengthEncoder

/-- A buffer with values written over its first slots. -/
def written (dst : DmxBuffer) (data : List UInt8) : DmxBuffer :=
  if data.isEmpty then dst else .holding (DmxBuffer.overlay dst.prepared.slots 0 data)

/-- Encoding into any number of bytes and decoding them gives the values back: all of them
if the encoder says so, and some of the first ones if it does not. -/
def RoundTrips (src : DmxBuffer) : Prop :=
  ∀ (dstSize : Nat) (dst : DmxBuffer),
    ∃ result, decode 0 (encode src dstSize).2 dst = some result ∧
      ((encode src dstSize).1 = true → result.slots.take src.size = src.slots) ∧
      ((encode src dstSize).1 = false →
        ∃ count, count ≤ src.size ∧ result = written dst (src.slots.take count))

section Writing

variable {dst : DmxBuffer}

theorem written_slots {data : List UInt8} (some : data ≠ [])
    (bounded : data.length ≤ dmxUniverseSize) :
    (written dst data).slots = data ++ dst.prepared.slots.drop data.length := by
  unfold written
  rw [if_neg (by simpa using some), DmxBuffer.holding_slots]
  · simp [DmxBuffer.overlay]
  · rw [DmxBuffer.overlay_length (Nat.zero_le _)]
    have memory := dst.prepared.bounded
    omega

theorem written_prepared_size {data : List UInt8} (bounded : data.length ≤ dmxUniverseSize) :
    data.length ≤ (written dst data).prepared.size := by
  by_cases none : data = []
  · rw [none]
    exact Nat.zero_le _
  · have memory : (written dst data).allocated = true := by
      unfold written
      rw [if_neg (by simpa using none)]
      rfl
    rw [DmxBuffer.prepared_of_allocated memory, DmxBuffer.size, written_slots none bounded,
      List.length_append]
    omega

/-- Values written behind others. -/
theorem setRange_written {front back : List UInt8} (some : back ≠ [])
    (bounded : front.length + back.length ≤ dmxUniverseSize) :
    ((written dst front).setRange front.length (.some back)).1 = written dst (front ++ back) := by
  have positive : back.length ≠ 0 := by simpa using some
  rw [DmxBuffer.setRange_inside (by omega) (written_prepared_size (by omega)),
    List.take_of_length_le (by omega)]
  have whole : written dst (front ++ back) =
      .holding (DmxBuffer.overlay dst.prepared.slots 0 (front ++ back)) := by
    unfold written
    rw [if_neg (by simp [some])]
  rw [whole]
  by_cases none : front = []
  · subst none
    rfl
  · have memory : (written dst front).allocated = true := by
      unfold written
      rw [if_neg (by simpa using none)]
      rfl
    rw [DmxBuffer.prepared_of_allocated memory, written_slots none (by omega)]
    congr 1
    unfold DmxBuffer.overlay
    simp [List.drop_append, List.drop_drop]

end Writing

section Decoding

variable {dst : DmxBuffer} {front : List UInt8}

theorem repeat_header {length : Nat} (short : length ≤ 0x7f) :
    ((repeatFlag ||| UInt8.ofNat length) &&& repeatFlag ≠ 0) ∧
      ((repeatFlag ||| UInt8.ofNat length) &&& ~~~repeatFlag).toNat = length := by
  have all : ∀ length < 128, ((repeatFlag ||| UInt8.ofNat length) &&& repeatFlag ≠ 0) ∧
      ((repeatFlag ||| UInt8.ofNat length) &&& ~~~repeatFlag).toNat = length := by decide
  exact all length (by omega)

theorem literal_header {length : Nat} (short : length ≤ 0x7f) :
    ¬ (UInt8.ofNat length &&& repeatFlag ≠ 0) ∧
      (UInt8.ofNat length &&& ~~~repeatFlag).toNat = length := by
  have all : ∀ length < 128, ¬ (UInt8.ofNat length &&& repeatFlag ≠ 0) ∧
      (UInt8.ofNat length &&& ~~~repeatFlag).toNat = length := by decide
  exact all length (by omega)

theorem decodeLoop_repeat {length fuel : Nat} {value : UInt8} {rest : List UInt8}
    (some : 0 < length) (short : length ≤ 0x7f)
    (bounded : front.length + length ≤ dmxUniverseSize) :
    decodeLoop (fuel + 1) front.length ((repeatFlag ||| UInt8.ofNat length) :: value :: rest)
        (written dst front) =
      decodeLoop fuel (front.length + length) rest
        (written dst (front ++ List.replicate length value)) := by
  have header := repeat_header short
  rw [decodeLoop_repeatSegment header.1, header.2, DmxBuffer.setRangeToValue_eq, setRange_written]
  · simp only [ne_eq, List.replicate_eq_nil_iff]
    omega
  · rw [List.length_replicate]
    omega

theorem decodeLoop_literal {fuel : Nat} {lit rest : List UInt8} (some : lit ≠ [])
    (short : lit.length ≤ 0x7f) (bounded : front.length + lit.length ≤ dmxUniverseSize) :
    decodeLoop (fuel + 1) front.length (UInt8.ofNat lit.length :: (lit ++ rest)) (written dst front) =
      decodeLoop fuel (front.length + lit.length) rest (written dst (front ++ lit)) := by
  have header := literal_header short
  have enough : ¬ (lit ++ rest).length < bytesRead (written dst front) front.length lit.length := by
    unfold bytesRead
    rw [List.length_append]
    split
    · omega
    · omega
  rw [decodeLoop_literalSegment header.1, header.2, if_neg enough, List.take_left, List.drop_left,
    setRange_written some bounded]

end Decoding

section Encoding

variable {src dst : DmxBuffer} {dstSize fuel i dstIndex : Nat}

theorem take_slice {j : Nat} (order : i ≤ j) :
    src.slots.take i ++ slice src i j = src.slots.take j := by
  unfold slice
  rw [← List.take_append_drop i (src.slots.take j), List.take_take, List.drop_take,
    Nat.min_eq_left order]

theorem take_length (inside : i ≤ src.size) : (src.slots.take i).length = i := by
  rw [List.length_take]
  exact Nat.min_eq_left inside

theorem decodeLoop_encoded_repeat {j steps : Nat} {rest : List UInt8} (repeats : Repeats src i j) :
    decodeLoop (steps + 1) i ((repeatFlag ||| UInt8.ofNat (j - i)) :: src.get i :: rest)
        (written dst (src.slots.take i)) =
      decodeLoop steps j rest (written dst (src.slots.take j)) := by
  have after := repeats.after
  have inside := repeats.inside
  have bounded : src.size ≤ dmxUniverseSize := src.bounded
  have length : (src.slots.take i).length = i := take_length (by omega)
  have decoded := @decodeLoop_repeat dst (src.slots.take i) (j - i) steps (src.get i) rest (by omega)
    repeats.short (by omega)
  rw [length, ← slice_repeats repeats, take_slice (by omega), Nat.add_sub_cancel' (by omega)] at decoded
  exact decoded

theorem decodeLoop_encoded_literal {j steps : Nat} {rest : List UInt8} (after : i < j)
    (inside : j ≤ src.size) (short : j - i ≤ 0x7f) :
    decodeLoop (steps + 1) i (UInt8.ofNat (j - i) :: (slice src i j ++ rest))
        (written dst (src.slots.take i)) =
      decodeLoop steps j rest (written dst (src.slots.take j)) := by
  have bounded : src.size ≤ dmxUniverseSize := src.bounded
  have length : (src.slots.take i).length = i := take_length (by omega)
  have values : (slice src i j).length = j - i := slice_length inside
  have some : slice src i j ≠ [] := by
    intro none
    rw [none, List.length_nil] at values
    omega
  have decoded := @decodeLoop_literal dst (src.slots.take i) steps (slice src i j) rest some
    (by omega) (by omega)
  rw [length, values, take_slice (by omega), Nat.add_sub_cancel' (by omega)] at decoded
  exact decoded

/-- What is encoded from some value on is decoded from there on. -/
def Decodes (src dst : DmxBuffer) (i : Nat) (outcome : Bool × List UInt8) : Prop :=
  ∃ count, i ≤ count ∧ count ≤ src.size ∧ (outcome.1 = true → count = src.size) ∧
    ∀ steps, outcome.2.length < steps →
      decodeLoop steps i outcome.2 (written dst (src.slots.take i)) =
        some (written dst (src.slots.take count))

theorem decodes_nil (complete : Bool) (inside : i ≤ src.size)
    (ended : complete = true → i = src.size) : Decodes src dst i (complete, []) := by
  refine ⟨i, Nat.le_refl i, inside, ended, ?_⟩
  intro steps enough
  obtain ⟨steps, rfl⟩ := Nat.exists_eq_succ_of_ne_zero (Nat.ne_of_gt enough)
  rfl

theorem Decodes.repeats {j : Nat} {outcome : Bool × List UInt8} (repeats : Repeats src i j)
    (later : Decodes src dst j outcome) :
    Decodes src dst i
      (outcome.1, (repeatFlag ||| UInt8.ofNat (j - i)) :: src.get i :: outcome.2) := by
  obtain ⟨count, above, inside, ended, decoded⟩ := later
  have after := repeats.after
  refine ⟨count, by omega, inside, ended, ?_⟩
  intro steps enough
  simp only [List.length_cons] at enough
  obtain ⟨steps, rfl⟩ := Nat.exists_eq_succ_of_ne_zero (by omega : steps ≠ 0)
  rw [Nat.succ_eq_add_one, decodeLoop_encoded_repeat repeats]
  exact decoded steps (by omega)

theorem Decodes.literal {j : Nat} {outcome : Bool × List UInt8} (after : i < j)
    (inside : j ≤ src.size) (short : j - i ≤ 0x7f) (later : Decodes src dst j outcome) :
    Decodes src dst i (outcome.1, UInt8.ofNat (j - i) :: (slice src i j ++ outcome.2)) := by
  obtain ⟨count, above, within, ended, decoded⟩ := later
  refine ⟨count, by omega, within, ended, ?_⟩
  intro steps enough
  simp only [List.length_cons, List.length_append] at enough
  obtain ⟨steps, rfl⟩ := Nat.exists_eq_succ_of_ne_zero (by omega : steps ≠ 0)
  rw [Nat.succ_eq_add_one, decodeLoop_encoded_literal after inside short]
  exact decoded steps (by omega)

/-- Without a long tail every segment is decoded to its values. -/
theorem encodeLoop_decodes (inside : i ≤ src.size) (enough : src.size - i < fuel)
    (short : ¬ LongTail (src.slots.drop i)) :
    Decodes src dst i (encodeLoop src dstSize fuel i dstIndex) := by
  induction fuel generalizing i dstIndex with
  | zero => omega
  | succ fuel ih =>
    unfold encodeLoop
    by_cases more : i < src.size ∧ dstIndex < dstSize
    · rw [if_pos more]
      by_cases many : 2 < repeatEnd src i - i
      · have repeats := (repeatEnd_spec more.1).1
        have after := repeats.after
        rw [if_pos many]
        by_cases room : 1 < dstSize - dstIndex
        · rw [if_pos room]
          apply Decodes.repeats repeats
          apply ih repeats.inside (by omega)
          rwa [← longTail_repeat more.1 many]
        · rw [if_neg room]
          exact decodes_nil false inside (fun absent => by cases absent)
      · have ends := literalEnd_spec more.1 (not_tripleAt_of_repeatEnd more.1 many)
        have after := ends.after more.1
        have length := shortTail_literal more.1 ends short
        rw [if_neg many]
        by_cases room : dstIndex + (literalEnd src i - i) < dstSize
        · rw [if_pos room]
          apply Decodes.literal after.1 after.2 length.1
          exact ih after.2 (by omega) length.2
        · rw [if_neg room]
          by_cases some : 1 < dstSize - dstIndex
          · rw [if_pos some]
            have part := Decodes.literal (by omega : i < i + (dstSize - dstIndex - 1))
              (by omega : i + (dstSize - dstIndex - 1) ≤ src.size) (by omega)
              (@decodes_nil src dst _ false (by omega) (fun absent => by cases absent))
            rw [List.append_nil, Nat.add_sub_cancel_left] at part
            exact part
          · rw [if_neg some]
            exact decodes_nil false inside (fun absent => by cases absent)
    · rw [if_neg more]
      apply decodes_nil _ inside
      intro ended
      have last : src.size ≤ i := by simpa using ended
      omega

end Encoding

end OpenLighting.RunLengthEncoder
