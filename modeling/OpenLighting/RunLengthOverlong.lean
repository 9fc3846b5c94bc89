import OpenLighting.RunLengthRoundTrip

/- What the decoder makes of a literal of 128 or 129 values. Its length has the repeat
flag set, and the values are taken for segments. -/
namespace OpenLighting.RunLengthEncoder

open DmxBuffer List

variable {values : List UInt8} {dst result : DmxBuffer} {fuel index : Nat}

/-- From an index on the buffer has none of the values yet. -/
structure Missing (values : List UInt8) (index : Nat) (dst : DmxBuffer) : Prop where
  memory : dst.allocated = true
  room : values.length ≤ dst.size
  differs : ∀ k, index ≤ k → k < values.length → dst.slots[k]? ≠ values[k]?

/-- The decoder has put all the values in place. -/
def Restored (values : List UInt8) (result : DmxBuffer) : Prop :=
  ∀ k, k < values.length → result.slots[k]? = values[k]?

theorem setRange_memory (memory : dst.allocated = true) (data : List UInt8) :
    (dst.setRange index (some data)).1.allocated = true := by
  by_cases outside : dmxUniverseSize ≤ index ∨ dst.size < index
  · rw [setRange_outside memory outside]
    exact memory
  · rw [setRange_inside (by omega) (by rw [prepared_of_allocated memory]; omega)]
    rfl

/-- A range changes nothing before it or behind it. -/
theorem setRange_frame (memory : dst.allocated = true) (data : List UInt8) {k : Nat}
    (apart : k < index ∨ index + data.length ≤ k) :
    (dst.setRange index (some data)).1.slots[k]? = dst.slots[k]? := by
  by_cases outside : dmxUniverseSize ≤ index ∨ dst.size < index
  · rw [setRange_outside memory outside]
  · have inside : index ≤ dst.prepared.size := by
      rw [prepared_of_allocated memory]
      omega
    rw [setRange_inside_slots (by omega) inside, overlay_getElem? inside,
      prepared_of_allocated memory, if_neg]
    rw [length_take]
    omega

theorem setRange_size (memory : dst.allocated = true) (data : List UInt8) :
    dst.size ≤ (dst.setRange index (some data)).1.size := by
  by_cases outside : dmxUniverseSize ≤ index ∨ dst.size < index
  · rw [setRange_outside memory outside]
  · have inside : index ≤ dst.prepared.size := by
      rw [prepared_of_allocated memory]
      omega
    unfold size at *
    rw [setRange_inside_slots (by omega) inside, overlay_length inside,
      prepared_of_allocated memory]
    omega

theorem setRange_getElem? (memory : dst.allocated = true) {data : List UInt8} {k : Nat}
    (inside : index ≤ dst.size) (above : index ≤ k) (below : k < index + data.length)
    (bounded : k < dmxUniverseSize) :
    (dst.setRange index (some data)).1.slots[k]? = data[k - index]? := by
  have within : index ≤ dst.prepared.size := by
    rw [prepared_of_allocated memory]
    exact inside
  rw [setRange_inside_slots (by omega) within, overlay_getElem? within, if_pos]
  · rw [List.getElem?_take_of_lt (by omega)]
  · rw [length_take]
    omega

theorem Missing.setRange (missing : Missing values index dst) (data : List UInt8) :
    Missing values (index + data.length) (dst.setRange index (some data)).1 := by
  refine ⟨setRange_memory missing.memory data,
    Nat.le_trans missing.room (setRange_size missing.memory data), ?_⟩
  intro k above below
  rw [setRange_frame missing.memory data (Or.inr above)]
  exact missing.differs k (by omega) below

variable {bytes : List UInt8}

/-- What has been decoded is not changed any more. -/
theorem decodeLoop_frame (memory : dst.allocated = true)
    (decoded : decodeLoop fuel index bytes dst = some result) {k : Nat} (before : k < index) :
    result.slots[k]? = dst.slots[k]? := by
  induction fuel generalizing index bytes dst with
  | zero => cases decoded
  | succ fuel ih =>
    match bytes with
    | [] =>
      cases decoded
      rfl
    | header :: rest =>
      by_cases flag : header &&& repeatFlag ≠ 0
      · cases rest with
        | nil =>
          rw [decodeLoop, if_pos flag] at decoded
          cases decoded
        | cons value rest =>
          rw [decodeLoop_repeatSegment flag, setRangeToValue_eq] at decoded
          rw [ih (setRange_memory memory _) decoded (by omega),
            setRange_frame memory _ (Or.inl before)]
      · rw [decodeLoop_literalSegment flag] at decoded
        split at decoded
        · cases decoded
        · rw [ih (setRange_memory memory _) decoded (by omega),
            setRange_frame memory _ (Or.inl before)]

theorem Missing.mono {further : Nat} (missing : Missing values index dst) (later : index ≤ further) :
    Missing values further dst :=
  ⟨missing.memory, missing.room, fun k above below => missing.differs k (by omega) below⟩

/-- Some bytes put the values from an index on in place. -/
def Restores (values : List UInt8) (index : Nat) (bytes : List UInt8) (result : DmxBuffer) : Prop :=
  ∃ fuel dst, Missing values index dst ∧ decodeLoop fuel index bytes dst = some result

/-- A segment that restores values: a literal has more bytes than values, and a repeat has
two bytes for no more than two values. -/
inductive Segment (values : List UInt8) (index : Nat) (result : DmxBuffer) : List UInt8 → Prop where
  | literal (header : UInt8) (bytes rest : List UInt8) (length : Nat) :
      ¬ (header &&& repeatFlag ≠ 0) →
      min (values.length - index) length + rest.length ≤ bytes.length →
      Restores values (index + length) rest result → Segment values index result (header :: bytes)
  | repeats (header value : UInt8) (rest : List UInt8) : header &&& repeatFlag ≠ 0 →
      min (values.length - index) (header &&& ~~~repeatFlag).toNat ≤ 2 →
      (0 < (header &&& ~~~repeatFlag).toNat → values[index]? = some value) →
      Restores values (index + (header &&& ~~~repeatFlag).toNat) rest result →
      Segment values index result (header :: value :: rest)

theorem restored_repeat {length : Nat} {value : UInt8} {rest : List UInt8}
    (bounded : values.length ≤ dmxUniverseSize) (missing : Missing values index dst)
    (restored : Restored values result)
    (decoded : decodeLoop fuel (index + length) rest
      (dst.setRange index (some (List.replicate length value))).1 = some result)
    {k : Nat} (above : index ≤ k) (within : k < index + length) (below : k < values.length) :
    values[k]? = some value := by
  have room := missing.room
  have there := decodeLoop_frame (setRange_memory missing.memory _) decoded within
  rw [restored k below, setRange_getElem? missing.memory (by omega) above
    (by rw [length_replicate]; exact within) (by omega),
    List.getElem?_replicate_of_lt (by omega)] at there
  exact there

theorem restores_segment (bounded : values.length ≤ dmxUniverseSize)
    (plain : ¬ TripleAt values index) (more : index < values.length)
    (restored : Restored values result) (restores : Restores values index bytes result) :
    Segment values index result bytes := by
  obtain ⟨fuel, dst, missing, decoded⟩ := restores
  have room := missing.room
  match fuel, bytes, decoded with
  | fuel + 1, [], decoded =>
    cases decoded
    exact absurd (restored index more) (missing.differs index (Nat.le_refl _) more)
  | fuel + 1, header :: rest, decoded =>
    by_cases flag : header &&& repeatFlag ≠ 0
    · cases rest with
      | nil =>
        rw [decodeLoop, if_pos flag] at decoded
        cases decoded
      | cons value rest =>
        rw [decodeLoop_repeatSegment flag, setRangeToValue_eq] at decoded
        have same := fun k => @restored_repeat values dst result fuel index _ value rest bounded
          missing restored decoded k
        refine Segment.repeats header value rest flag ?_ ?_ ?_
        · by_contra long
          apply plain
          exact ⟨value, same index (by omega) (by omega) (by omega),
            same (index + 1) (by omega) (by omega) (by omega),
            same (index + 2) (by omega) (by omega) (by omega)⟩
        · intro some
          exact same index (Nat.le_refl _) (by omega) more
        · have next := missing.setRange (List.replicate (header &&& ~~~repeatFlag).toNat value)
          rw [length_replicate] at next
          exact ⟨fuel, _, next, decoded⟩
    · rw [decodeLoop_literalSegment flag] at decoded
      split at decoded
      · cases decoded
      · rename_i enough
        refine Segment.literal header rest (rest.drop (header &&& ~~~repeatFlag).toNat)
          (header &&& ~~~repeatFlag).toNat flag ?_ ⟨fuel, _, ?_, decoded⟩
        · unfold bytesRead at enough
          rw [prepared_of_allocated missing.memory, if_neg (by omega)] at enough
          rw [length_drop]
          omega
        · apply (missing.setRange (rest.take (header &&& ~~~repeatFlag).toNat)).mono
          rw [length_take]
          omega

theorem restores_length (bounded : values.length ≤ dmxUniverseSize)
    (plain : ∀ k, index ≤ k → ¬ TripleAt values k) (restored : Restored values result)
    (restores : Restores values index bytes result) : values.length - index ≤ bytes.length := by
  induction count : bytes.length using Nat.strongRecOn generalizing index bytes with
  | ind count ih =>
    by_cases more : index < values.length
    · cases restores_segment bounded (plain index (Nat.le_refl _)) more restored restores with
      | literal header bytes rest length flag covered later =>
        rw [length_cons] at count
        have left := ih rest.length (by omega) (fun k above => plain k (by omega)) later rfl
        omega
      | repeats header value rest flag covered first later =>
        rw [length_cons, length_cons] at count
        have left := ih rest.length (by omega) (fun k above => plain k (by omega)) later rfl
        omega
    · omega

theorem header_two {header : UInt8} (flag : header &&& repeatFlag ≠ 0)
    (two : (header &&& ~~~repeatFlag).toNat = 2) : header = 0x82 := by
  have all : ∀ value < 128, (UInt8.ofNat (128 + value) &&& ~~~repeatFlag).toNat = 2 →
      UInt8.ofNat (128 + value) = 0x82 := by decide
  have bound := header.toNat_lt
  by_cases literal : header.toNat ≤ 0x7f
  · have clear := (literal_header literal).1
    rw [UInt8.ofNat_toNat] at clear
    exact absurd flag clear
  · have value := all (header.toNat - 128) (by omega)
    rw [Nat.add_sub_cancel' (by omega), UInt8.ofNat_toNat] at value
    exact value two

/-- If there are only as many bytes as values, they are repeats of two values. -/
theorem restores_tight (bounded : values.length ≤ dmxUniverseSize)
    (plain : ∀ k, index ≤ k → ¬ TripleAt values k) (restored : Restored values result)
    (restores : Restores values index bytes result) (tight : bytes.length = values.length - index)
    (many : 3 ≤ bytes.length) :
    ∃ value rest, bytes = 0x82 :: value :: rest ∧ values[index]? = some value ∧
      Restores values (index + 2) rest result := by
  cases restores_segment bounded (plain index (Nat.le_refl _)) (by omega) restored restores with
  | literal header bytes rest length flag covered later =>
    have left := restores_length bounded (fun k above => plain k (by omega)) restored later
    rw [length_cons] at tight
    omega
  | repeats header value rest flag covered first later =>
    have left := restores_length bounded (fun k above => plain k (by omega)) restored later
    simp only [length_cons] at tight many
    have two : (header &&& ~~~repeatFlag).toNat = 2 := by omega
    rw [two] at later
    exact ⟨value, rest, by rw [header_two flag two], first (by omega), later⟩

theorem overlong_not_restored {lit : List UInt8} (bounded : values.length ≤ dmxUniverseSize)
    (plain : ∀ k, index ≤ k → ¬ TripleAt values k) (last : values.drop index = lit)
    (long : 0x7f < lit.length) (short : lit.length ≤ 0x7f + 2)
    (restores : Restores values index (UInt8.ofNat lit.length :: lit) result) :
    ¬ Restored values result := by
  intro restored
  have length : lit.length = values.length - index := by rw [← last, length_drop]
  have read : ∀ k, values[index + k]? = lit[k]? := by
    intro k
    rw [← last, List.getElem?_drop]
  generalize headed : UInt8.ofNat lit.length :: lit = bytes at restores
  cases restores_segment bounded (plain index (Nat.le_refl _)) (by omega) restored restores with
  | literal header bytes rest _ flag =>
    have same : header = UInt8.ofNat lit.length := (List.cons.inj headed).1.symm
    have cases : lit.length = 128 ∨ lit.length = 129 := by omega
    rcases cases with size | size <;> rw [same, size] at flag <;> exact absurd (by decide) flag
  | repeats header value rest flag _ _ later =>
    obtain ⟨head, tail⟩ := List.cons.inj headed
    have size : lit.length = rest.length + 1 := by rw [tail, length_cons]
    have cases : lit.length = 128 ∨ lit.length = 129 := by omega
    rcases cases with size' | size' <;> rw [size'] at head <;> subst head
    · -- a repeat of no value
      have left := restores_length bounded (fun k above => plain k (by omega)) restored later
      have zero : (UInt8.ofNat 128 &&& ~~~repeatFlag).toNat = 0 := by decide
      omega
    · -- a repeat of the first value, and then one of two values after the other
      have one : (UInt8.ofNat 129 &&& ~~~repeatFlag).toNat = 1 := by decide
      rw [one] at later
      obtain ⟨second, rest, rfl, first, later⟩ := restores_tight bounded
        (fun k above => plain k (by omega)) restored later (by omega) (by omega)
      obtain ⟨fourth, rest, rfl, _, _⟩ := restores_tight bounded
        (fun k above => plain k (by omega)) restored later
        (by simp only [length_cons] at size ⊢; omega)
        (by simp only [length_cons] at size ⊢; omega)
      apply plain (index + 1) (by omega)
      have values1 : values[index + 1]? = some 0x82 := by rw [read 1, tail]; rfl
      have values2 : values[index + 2]? = some second := by rw [read 2, tail]; rfl
      have values3 : values[index + 3]? = some 0x82 := by rw [read 3, tail]; rfl
      rw [values1, Option.some_inj] at first
      exact ⟨0x82, values1, by rw [values2, first], values3⟩

section Failing

variable {src : DmxBuffer} {dstSize i dstIndex : Nat}

/-- A buffer that differs from another in every slot. -/
def opposite (src : DmxBuffer) : DmxBuffer := .holding (src.slots.map (· + 1))

theorem opposite_slots : (opposite src).slots = src.slots.map (· + 1) := by
  apply holding_slots
  rw [length_map]
  exact src.bounded

theorem missing_opposite (inside : i ≤ src.size) :
    Missing src.slots i (written (opposite src) (src.slots.take i)) := by
  have bounded : src.size ≤ dmxUniverseSize := src.bounded
  have length : (src.slots.take i).length = i := take_length inside
  have memory : (opposite src).allocated = true := rfl
  have slots : (written (opposite src) (src.slots.take i)).slots =
      src.slots.take i ++ (src.slots.map (· + 1)).drop i := by
    by_cases none : src.slots.take i = []
    · rw [none, length_nil] at length
      rw [none, ← length]
      exact opposite_slots
    · rw [written_slots none (by omega), prepared_of_allocated memory, opposite_slots, length]
  constructor
  · unfold written
    split <;> rfl
  · unfold size at *
    rw [slots, length_append, length, length_drop, length_map]
    omega
  · intro k above below
    rw [slots, List.getElem?_append_right (by omega), length, List.getElem?_drop,
      Nat.add_sub_cancel' above, List.getElem?_map, List.getElem?_eq_getElem below, Option.map_some,
      ne_eq, Option.some_inj]
    exact fun same => absurd same (by
      intro equal
      have value := congrArg UInt8.toNat equal
      rw [UInt8.toNat_add] at value
      have one : (1 : UInt8).toNat = 1 := rfl
      omega)

/-- What is encoded from some value on is decoded to something else. -/
def Fails (src : DmxBuffer) (i : Nat) (outcome : Bool × List UInt8) : Prop :=
  outcome.1 = true ∧ ∀ steps result,
    decodeLoop steps i outcome.2 (written (opposite src) (src.slots.take i)) = some result →
      ¬ Restored src.slots result

theorem encodeLoop_ended {fuel : Nat} (ended : src.size ≤ i) (some : fuel ≠ 0) :
    encodeLoop src dstSize fuel i dstIndex = (true, []) := by
  obtain ⟨fuel, rfl⟩ := Nat.exists_eq_succ_of_ne_zero some
  unfold encodeLoop
  rw [if_neg (by omega), decide_eq_true ended]

/-- Where the tail is long, enough room leads to an overlong literal. -/
theorem encodeLoop_fails {fuel : Nat} (inside : i ≤ src.size) (enough : src.size - i < fuel)
    (room : 2 * (src.size - i) ≤ dstSize - dstIndex) (long : LongTail (src.slots.drop i)) :
    Fails src i (encodeLoop src dstSize fuel i dstIndex) := by
  induction fuel generalizing i dstIndex with
  | zero => omega
  | succ fuel ih =>
    have below : i < src.size := by
      by_contra ended
      have last : i = src.size := by omega
      rw [last, size, drop_length] at long
      have none : 0x7f < 0 := long.1
      omega
    have more : i < src.size ∧ dstIndex < dstSize := by omega
    unfold encodeLoop
    rw [if_pos more]
    dsimp only
    by_cases many : 2 < repeatEnd src i - i
    · have repeats := (repeatEnd_spec below).1
      have after := repeats.after
      have later := @ih (repeatEnd src i) (dstIndex + 2) repeats.inside (by omega) (by omega)
        ((longTail_repeat below many).mp long)
      rw [if_pos many, if_pos (by omega)]
      refine ⟨later.1, ?_⟩
      intro steps result decoded
      cases steps with
      | zero => cases decoded
      | succ steps =>
        rw [decodeLoop_encoded_repeat repeats] at decoded
        exact later.2 steps result decoded
    · have ends := literalEnd_spec below (not_tripleAt_of_repeatEnd below many)
      have after := ends.after below
      rw [if_neg many, if_pos (by omega)]
      rcases longTail_literal below ends with ⟨last, most, plain, overlong⟩ | ⟨within, same⟩
      · have rest : src.slots.drop i = slice src i (literalEnd src i) := by
          rw [drop_eq_slice (Nat.le_of_lt after.1), last, size, drop_length,
            append_nil]
        have length : (slice src i (literalEnd src i)).length = literalEnd src i - i :=
          slice_length after.2
        rw [encodeLoop_ended (by omega) (by omega)]
        refine ⟨rfl, ?_⟩
        intro steps result decoded
        rw [append_nil, ← length] at decoded
        apply overlong_not_restored src.bounded plain rest
        · rw [length]
          exact overlong.mp long
        · rw [length]
          exact most
        · exact ⟨steps, _, missing_opposite inside, decoded⟩
      · have later := @ih (literalEnd src i) (dstIndex + 1 + (literalEnd src i - i)) after.2
          (by omega) (by omega) (same.mp long)
        refine ⟨later.1, ?_⟩
        intro steps result decoded
        cases steps with
        | zero => cases decoded
        | succ steps =>
          rw [decodeLoop_encoded_literal after.1 after.2 within] at decoded
          exact later.2 steps result decoded

/-- A long tail is not decoded again. -/
theorem not_roundTrips {src : DmxBuffer} (long : LongTail src.slots) : ¬ RoundTrips src := by
  intro trips
  have fails := @encodeLoop_fails src (2 * src.size) 0 0 (src.size + 1) (Nat.zero_le _) (by omega)
    (by omega) long
  obtain ⟨result, decoded, all, _⟩ := trips (2 * src.size) (opposite src)
  apply fails.2 _ result decoded
  intro k below
  have same := all fails.1
  rw [← same, List.getElem?_take_of_lt]
  exact below

theorem written_restores (src dst : DmxBuffer) :
    (written dst src.slots).slots.take src.size = src.slots := by
  unfold size
  by_cases none : src.slots = []
  · rw [none]
    rfl
  · rw [written_slots none src.bounded, take_left]

/-- What is encoded is decoded again if and only if the tail is not long. -/
theorem roundTrips_iff (src : DmxBuffer) : RoundTrips src ↔ ¬ LongTail src.slots := by
  constructor
  · intro trips long
    exact not_roundTrips long trips
  · intro short dstSize dst
    obtain ⟨count, _, inside, ended, decoded⟩ := @encodeLoop_decodes src dst dstSize (src.size + 1) 0 0
      (Nat.zero_le _) (by omega) short
    refine ⟨written dst (src.slots.take count), decoded _ (Nat.lt_succ_self _), ?_, ?_⟩
    · intro complete
      rw [ended complete, DmxBuffer.size, List.take_length]
      exact written_restores src dst
    · exact fun _ => ⟨count, inside, rfl⟩

/-- One value for each slot from `0` to `127`. -/
def ramp : List UInt8 := (List.range 128).map UInt8.ofNat

theorem ramp_not_roundTrips : ¬ RoundTrips (DmxBuffer.holding ramp) := by
  apply not_roundTrips
  have length : tailLength (DmxBuffer.holding ramp).slots = 128 := by decide +kernel
  unfold LongTail
  omega

end Failing

end OpenLighting.RunLengthEncoder
