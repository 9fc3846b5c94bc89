import OpenLighting.RunLengthEncoder

/- Which bytes of the data `Decode` reads. -/
namespace OpenLighting.RunLengthEncoder

open List

/-- The variables of `Decode`; `i` and the destination index are kept in 32 bits. -/
structure Decoder where
  i : Nat
  destinationIndex : Nat
  dst : DmxBuffer

/-- The number of slots that a segment says it is for. -/
def segmentLength (header : UInt8) : Nat := (header &&& ~~~repeatFlag).toNat

namespace Decoder

/-- One pass of the loop, or nothing if it has come to its end; `none` where a byte is read that is
not one of the data. -/
def step (data : List UInt8) (decoder : Decoder) : Option Decoder :=
  if data.length ≤ decoder.i then some decoder
  else
    let header := data.getD decoder.i 0
    let length := segmentLength header
    let next := (decoder.destinationIndex + length) % 2 ^ 32
    if header &&& repeatFlag ≠ 0 then
      (data[decoder.i + 1]?).map (fun value =>
        ⟨(decoder.i + 2) % 2 ^ 32, next,
          (decoder.dst.setRangeToValue decoder.destinationIndex value length).1⟩)
    else if data.length < decoder.i + 1 + bytesRead decoder.dst decoder.destinationIndex length then
      none
    else
      some ⟨(decoder.i + 1 + length) % 2 ^ 32, next,
        (decoder.dst.setRange decoder.destinationIndex
          (some ((data.drop (decoder.i + 1)).take length))).1⟩

/-- Some passes of the loop. -/
def run (data : List UInt8) : Nat → Decoder → Option Decoder
  | 0, decoder => some decoder
  | steps + 1, decoder => (decoder.step data).bind (run data steps)

end Decoder

/-- `Decode` comes to its end and reads nothing but the data. -/
def StaysInside (data : List UInt8) (decoder : Decoder) : Prop :=
  ∃ steps after, decoder.run data steps = some after ∧ data.length ≤ after.i

def IsSegment (bytes : List UInt8) : Prop :=
  ∃ header rest, bytes = header :: rest ∧
    rest.length = if header &&& repeatFlag ≠ 0 then 1 else segmentLength header

/-- How many of the bytes that it is given `SetRange` takes, for a buffer of some size. -/
def taken (size index length : Nat) : Nat :=
  if dmxUniverseSize ≤ index ∨ size < index then 0 else min length (dmxUniverseSize - index)

/-- The destination index and the size of the buffer behind a segment. -/
def place (at_ : Nat × Nat) (bytes : List UInt8) : Nat × Nat :=
  let length := segmentLength (bytes.headD 0)
  ((at_.1 + length) % 2 ^ 32,
    if dmxUniverseSize ≤ at_.1 ∨ at_.2 < at_.1 then at_.2
    else max at_.2 (at_.1 + taken at_.2 at_.1 length))

/-- The data ends in the middle of a literal, of which no more bytes are taken than there are. -/
def CutLiteral (at_ : Nat × Nat) (bytes : List UInt8) : Prop :=
  ∃ header rest, bytes = header :: rest ∧ ¬ (header &&& repeatFlag ≠ 0) ∧
    rest.length < segmentLength header ∧ taken at_.2 at_.1 (segmentLength header) ≤ rest.length

/-- The data is made of whole segments, up to such an end. -/
def WellCut (start size : Nat) (data : List UInt8) : Prop :=
  ∃ (segments : List (List UInt8)) (tail : List UInt8),
    data = segments.flatten ++ tail ∧ (∀ bytes ∈ segments, IsSegment bytes) ∧
    (tail = [] ∨ CutLiteral (segments.foldl place (start, size)) tail)

theorem segmentLength_lt (header : UInt8) : segmentLength header < 128 := by
  unfold segmentLength repeatFlag
  exact Nat.lt_of_le_of_lt Nat.and_le_right (by decide)

theorem prepared_setRange (dst : DmxBuffer) (index : Nat) (bytes : List UInt8) :
    (dst.setRange index (some bytes)).1.prepared.size =
      if dmxUniverseSize ≤ index ∨ dst.prepared.size < index then dst.prepared.size
      else max dst.prepared.size (index + taken dst.prepared.size index bytes.length) := by
  by_cases outside : dmxUniverseSize ≤ index ∨ dst.prepared.size < index
  · rw [if_pos outside]
    unfold DmxBuffer.setRange
    dsimp only
    by_cases above : dmxUniverseSize ≤ index
    · rw [if_pos above]
    · rw [if_neg above, if_pos (outside.resolve_left above),
        DmxBuffer.prepared_of_allocated dst.prepared_allocated]
  · have below : index < dmxUniverseSize := by omega
    have inside : index ≤ dst.prepared.size := by omega
    have memory : (dst.setRange index (some bytes)).1.allocated = true := by
      rw [DmxBuffer.setRange_inside below inside]
      rfl
    rw [if_neg outside, DmxBuffer.prepared_of_allocated memory, DmxBuffer.size,
      DmxBuffer.setRange_inside_slots below inside, DmxBuffer.overlay_length inside,
      length_take, taken, if_neg outside, Nat.min_comm]
    rfl

section Steps

variable {data before rest : List UInt8} {header : UInt8} {decoder : Decoder}

theorem step_ended (ended : data.length ≤ decoder.i) : decoder.step data = some decoder :=
  if_pos ended

/-- A pass of the loop for a segment that starts here. -/
theorem step_eq (here : data = before ++ header :: rest) (at_ : decoder.i = before.length) :
    decoder.step data =
      if header &&& repeatFlag ≠ 0 then
        (rest.head?).map (fun value =>
          ⟨(decoder.i + 2) % 2 ^ 32,
            (decoder.destinationIndex + segmentLength header) % 2 ^ 32,
            (decoder.dst.setRangeToValue decoder.destinationIndex value
              (segmentLength header)).1⟩)
      else if rest.length < bytesRead decoder.dst decoder.destinationIndex (segmentLength header) then
        none
      else
        some ⟨(decoder.i + 1 + segmentLength header) % 2 ^ 32,
          (decoder.destinationIndex + segmentLength header) % 2 ^ 32,
          (decoder.dst.setRange decoder.destinationIndex
            (some (rest.take (segmentLength header)))).1⟩ := by
  have length : data.length = decoder.i + 1 + rest.length := by
    rw [here, at_, length_append, length_cons]
    omega
  have first : data.getD decoder.i 0 = header := by
    rw [here, at_, getD_eq_getElem?_getD, List.getElem?_append_right (Nat.le_refl _)]
    simp
  have second : data[decoder.i + 1]? = rest.head? := by
    rw [here, at_, List.getElem?_append_right (Nat.le_succ _)]
    simp [List.head?_eq_getElem?]
  have behind : data.drop (decoder.i + 1) = rest := by
    rw [here, at_, ← drop_drop, drop_left]
    rfl
  unfold Decoder.step
  rw [if_neg (by omega)]
  rw [first, second, behind, length]
  simp

theorem step_segment {bytes : List UInt8} (segment : IsSegment bytes)
    (here : data = before ++ (bytes ++ rest)) (at_ : decoder.i = before.length)
    (short : data.length + 127 < 2 ^ 32) :
    ∃ next, decoder.step data = some next ∧ next.i = (before ++ bytes).length ∧
      (next.destinationIndex, next.dst.prepared.size) =
        place (decoder.destinationIndex, decoder.dst.prepared.size) bytes := by
  obtain ⟨header, own, rfl, length⟩ := segment
  have total : data.length = before.length + (own.length + 1) + rest.length := by
    rw [here, length_append, length_append, length_cons]
    omega
  have size : (before ++ header :: own).length = before.length + (own.length + 1) := by simp
  rw [cons_append] at here
  rw [step_eq here at_, size]
  unfold place
  dsimp only [headD_cons]
  by_cases flag : header &&& repeatFlag ≠ 0
  · rw [if_pos flag] at length ⊢
    obtain ⟨value, rfl⟩ := length_eq_one_iff.mp length
    refine ⟨_, rfl, ?_, ?_⟩
    · dsimp only
      rw [length_singleton] at total ⊢
      rw [Nat.mod_eq_of_lt (by omega)]
      omega
    · dsimp only
      rw [DmxBuffer.setRangeToValue_eq, prepared_setRange, length_replicate]
  · rw [if_neg flag] at length ⊢
    have most : bytesRead decoder.dst decoder.destinationIndex (segmentLength header) ≤
        segmentLength header := by
      unfold bytesRead
      split_ifs
      · omega
      · omega
    rw [if_neg (by rw [length_append]; omega)]
    refine ⟨_, rfl, ?_, ?_⟩
    · dsimp only
      rw [Nat.mod_eq_of_lt (by omega)]
      omega
    · rw [← length, take_left, prepared_setRange]

/-- A pass that reads nothing but the data is one for a whole segment, or it is the last one. -/
theorem step_some {next : Decoder} (here : data = before ++ header :: rest)
    (at_ : decoder.i = before.length) (done : decoder.step data = some next) :
    (∃ bytes others, header :: rest = bytes ++ others ∧ IsSegment bytes) ∨
      CutLiteral (decoder.destinationIndex, decoder.dst.prepared.size) (header :: rest) := by
  rw [step_eq here at_] at done
  by_cases flag : header &&& repeatFlag ≠ 0
  · rw [if_pos flag] at done
    cases rest with
    | nil => cases done
    | cons value rest =>
      exact .inl ⟨[header, value], rest, rfl, header, [value], rfl, by rw [if_pos flag]; rfl⟩
  · rw [if_neg flag] at done
    by_cases missing :
        rest.length < bytesRead decoder.dst decoder.destinationIndex (segmentLength header)
    · rw [if_pos missing] at done
      cases done
    · by_cases whole : segmentLength header ≤ rest.length
      · refine .inl ⟨header :: rest.take (segmentLength header), rest.drop (segmentLength header),
          ?_, header, _, rfl, ?_⟩
        · rw [cons_append, take_append_drop]
        · rw [if_neg flag, length_take_of_le whole]
      · exact .inr ⟨header, rest, rfl, flag, Nat.lt_of_not_le whole, Nat.le_of_not_lt missing⟩

/-- The last pass, for a literal that is cut. -/
theorem step_cut (cut : CutLiteral (decoder.destinationIndex, decoder.dst.prepared.size) rest)
    (here : data = before ++ rest) (at_ : decoder.i = before.length)
    (short : data.length + 127 < 2 ^ 32) :
    ∃ next, decoder.step data = some next ∧ data.length ≤ next.i := by
  obtain ⟨header, own, rfl, flag, missing, enough⟩ := cut
  have total : data.length = before.length + (own.length + 1) := by
    rw [here, length_append, length_cons]
  have small := segmentLength_lt header
  have there : ¬ own.length <
      bytesRead decoder.dst decoder.destinationIndex (segmentLength header) :=
    Nat.not_lt_of_le enough
  rw [step_eq here at_, if_neg flag, if_neg there]
  refine ⟨_, rfl, ?_⟩
  dsimp only
  omega

end Steps

section Runs

variable {data : List UInt8}

theorem run_ended {decoder : Decoder} (ended : data.length ≤ decoder.i) (steps : Nat) :
    decoder.run data steps = some decoder := by
  induction steps with
  | zero => rfl
  | succ steps ih => rw [Decoder.run, step_ended ended, Option.bind_some, ih]

/-- A decoder that stays inside from here on finds whole segments. -/
theorem wellCut_of_run (short : data.length + 127 < 2 ^ 32) (steps : Nat) {after : Decoder}
    {before rest : List UInt8} {decoder : Decoder} (here : data = before ++ rest)
    (at_ : decoder.i = before.length) (done : decoder.run data steps = some after)
    (ended : data.length ≤ after.i) :
    WellCut decoder.destinationIndex decoder.dst.prepared.size rest := by
  induction steps generalizing before rest decoder with
  | zero =>
    cases done
    have length : data.length = before.length + rest.length := by
      rw [here, length_append]
    have none : rest = [] := eq_nil_of_length_eq_zero (by omega)
    exact ⟨[], [], by rw [none]; rfl, by simp, .inl rfl⟩
  | succ steps ih =>
    cases rest with
    | nil => exact ⟨[], [], rfl, by simp, .inl rfl⟩
    | cons header rest =>
      rw [Decoder.run, Option.bind_eq_some_iff] at done
      obtain ⟨next, first, others⟩ := done
      rcases step_some here at_ first with ⟨bytes, following, split, segment⟩ | cut
      · rw [split] at here ⊢
        obtain ⟨found, same, i, placed⟩ := step_segment segment here at_ short
        cases first.symm.trans same
        rw [← append_assoc] at here
        obtain ⟨segments, tail, parts, each, last⟩ := ih here i others
        refine ⟨bytes :: segments, tail, ?_, ?_, ?_⟩
        · rw [parts, flatten_cons, append_assoc]
        · intro other member
          cases member with
          | head => exact segment
          | tail _ member => exact each other member
        · rw [foldl_cons, ← placed]
          exact last
      · exact ⟨[], _, rfl, by simp, .inr cut⟩

/-- Over whole segments the decoder stays inside. -/
theorem run_of_wellCut (short : data.length + 127 < 2 ^ 32) (segments : List (List UInt8))
    {before tail : List UInt8} {decoder : Decoder}
    (here : data = before ++ (segments.flatten ++ tail)) (at_ : decoder.i = before.length)
    (each : ∀ bytes ∈ segments, IsSegment bytes)
    (last : tail = [] ∨ CutLiteral
      (segments.foldl place (decoder.destinationIndex, decoder.dst.prepared.size)) tail) :
    StaysInside data decoder := by
  induction segments generalizing before decoder with
  | nil =>
    rcases last with rfl | cut
    · have length : data.length = before.length := by rw [here]; simp
      exact ⟨0, decoder, rfl, by omega⟩
    · obtain ⟨next, done, ended⟩ := step_cut cut here at_ short
      exact ⟨1, next, by rw [Decoder.run, done, Option.bind_some]; rfl, ended⟩
  | cons bytes segments ih =>
    rw [flatten_cons, append_assoc] at here
    obtain ⟨next, done, i, placed⟩ :=
      step_segment (each bytes mem_cons_self) here at_ short
    rw [← append_assoc] at here
    rw [foldl_cons, ← placed] at last
    obtain ⟨steps, after, others, ended⟩ :=
      ih here i (fun other member => each other (mem_cons_of_mem _ member)) last
    exact ⟨steps + 1, after, by rw [Decoder.run, done, Option.bind_some, others], ended⟩

/-- As long as the destination index does not wrap, the passes of the loop are those of the decoder
that is told no more than the rest of the data. -/
theorem decodeLoop_eq_run (short : data.length + 127 < 2 ^ 32) (fuel : Nat)
    {before rest : List UInt8} {decoder : Decoder} (here : data = before ++ rest)
    (at_ : decoder.i = before.length) (enough : rest.length ≤ fuel)
    (small : decoder.destinationIndex + 128 * rest.length < 2 ^ 32) :
    decodeLoop (fuel + 1) decoder.destinationIndex rest decoder.dst =
      (decoder.run data fuel).map Decoder.dst := by
  induction fuel generalizing before rest decoder with
  | zero =>
    have none : rest = [] := eq_nil_of_length_eq_zero (Nat.le_zero.mp enough)
    rw [none, decodeLoop]
    rfl
  | succ fuel ih =>
    cases rest with
    | nil =>
      have ended : data.length ≤ decoder.i := by rw [here, at_, append_nil]
      rw [decodeLoop, run_ended ended]
      rfl
    | cons header rest =>
      have spans := segmentLength_lt header
      have same : (header &&& ~~~repeatFlag).toNat = segmentLength header := rfl
      have total : data.length = before.length + (rest.length + 1) := by
        rw [here, length_append, length_cons]
      rw [length_cons] at enough small
      have narrow : (decoder.destinationIndex + segmentLength header) % 2 ^ 32 =
          decoder.destinationIndex + segmentLength header := Nat.mod_eq_of_lt (by omega)
      rw [Decoder.run, step_eq here at_, narrow]
      by_cases flag : header &&& repeatFlag ≠ 0
      · rw [if_pos flag]
        cases rest with
        | nil =>
          rw [decodeLoop, if_pos flag]
          rfl
        | cons value rest =>
          rw [length_cons] at enough small total
          have split : data = (before ++ [header, value]) ++ rest := by rw [here]; simp
          have i : (decoder.i + 2) % 2 ^ 32 = (before ++ [header, value]).length := by
            rw [length_append, at_, Nat.mod_eq_of_lt (by omega)]
            rfl
          rw [decodeLoop_repeatSegment flag, same]
          exact @ih _ rest ⟨_, _, _⟩ split i (by omega) (by dsimp only; omega)
      · rw [if_neg flag, decodeLoop_literalSegment flag, same]
        by_cases missing : rest.length <
            bytesRead decoder.dst decoder.destinationIndex (segmentLength header)
        · rw [if_pos missing, if_pos missing]
          rfl
        · have i : (decoder.i + 1 + segmentLength header) % 2 ^ 32 =
              before.length + 1 + segmentLength header := by
            rw [at_, Nat.mod_eq_of_lt (by omega)]
          rw [if_neg missing, if_neg missing, i, Option.bind_some]
          by_cases whole : segmentLength header ≤ rest.length
          · have split : data = (before ++ header :: rest.take (segmentLength header)) ++
                rest.drop (segmentLength header) := by
              rw [here, append_assoc, cons_append, take_append_drop]
            have size : before.length + 1 + segmentLength header =
                (before ++ header :: rest.take (segmentLength header)).length := by
              rw [length_append, length_cons, length_take_of_le whole]
              omega
            have left : (rest.drop (segmentLength header)).length =
              rest.length - segmentLength header := length_drop
            exact @ih _ _ ⟨_, _, _⟩ split size (by omega) (by dsimp only; omega)
          · have none : rest.drop (segmentLength header) = [] :=
              drop_eq_nil_of_le (by omega)
            have ended : data.length ≤
                (Decoder.mk (before.length + 1 + segmentLength header)
                  (decoder.destinationIndex + segmentLength header)
                  (decoder.dst.setRange decoder.destinationIndex
                    (some (rest.take (segmentLength header)))).1).i := by
              dsimp only
              omega
            rw [run_ended ended]
            rw [none, decodeLoop]
            rfl

end Runs

/-- What is decoded is what the decoder has made of the buffer in the end. -/
theorem decode_eq_run {data : List UInt8} {start : Nat}
    (small : start + 128 * (data.length + 1) < 2 ^ 32) (dst : DmxBuffer) :
    decode start data dst =
      ((Decoder.mk 0 start dst).run data data.length).map Decoder.dst :=
  @decodeLoop_eq_run data (by omega) data.length [] data ⟨0, start, dst⟩ rfl rfl (Nat.le_refl _)
    (by dsimp only; omega)

/-- `Decode` reads nothing but the data exactly if that is made of whole segments. A packet is far
shorter than the lengths at which `i` could wrap. -/
theorem decode_staysInside {data : List UInt8} (short : data.length + 127 < 2 ^ 32) (start : Nat)
    (dst : DmxBuffer) :
    StaysInside data ⟨0, start, dst⟩ ↔ WellCut start dst.prepared.size data := by
  constructor
  · rintro ⟨steps, after, done, ended⟩
    exact @wellCut_of_run data short steps after [] data ⟨0, start, dst⟩ rfl rfl done ended
  · rintro ⟨segments, tail, parts, each, last⟩
    exact @run_of_wellCut data short segments [] tail ⟨0, start, dst⟩ parts rfl each last

/-- Three slots of the value 7, and a literal of two. -/
theorem decode_staysInside_segments : WellCut 0 0 [0x83, 7, 2, 1, 2] :=
  (decode_staysInside (by decide) 0 (.holding [])).mp
    ⟨2, ((Decoder.mk 0 0 (.holding [])).run [0x83, 7, 2, 1, 2] 2).get rfl, rfl, by decide⟩

/-- A repeat without its value. -/
theorem repeat_outside : ¬ StaysInside [0x83] ⟨0, 0, .new⟩ := by
  rintro ⟨steps, after, done, ended⟩
  cases steps with
  | zero =>
    cases done
    exact absurd ended (by decide)
  | succ steps =>
    have first : (Decoder.mk 0 0 .new).step [0x83] = none := rfl
    cases done

end OpenLighting.RunLengthEncoder
