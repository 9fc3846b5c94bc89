import OpenLighting.BoundedReads
import OpenLighting.DmxBuffer

/- The run length encoding of ESP Net. -/
namespace OpenLighting.EspNet

open BoundedReads List DmxBuffer

def repeatValue : UInt8 := 0xfe

def escapeValue : UInt8 := 0xfd

/-- The loop of `Decode`, with the rounds that it is given. `value` is an offset into the data. -/
def decodeLoop (data : List UInt8) : Nat → Nat → Nat → DmxBuffer → Except Fault DmxBuffer
  | 0, _, _, _ => .error .unfinished
  | rounds + 1, i, value, dst =>
    if i < dmxUniverseSize ∧ value < data.length then do
      let byte ← elementAt data value
      if byte = repeatValue then
        let count ← elementAt data (value + 1)
        let level ← elementAt data (value + 2)
        decodeLoop data rounds (i + count.toNat) (value + 3)
          (dst.setRangeToValue i level count.toNat).1
      else if byte = escapeValue then
        -- This case goes on with the next one.
        let level ← elementAt data (value + 1)
        decodeLoop data rounds (i + 1) (value + 2) (dst.setChannel i level)
      else decodeLoop data rounds (i + 1) (value + 1) (dst.setChannel i byte)
    else .ok dst

variable (dst : DmxBuffer)

def decode (data : List UInt8) : Except Fault DmxBuffer :=
  decodeLoop data (data.length + 1) 0 0 dst.reset

/-- What the data are made of. -/
inductive Token where
  | literal (byte : UInt8)
  | escaped (byte : UInt8)
  | repeated (count level : UInt8)

def Token.slots : Token → List UInt8
  | .literal byte | .escaped byte => [byte]
  | .repeated count level => List.replicate count.toNat level

/-- The tokens at the start of the data, and a marker at the end that is cut off. -/
def tokens : List UInt8 → List Token × List UInt8
  | [] => ([], [])
  | byte :: rest =>
    if byte = repeatValue then
      match rest with
      | count :: level :: rest => (.repeated count level :: (tokens rest).1, (tokens rest).2)
      | cut => ([], byte :: cut)
    else if byte = escapeValue then
      match rest with
      | level :: rest => (.escaped level :: (tokens rest).1, (tokens rest).2)
      | [] => ([], [byte])
    else (.literal byte :: (tokens rest).1, (tokens rest).2)

def slotsOf (data : List UInt8) : List UInt8 := (tokens data).1.flatMap Token.slots

/-- The expansion of the data, cut at the size of a universe. -/
def expansion (data : List UInt8) : List UInt8 := (slotsOf data).take dmxUniverseSize

/-- No marker is cut off by the end of the data, at least not before the universe is full. -/
def Complete (data : List UInt8) : Prop :=
  (tokens data).2 = [] ∨ dmxUniverseSize ≤ (slotsOf data).length

instance (data : List UInt8) : Decidable (Complete data) := inferInstanceAs (Decidable (_ ∨ _))

/-- The call comes to its end, reads nothing but the data, and leaves their expansion. -/
def Decodes (data : List UInt8) : Prop :=
  ∃ result, decode dst data = .ok result ∧ result.slots = expansion data

theorem tokens_repeat (count level : UInt8) (rest : List UInt8) :
    tokens (repeatValue :: count :: level :: rest) =
      (.repeated count level :: (tokens rest).1, (tokens rest).2) := by
  rw [tokens, if_pos rfl]

theorem tokens_repeat_nil : tokens [repeatValue] = ([], [repeatValue]) := by simp [tokens]

theorem tokens_repeat_singleton (count : UInt8) :
    tokens [repeatValue, count] = ([], [repeatValue, count]) := by simp [tokens]

theorem tokens_escape (level : UInt8) (rest : List UInt8) :
    tokens (escapeValue :: level :: rest) =
      (.escaped level :: (tokens rest).1, (tokens rest).2) := by
  have other : escapeValue ≠ repeatValue := by decide
  cases rest <;> simp [tokens, other]

theorem tokens_escape_nil : tokens [escapeValue] = ([], [escapeValue]) := by
  have other : escapeValue ≠ repeatValue := by decide
  simp [tokens, other]

theorem tokens_literal {byte : UInt8} (plain : byte ≠ repeatValue) (unescaped : byte ≠ escapeValue)
    (rest : List UInt8) :
    tokens (byte :: rest) = (.literal byte :: (tokens rest).1, (tokens rest).2) := by
  rcases rest with _ | ⟨_, _ | ⟨_, _⟩⟩ <;> simp [tokens, plain, unescaped]

section Writing
variable {buffer : DmxBuffer} {written padding : List UInt8}

/-- A buffer with slots that are written, over what was there before. -/
def filled (written padding : List UInt8) : DmxBuffer :=
  .holding (written ++ padding.drop written.length)

theorem setChannel_eq (buffer : DmxBuffer) {channel : Nat} (below : channel < dmxUniverseSize)
    (level : UInt8) :
    buffer.setChannel channel level = (buffer.setRange channel (some [level])).1 := by
  have one : [level].take (dmxUniverseSize - channel) = [level] :=
    take_of_length_le (by rw [length_singleton]; omega)
  unfold setChannel setRange
  dsimp only
  rw [if_neg (Nat.not_le.mpr below), if_neg (Nat.not_le.mpr below), one]
  split <;> rfl

/-- Writing on from where the slots end that are written already. -/
theorem setRange_filled (fills : buffer.prepared = filled written padding)
    (below : written.length < dmxUniverseSize) (short : padding.length ≤ dmxUniverseSize)
    (data : List UInt8) :
    (buffer.setRange written.length (some data)).1 = filled (written ++ data) padding := by
  have fits : (written ++ padding.drop written.length).length ≤ dmxUniverseSize := by
    rw [length_append, length_drop]
    omega
  have slots : buffer.prepared.slots = written ++ padding.drop written.length := by
    rw [fills]
    exact holding_slots fits
  have inside : written.length ≤ buffer.prepared.size := by
    rw [size, slots, length_append]
    omega
  have behind (count : Nat) : (written ++ padding.drop written.length).drop
      (written.length + count) = padding.drop (written.length + count) := by
    rw [← drop_drop, drop_left, drop_drop]
  rw [setRange_inside below inside, slots]
  unfold filled overlay
  rw [take_left, behind, length_append]
  -- The part behind the data is only seen if all of them fit.
  by_cases whole : data.length ≤ dmxUniverseSize - written.length
  · rw [take_of_length_le whole]
  · apply ext
    · rfl
    · have front : (written ++ data).take dmxUniverseSize =
          written ++ data.take (dmxUniverseSize - written.length) := by
        rw [take_append, take_of_length_le below.le]
      have full : (written ++ data.take (dmxUniverseSize - written.length)).length =
          dmxUniverseSize := by
        rw [length_append, length_take]
        omega
      simp only [holding]
      rw [take_append_of_le_length full.ge, take_of_length_le full.le,
        take_append_of_le_length (by rw [length_append]; omega), front]

theorem prepared_filled (written padding : List UInt8) :
    (filled written padding).prepared = filled written padding :=
  prepared_of_allocated (holding_allocated _)

end Writing

/-- What the buffer shows of its memory when the first slot is written. -/
def background : List UInt8 :=
  if dst.allocated then [] else List.replicate dmxUniverseSize 0

theorem reset_prepared : dst.reset.prepared = filled [] (background dst) := by
  unfold reset background filled
  by_cases memory : dst.allocated = true
  · rw [if_pos memory, if_pos memory]
    rfl
  · rw [if_neg memory, if_neg memory, prepared, if_neg memory]
    rfl

theorem background_length : (background dst).length ≤ dmxUniverseSize := by
  unfold background
  split
  · exact Nat.zero_le _
  · rw [length_replicate]

section Loop
variable {data : List UInt8} {value : Nat}

/-- What a round does with the data that are left: it writes the slots of the first token, or finds
the token cut off. -/
inductive RoundEnds (data : List UInt8) (rounds i value : Nat) (dst : DmxBuffer) : Prop
  | writes (token : Token) (size : Nat) (positive : 0 < size)
      (first : tokens (data.drop value) =
        (token :: (tokens (data.drop (value + size))).1, (tokens (data.drop (value + size))).2))
      (goes : decodeLoop data (rounds + 1) i value dst =
        decodeLoop data rounds (i + token.slots.length) (value + size)
          (dst.setRange i (some token.slots)).1)
  | cut (none : (tokens (data.drop value)).1 = []) (rest : (tokens (data.drop value)).2 ≠ [])
      (fails : decodeLoop data (rounds + 1) i value dst = .error .outside)

theorem elementAt_drop (data : List UInt8) (value index : Nat) :
    elementAt data (value + index) = elementAt (data.drop value) index := by
  unfold elementAt
  rw [List.getElem?_drop]

theorem round_ends (rounds : Nat) {i : Nat} (dst : DmxBuffer) (room : i < dmxUniverseSize)
    (left : value < data.length) : RoundEnds data rounds i value dst := by
  have unfolded := decodeLoop.eq_2 data i value dst rounds
  have onward (size : Nat) : data.drop (value + size) = (data.drop value).drop size :=
    drop_drop.symm
  rw [if_pos ⟨room, left⟩, ← Nat.add_zero value, elementAt_drop, Nat.add_zero, elementAt_drop,
    elementAt_drop] at unfolded
  cases here : data.drop value with
  | nil =>
    have length := congrArg List.length here
    rw [length_drop, length_nil] at length
    omega
  | cons byte rest =>
    have read : elementAt (byte :: rest) 0 = .ok byte := rfl
    rw [here, read, ok_bind] at unfolded
    by_cases repeats : byte = repeatValue
    · subst repeats
      cases rest with
      | nil =>
        refine .cut ?_ ?_ unfolded <;> rw [here, tokens_repeat_nil]
        exact cons_ne_nil _ _
      | cons count rest =>
        cases rest with
        | nil =>
          refine .cut ?_ ?_ unfolded <;> rw [here, tokens_repeat_singleton]
          exact cons_ne_nil _ _
        | cons level rest =>
          have next : data.drop (value + 3) = rest := by rw [onward, here]; rfl
          refine .writes (.repeated count level) 3 (by omega) ?_ ?_
          · rw [here, next, tokens_repeat]
          · rw [unfolded, Token.slots, length_replicate, ← setRangeToValue_eq]
            rfl
    · rw [if_neg repeats] at unfolded
      by_cases escapes : byte = escapeValue
      · subst escapes
        rw [if_pos rfl] at unfolded
        cases rest with
        | nil =>
          refine .cut ?_ ?_ unfolded <;> rw [here, tokens_escape_nil]
          exact cons_ne_nil _ _
        | cons level rest =>
          have next : data.drop (value + 2) = rest := by rw [onward, here]; rfl
          refine .writes (.escaped level) 2 (by omega) ?_ ?_
          · rw [here, next, tokens_escape]
          · rw [unfolded, Token.slots, ← setChannel_eq dst room]
            rfl
      · rw [if_neg escapes] at unfolded
        have next : data.drop (value + 1) = rest := by rw [onward, here]; rfl
        refine .writes (.literal byte) 1 (by omega) ?_ ?_
        · rw [here, next, tokens_literal repeats escapes]
        · rw [unfolded, Token.slots, ← setChannel_eq dst room]
          rfl

variable {padding written : List UInt8}

theorem filled_append (full : dmxUniverseSize ≤ written.length) (slots : List UInt8) :
    filled (written ++ slots) padding = filled written padding := by
  unfold filled
  apply ext
  · rfl
  · simp only [holding]
    rw [append_assoc, take_append_of_le_length full, take_append_of_le_length full]

/-- Either the slots that are left are written behind those that are there already, or the data end
in the middle of a token that is still needed. A buffer that is written to has memory. -/
theorem decodeLoop_runs (data : List UInt8) (short : padding.length ≤ dmxUniverseSize)
    (rounds value : Nat)
    (written : List UInt8) (dst : DmxBuffer) (enough : data.length - value < rounds)
    (fills : dst.prepared = filled written padding)
    (memory : dst.allocated = true ∨ written = []) :
    if (tokens (data.drop value)).2 = [] ∨
        dmxUniverseSize ≤ (written ++ slotsOf (data.drop value)).length then
      ∃ result, decodeLoop data rounds written.length value dst = .ok result ∧
        result.prepared = filled (written ++ slotsOf (data.drop value)) padding ∧
        (result.allocated = true ∨ data.drop value = [] ∧ result = dst)
    else decodeLoop data rounds written.length value dst = .error .outside := by
  induction rounds generalizing value written dst with
  | zero => omega
  | succ rounds ih =>
    by_cases going : written.length < dmxUniverseSize ∧ value < data.length
    · cases round_ends rounds dst going.1 going.2 with
      | cut none rest fails =>
        have few : slotsOf (data.drop value) = [] := by rw [slotsOf, none, flatMap_nil]
        have room : ¬ dmxUniverseSize ≤ written.length := Nat.not_le.mpr going.1
        rw [few, append_nil, if_neg (by simp only [rest, room, or_self, not_false_eq_true])]
        exact fails
      | writes token size positive first goes =>
        have next := setRange_filled fills going.1 short token.slots
        have onward := ih (value + size) (written ++ token.slots)
          (dst.setRange written.length (some token.slots)).1 (by omega)
          (by rw [next, prepared_filled]) (.inl (by rw [next]; rfl))
        have slots : slotsOf (data.drop value) =
            token.slots ++ slotsOf (data.drop (value + size)) := by
          rw [slotsOf, first, flatMap_cons]
          rfl
        have rest : (tokens (data.drop value)).2 = (tokens (data.drop (value + size))).2 := by
          rw [first]
        rw [goes, slots, ← append_assoc, ← length_append, rest]
        split at onward
        · rename_i complete
          obtain ⟨result, returns, shows, allocated⟩ := onward
          rw [if_pos complete]
          refine ⟨result, returns, shows, .inl ?_⟩
          rcases allocated with allocated | ⟨_, same⟩
          · exact allocated
          · rw [same, next]
            rfl
        · rename_i cut
          rw [if_neg cut]
          exact onward
    · have ends : decodeLoop data (rounds + 1) written.length value dst = .ok dst := if_neg going
      by_cases full : dmxUniverseSize ≤ written.length
      · rw [if_pos (.inr (by rw [length_append]; omega)), filled_append full]
        refine ⟨dst, ends, fills, .inl (memory.resolve_right ?_)⟩
        rintro rfl
        exact absurd full (by decide)
      · have ended : data.drop value = [] := drop_eq_nil_of_le (by omega)
        rw [ended, if_pos (.inl rfl), slotsOf, tokens, flatMap_nil, append_nil]
        exact ⟨dst, ends, fills, .inr ⟨rfl, rfl⟩⟩

end Loop

/-- The buffer has memory, or needs none, or is written to the end. -/
def Covered (data : List UInt8) : Prop :=
  dst.allocated = true ∨ data = [] ∨ dmxUniverseSize ≤ (slotsOf data).length

theorem filled_slots_iff (written : List UInt8) :
    (filled written (background dst)).slots = written.take dmxUniverseSize ↔
      dst.allocated = true ∨ dmxUniverseSize ≤ written.length := by
  have slots : (filled written (background dst)).slots =
      (written ++ (background dst).drop written.length).take dmxUniverseSize := rfl
  rw [slots]
  constructor
  · intro same
    by_contra neither
    rw [not_or] at neither
    have length := congrArg List.length same
    rw [background, if_neg neither.1, length_take, length_take, length_append,
      length_drop, length_replicate] at length
    omega
  · rintro (memory | full)
    · rw [background, if_pos memory, drop_nil, append_nil]
    · rw [take_append_of_le_length full]

theorem decode_runs (data : List UInt8) : if Complete data then
      ∃ result, decode dst data = .ok result ∧
        result.prepared = filled (slotsOf data) (background dst) ∧
        (result.allocated = true ∨ data = [] ∧ result = dst.reset)
    else decode dst data = .error .outside := by
  have runs := decodeLoop_runs data (background_length dst) (data.length + 1) 0 []
    dst.reset (by omega) (reset_prepared dst) (.inr rfl)
  exact runs

/-- Decoding comes to its end inside of the data if no token is cut off, and then leaves the slots
over what the buffer shows when it gets memory. -/
theorem decode_eq (data : List UInt8) : if Complete data then
      ∃ result, decode dst data = .ok result ∧
        result.slots = if data = [] then [] else (filled (slotsOf data) (background dst)).slots
    else decode dst data = .error .outside := by
  have runs := decode_runs dst data
  split at runs
  · rename_i complete
    rw [if_pos complete]
    obtain ⟨result, returns, shows, allocated⟩ := runs
    refine ⟨result, returns, ?_⟩
    by_cases empty : data = []
    · subst empty
      have ends : decode dst [] = .ok dst.reset := rfl
      cases returns
      rw [if_pos rfl, reset_slots]
    · have present := allocated.resolve_right (fun none => empty none.1)
      rw [if_neg empty, ← shows, prepared_of_allocated present]
  · rename_i cut
    rw [if_neg cut]
    exact runs

/-- Decoding goes as it should if no token is cut off that is needed, and the buffer has memory
already, unless there is nothing to decode or the slots fill it. -/
theorem run_lengths_decoded_iff (dst : DmxBuffer) (data : List UInt8) :
    Decodes dst data ↔ Complete data ∧ Covered dst data := by
  have ends := decode_eq dst data
  unfold Decodes
  by_cases complete : Complete data
  · rw [if_pos complete] at ends
    obtain ⟨result, returns, shows⟩ := ends
    simp only [returns, Except.ok.injEq, exists_eq_left', shows, complete, true_and, Covered]
    by_cases empty : data = []
    · subst empty
      simp [expansion, slotsOf, tokens]
    · simp only [empty, if_false, false_or]
      exact filled_slots_iff dst (slotsOf data)
  · rw [if_neg complete] at ends
    simp [ends, complete]

/-- The repeat marker is the last byte: its count and level are read behind the data. A buffer that
was never written to is left with 512 slots. -/
theorem not_forall_decodes : ¬ ∀ (dst : DmxBuffer) (data : List UInt8), Decodes dst data := by
  intro all
  have ⟨result, returns, _⟩ := all (.holding []) [0xfe]
  cases returns

end OpenLighting.EspNet
