import OpenLighting.SlpPacketParser

/- The authentication blocks of a URL entry, which the parser skips. -/
namespace OpenLighting.Slp

open ByteCodec SLPPacketParser

/-- What the two bytes at an offset say. -/
def fieldAt (offset : Nat) (input : List UInt8) : Nat :=
  (UInt16.ofNat (number ((input.drop offset).take 2))).toNat

variable (input : List UInt8)

/-- The length of an authentication block, as its own field gives it. -/
def blockLength : Nat := fieldAt 2 input

/-- The bytes in front of the SPI string of a block. -/
def authHeaderSize : Nat := 10

/-- The SPI string of a block as it is sent. -/
def rawSpi : List UInt8 :=
  (input.drop authHeaderSize).take (fieldAt 8 input)

/-- The block, and its SPI string, are in the input. -/
def Complete : Prop :=
  authHeaderSize + fieldAt 8 input ≤ input.length

instance (input : List UInt8) : Decidable (Complete input) := inferInstanceAs (Decidable (_ ≤ _))

theorem length_rawSpi {input : List UInt8} (complete : Complete input) :
    (rawSpi input).length = fieldAt 8 input := by
  unfold Complete at complete
  simp only [rawSpi, List.length_take, List.length_drop]
  omega

section Readers
variable {α β : Type}

/-- What is done with bytes that are read, if there are enough. -/
theorem bind_apply {reader : Reader α} {value : List UInt8 → α} {count : List UInt8 → Nat}
    (reads : ∀ input, reader input =
      if count input ≤ input.length then some (value input, input.drop (count input)) else none)
    (next : α → Reader β) (input : List UInt8) :
    (reader >>= next) input =
      if count input ≤ input.length then next (value input) (input.drop (count input))
      else none := by
  show (reader input).bind (fun pair => next pair.1 pair.2) = _
  rw [reads]
  split <;> rfl

theorem take_apply (size : Nat) (input : List UInt8) :
    take size input =
      if size ≤ input.length then some (input.take size, input.drop size) else none := rfl

theorem uint16_apply : uint16 input =
      if 2 ≤ input.length then some (UInt16.ofNat (number (input.take 2)), input.drop 2)
      else none := by
  show (take 2 input).bind (fun pair => some (UInt16.ofNat (number pair.1), pair.2)) = _
  unfold take
  split <;> rfl

theorem uint32_apply : uint32 input =
      if 4 ≤ input.length then some (UInt32.ofNat (number (input.take 4)), input.drop 4)
      else none := by
  show (take 4 input).bind (fun pair => some (UInt32.ofNat (number pair.1), pair.2)) = _
  unfold take
  split <;> rfl

theorem extractString_apply : extractString true input = if 2 + fieldAt 0 input ≤ input.length then
        some (slpStringUnescape ((input.drop 2).take (fieldAt 0 input)),
          input.drop (2 + fieldAt 0 input))
      else none := by
  unfold extractString
  rw [bind_apply uint16_apply, bind_apply (take_apply _), List.length_drop, List.drop_drop]
  have field : (UInt16.ofNat (number (input.take 2))).toNat = fieldAt 0 input := rfl
  by_cases enough : 2 + fieldAt 0 input ≤ input.length
  · rw [if_pos (by omega), if_pos (by omega), if_pos enough]
    rfl
  · rw [if_neg enough]
    by_cases long : 2 ≤ input.length
    · rw [if_pos long, if_neg (by omega)]
    · rw [if_neg long]

end Readers

variable (text : List UInt8)

/-- A backslash without two bytes behind it is cut off with what follows it, and one in front of
the digits of a byte is replaced. -/
def Shortened : Prop :=
  ∃ front back, text = front ++ 92 :: back ∧
    ∀ high low rest, back = high :: low :: rest → (unescaped high low).isSome = true

theorem length_unescape_le : (slpStringUnescape text).length ≤ text.length := by
  induction text using slpStringUnescape.induct with
  | case1 | case2 | case4 other => simp [slpStringUnescape]
  | case3 byte other => simp [slpStringUnescape, other]
  | case5 byte plain => simp [slpStringUnescape, plain]
  | case6 byte other plain last => simp [slpStringUnescape, plain, last]
  | case7 high low rest none ih =>
    simp only [slpStringUnescape, ↓reduceIte, none, List.length_cons] at ih ⊢
    omega
  | case8 high low rest value some ih =>
    simp only [slpStringUnescape, ↓reduceIte, some, List.length_cons] at ih ⊢
    omega
  | case9 byte high low rest plain ih =>
    simp only [slpStringUnescape, if_neg plain, List.length_cons] at ih ⊢
    omega

/-- Only the first byte, or something behind it, makes a string shorter. -/
theorem shortened_cons {byte : UInt8} {rest : List UInt8} :
    Shortened (byte :: rest) ↔
      (byte = 92 ∧ ∀ high low behind, rest = high :: low :: behind →
        (unescaped high low).isSome = true) ∨ Shortened rest := by
  constructor
  · intro shortened
    obtain ⟨front, back, shape, ends⟩ := shortened
    cases front with
    | nil =>
      cases shape
      exact .inl ⟨rfl, ends⟩
    | cons first front =>
      cases shape
      exact .inr ⟨front, back, rfl, ends⟩
  · intro either
    rcases either with ⟨backslash, ends⟩ | ⟨front, back, shape, ends⟩
    · exact ⟨[], rest, by rw [backslash, List.nil_append], ends⟩
    · exact ⟨byte :: front, back, by rw [shape, List.cons_append], ends⟩

theorem not_shortened_nil : ¬ Shortened [] := by
  intro shortened
  obtain ⟨front, back, shape, _⟩ := shortened
  simp at shape

theorem length_unescape_lt_iff :
    (slpStringUnescape text).length < text.length ↔ Shortened text := by
  induction text using slpStringUnescape.induct with
  | case1 => simp [slpStringUnescape, not_shortened_nil]
  | case2 | case4 other => simp [slpStringUnescape, shortened_cons]
  | case3 byte other => simp [slpStringUnescape, other, shortened_cons, not_shortened_nil]
  | case5 byte plain => simp [slpStringUnescape, plain, shortened_cons]
  | case6 byte other plain last =>
    simp [slpStringUnescape, plain, last, shortened_cons, not_shortened_nil]
  | case7 high low rest none ih =>
    simp only [slpStringUnescape, ↓reduceIte, none, List.length_cons, Nat.add_lt_add_iff_right]
      at ih ⊢
    rw [ih, @shortened_cons 92]
    simp [none]
  | case8 high low rest value some ih =>
    have most := length_unescape_le rest
    simp only [slpStringUnescape, ↓reduceIte, some, List.length_cons]
    rw [shortened_cons]
    simp only [List.cons.injEq, true_and]
    constructor
    · intro _
      left
      rintro _ _ _ ⟨rfl, rfl, _⟩
      rw [some]
      rfl
    · intro _
      omega
  | case9 byte high low rest plain ih =>
    simp only [slpStringUnescape, if_neg plain, List.length_cons, Nat.add_lt_add_iff_right]
      at ih ⊢
    rw [ih, @shortened_cons byte]
    simp [plain]

/-- The bytes of a block that are read, if it is accepted: the length of the SPI string is taken
off after the string is unescaped. -/
def consumed : Nat :=
  blockLength input + ((rawSpi input).length - (slpStringUnescape (rawSpi input)).length)

/-- What is left of a block of this length, of which so many bytes count as used. -/
theorem skip_rest (length used : Nat) (rest : List UInt8) :
    (if (length - used : Int) < 0 then failure
      else if (length - used : Int) = 0 then pure ()
      else do
        let _ ← take (length - used : Int).toNat
        pure () : Reader Unit) rest =
      if used ≤ length ∧ length - used ≤ rest.length then some ((), rest.drop (length - used))
      else none := by
  have size : (length - used : Int).toNat = length - used := by omega
  by_cases small : length < used
  · rw [if_pos (by omega), if_neg (by omega)]
    rfl
  · rw [if_neg (by omega)]
    by_cases whole : length = used
    · rw [if_pos (by omega), if_pos (by omega), whole, Nat.sub_self, List.drop_zero]
      rfl
    · rw [if_neg (by omega), bind_apply (take_apply _), size]
      by_cases enough : length - used ≤ rest.length
      · rw [if_pos enough, if_pos (by omega)]
        rfl
      · rw [if_neg enough, if_neg (by omega)]

theorem extractAuthBlock_apply : extractAuthBlock input = if Complete input ∧
          authHeaderSize + (slpStringUnescape (rawSpi input)).length ≤ blockLength input ∧
          consumed input ≤ input.length then some ((), input.drop (consumed input))
      else none := by
  have field : fieldAt 0 (((input.drop 2).drop 2).drop 4) = fieldAt 8 input := by
    simp only [fieldAt, List.drop_drop]
  have raw : ((((input.drop 2).drop 2).drop 4).drop 2).take (fieldAt 8 input) = rawSpi input := by
    simp only [rawSpi, authHeaderSize, List.drop_drop]
  unfold extractAuthBlock
  rw [bind_apply uint16_apply, bind_apply uint16_apply, bind_apply uint32_apply,
    bind_apply extractString_apply, field, raw]
  simp only [List.length_drop, List.drop_drop]
  have shorter := length_unescape_le (rawSpi input)
  by_cases complete : Complete input
  · have enough : 10 + fieldAt 8 input ≤ input.length := complete
    have sent := length_rawSpi complete
    have block : (UInt16.ofNat (number (List.take 2 (List.drop 2 input)))).toNat =
        blockLength input := rfl
    rw [if_pos (by omega), if_pos (by omega), if_pos (by omega), if_pos (by omega), block,
      skip_rest, List.length_drop, List.drop_drop]
    unfold consumed authHeaderSize
    by_cases accepted : 10 + (slpStringUnescape (rawSpi input)).length ≤ blockLength input ∧
        blockLength input + ((rawSpi input).length - (slpStringUnescape (rawSpi input)).length) ≤
          input.length
    · have offset : 2 + 2 + 4 + (2 + fieldAt 8 input) + (blockLength input -
          (2 + 2 + 4 + 2 + (slpStringUnescape (rawSpi input)).length)) = blockLength input +
            ((rawSpi input).length - (slpStringUnescape (rawSpi input)).length) := by omega
      rw [if_pos (by omega), if_pos ⟨complete, accepted⟩, offset]
    · rw [if_neg (by omega), if_neg (fun both => accepted both.2)]
  · have short : ¬ 10 + fieldAt 8 input ≤ input.length := complete
    rw [if_neg (fun accepted : Complete input ∧ _ => complete accepted.1)]
    by_cases descriptor : 2 ≤ input.length
    · by_cases length : 2 ≤ input.length - 2
      · by_cases timestamp : 4 ≤ input.length - (2 + 2)
        · rw [if_pos descriptor, if_pos length, if_pos timestamp, if_neg (by omega)]
        · rw [if_pos descriptor, if_pos length, if_neg timestamp]
      · rw [if_pos descriptor, if_neg length]
    · rw [if_neg descriptor]

/-- What follows so many blocks by the lengths in them. -/
def afterBlocks : Nat → List UInt8 → List UInt8
  | 0, input => input
  | count + 1, input => afterBlocks count (input.drop (blockLength input))

/-- After each of so many blocks that are skipped, the parser stands where the lengths say. -/
def Aligned (count : Nat) (input : List UInt8) : Prop :=
  ∀ passed ≤ count, ∀ rest, extractAuthBlocks passed input = some ((), rest) →
    rest = afterBlocks passed input

/-- A block with an SPI string that becomes shorter, room for what is left of it, and so many
bytes behind it as the string has lost. -/
def Misread : Prop :=
  Complete input ∧ Shortened (rawSpi input) ∧
    authHeaderSize + (slpStringUnescape (rawSpi input)).length ≤ blockLength input ∧
    consumed input ≤ input.length

/-- A block that is there, with an SPI string that stays as it is. -/
def Skipped : Prop :=
  Complete input ∧ ¬ Shortened (rawSpi input) ∧
    authHeaderSize + fieldAt 8 input ≤ blockLength input ∧ blockLength input ≤ input.length

/-- None of so many blocks, as far as they are there, is misread. -/
def Undamaged : Nat → List UInt8 → Prop
  | 0, _ => True
  | count + 1, input =>
    ¬ Misread input ∧ (Skipped input → Undamaged count (input.drop (blockLength input)))

section Skipping
variable {input : List UInt8}

/-- A misread block takes more than its length. -/
theorem Misread.consumed_ne (misread : Misread input) :
    extractAuthBlock input = some ((), input.drop (consumed input)) ∧
      input.drop (consumed input) ≠ input.drop (blockLength input) := by
  have ⟨complete, shortened, room, enough⟩ := misread
  refine ⟨by rw [extractAuthBlock_apply, if_pos ⟨complete, room, enough⟩], ?_⟩
  intro same
  have fewer := (length_unescape_lt_iff (rawSpi input)).mpr shortened
  have lengths := congrArg List.length same
  simp only [List.length_drop] at lengths
  unfold consumed at *
  omega

theorem consumed_of_not_shortened (kept : ¬ Shortened (rawSpi input)) :
    (slpStringUnescape (rawSpi input)).length = (rawSpi input).length ∧
      consumed input = blockLength input := by
  have most := length_unescape_le (rawSpi input)
  rw [← length_unescape_lt_iff] at kept
  unfold consumed
  omega

theorem Skipped.extract (skipped : Skipped input) :
    extractAuthBlock input = some ((), input.drop (blockLength input)) := by
  have ⟨complete, kept, room, enough⟩ := skipped
  have ⟨same, length⟩ := consumed_of_not_shortened kept
  rw [extractAuthBlock_apply, length, same, length_rawSpi complete,
    if_pos ⟨complete, room, enough⟩]

/-- What is neither is refused. -/
theorem extract_eq_none (sound : ¬ Misread input) (other : ¬ Skipped input) :
    extractAuthBlock input = none := by
  rw [extractAuthBlock_apply]
  apply if_neg
  intro accepted
  have ⟨complete, room, enough⟩ := accepted
  by_cases shortened : Shortened (rawSpi input)
  · exact sound ⟨complete, shortened, room, enough⟩
  · have ⟨same, length⟩ := consumed_of_not_shortened shortened
    rw [same, length_rawSpi complete] at room
    rw [length] at enough
    exact other ⟨complete, shortened, room, enough⟩

theorem extractAuthBlocks_succ (count : Nat) (input : List UInt8) :
    extractAuthBlocks (count + 1) input =
      (extractAuthBlock input).bind (fun pair => extractAuthBlocks count pair.2) := rfl

end Skipping

/-- The blocks are skipped by their lengths exactly if none of them is misread. -/
theorem aligned_iff (count : Nat) (input : List UInt8) :
    Aligned count input ↔ Undamaged count input := by
  induction count generalizing input with
  | zero =>
    constructor
    · exact fun _ => trivial
    · intro _ passed most rest read
      cases Nat.le_zero.mp most
      cases read
      rfl
  | succ count ih =>
    constructor
    · intro aligned
      constructor
      · intro misread
        have ⟨read, different⟩ := misread.consumed_ne
        apply different
        apply aligned 1 (by omega)
        rw [extractAuthBlocks_succ, read]
        rfl
      · intro skipped
        rw [← ih]
        intro passed most rest read
        apply aligned (passed + 1) (by omega) rest
        rw [extractAuthBlocks_succ, skipped.extract]
        exact read
    · intro undamaged passed most rest read
      have ⟨sound, further⟩ := undamaged
      cases passed with
      | zero =>
        cases read
        rfl
      | succ passed =>
        rw [extractAuthBlocks_succ] at read
        by_cases skipped : Skipped input
        · rw [skipped.extract] at read
          exact (ih _).mpr (further skipped) passed (by omega) rest read
        · rw [extract_eq_none sound skipped] at read
          cases read

/-- The number of authentication blocks of a URL entry, and where they start. -/
def authCount : Nat :=
  (UInt8.ofNat (number ((input.drop (5 + fieldAt 3 input)).take 1))).toNat

def authsOf : List UInt8 := input.drop (6 + fieldAt 3 input)

theorem uint8_apply : uint8 input =
      if 1 ≤ input.length then some (UInt8.ofNat (number (input.take 1)), input.drop 1)
      else none := by
  show (take 1 input).bind (fun pair => some (UInt8.ofNat (number pair.1), pair.2)) = _
  unfold take
  split <;> rfl

/-- What follows an entry is what follows its authentication blocks. -/
theorem extractURLEntry_rest {input rest : List UInt8} {entry : URLEntry}
    (read : extractURLEntry input = some (entry, rest)) :
    extractAuthBlocks (authCount input) (authsOf input) = some ((), rest) := by
  have field : fieldAt 0 ((input.drop 1).drop 2) = fieldAt 3 input := by
    simp only [fieldAt, List.drop_drop]
  have offset : 1 + 2 + (2 + fieldAt 3 input) = 5 + fieldAt 3 input := by omega
  have behind : 5 + fieldAt 3 input + 1 = 6 + fieldAt 3 input := by omega
  unfold extractURLEntry at read
  rw [bind_apply uint8_apply, bind_apply uint16_apply, bind_apply extractString_apply, field,
    bind_apply uint8_apply] at read
  simp only [List.length_drop, List.drop_drop, offset, behind] at read
  split_ifs at read
  obtain ⟨⟨_, after⟩, found, same⟩ := Option.bind_eq_some_iff.mp read
  cases same
  exact found

/-- The blocks of an entry, and the fields behind them, are read where the lengths say. -/
structure EntryAligned (input : List UInt8) : Prop where
  blocks : Aligned (authCount input) (authsOf input)
  behind : ∀ entry rest, extractURLEntry input = some (entry, rest) →
    rest = afterBlocks (authCount input) (authsOf input)

/-- A block is skipped exactly if it is not misread, and those of an entry if none of them is. -/
theorem auth_blocks_skipped_iff (input : List UInt8) :
    ((∀ rest, extractAuthBlock input = some ((), rest) →
        rest.length + blockLength input = input.length ∧ rest = input.drop (blockLength input)) ↔
      ¬ Misread input) ∧
    (EntryAligned input ↔ Undamaged (authCount input) (authsOf input)) := by
  constructor
  · constructor
    · intro skips misread
      have ⟨read, different⟩ := misread.consumed_ne
      exact different (skips _ read).2
    · intro sound rest read
      by_cases skipped : Skipped input
      · rw [skipped.extract] at read
        cases read
        have ⟨_, _, _, enough⟩ := skipped
        refine ⟨?_, rfl⟩
        rw [List.length_drop]
        omega
      · rw [extract_eq_none sound skipped] at read
        cases read
  · rw [← aligned_iff]
    constructor
    · exact fun aligned => aligned.blocks
    · intro aligned
      refine ⟨aligned, ?_⟩
      intro entry rest read
      exact aligned (authCount input) (Nat.le_refl _) rest (extractURLEntry_rest read)

/-- A block of 13 bytes with the SPI string `\41`, and two bytes behind it. -/
def escapedBlock : List UInt8 := [0, 2, 0, 13, 0, 0, 0, 0, 0, 3, 92, 52, 49, 7, 8]

theorem escaped_spi_misread :
    ¬ ∀ input rest, extractAuthBlock input = some ((), rest) →
        rest.length + blockLength input = input.length ∧
          rest = input.drop (blockLength input) := by
  intro skips
  have read : extractAuthBlock escapedBlock = some ((), []) := by decide +kernel
  exact absurd (skips escapedBlock [] read).2 (by decide)

end OpenLighting.Slp
