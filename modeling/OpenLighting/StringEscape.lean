import OpenLighting.StringUtils
import OpenLighting.WhileLoop

/- `Escape`, in place, and the strings of JSON. -/
namespace OpenLighting.StringUtils

open WhileLoop

/-- The string that grows, and how far `iter` is behind its beginning. -/
structure Escaping where
  text : List UInt8
  iter : Nat
  deriving DecidableEq

/-- `iter = original->insert(iter, '\\'); iter++;` -/
def insertBackslash (text : List UInt8) (iter : Nat) : Escaping :=
  ⟨text.insertIdx iter 92, iter + 1⟩

/-- The `switch` of `Escape`. -/
def escapeByte (text : List UInt8) (iter : Nat) : UInt8 → Escaping
  | 34 => insertBackslash text iter
  | 92 => insertBackslash text iter
  | 47 => insertBackslash text iter
  | 8 => insertBackslash (text.set iter 98) iter
  | 12 => insertBackslash (text.set iter 102) iter
  | 10 => insertBackslash (text.set iter 110) iter
  | 13 => insertBackslash (text.set iter 114) iter
  | 9 => insertBackslash (text.set iter 116) iter
  | _ => ⟨text, iter⟩

def escapeRound (state : Escaping) : Round Escaping (List UInt8) :=
  match state.text[state.iter]? with
  | none => .leave state.text
  | some byte =>
    let done := escapeByte state.text state.iter byte
    .again ⟨done.text, done.iter + 1⟩

/-- The letter that stands for a byte behind a backslash. -/
def escapeLetter : UInt8 → Option UInt8
  | 34 => some 34
  | 92 => some 92
  | 47 => some 47
  | 8 => some 98
  | 12 => some 102
  | 10 => some 110
  | 13 => some 114
  | 9 => some 116
  | _ => none

def escaped (byte : UInt8) : List UInt8 :=
  match escapeLetter byte with
  | none => [byte]
  | some letter => [92, letter]

variable (original : List UInt8)

def escapeString : List UInt8 := original.flatMap escaped

/-- What a JSON string is made of: bytes, and backslashes with a letter. -/
inductive JsonCharacter where
  | byte (value : UInt8)
  | escape (letter : UInt8)
  deriving DecidableEq

namespace JsonCharacter

/-- What a letter stands for. Escapes of four digits are not read. -/
def meaning : UInt8 → Option UInt8
  | 34 => some 34
  | 92 => some 92
  | 47 => some 47
  | 98 => some 8
  | 102 => some 12
  | 110 => some 10
  | 114 => some 13
  | 116 => some 9
  | _ => none

def value : JsonCharacter → Option UInt8
  | byte value => some value
  | escape letter => meaning letter

/-- No quote and no control character stands for itself. -/
def Valid : JsonCharacter → Prop
  | byte value => 32 ≤ value ∧ value ≠ 34 ∧ value ≠ 92
  | escape letter => (meaning letter).isSome = true

instance : DecidablePred Valid
  | byte _ => inferInstanceAs (Decidable (_ ∧ _))
  | escape _ => inferInstanceAs (Decidable (_ = true))

end JsonCharacter

/-- A backslash takes the next byte with it. -/
def jsonCharacters : List UInt8 → Option (List JsonCharacter)
  | [] => some []
  | [byte] => if byte = 92 then none else some [.byte byte]
  | byte :: letter :: rest =>
    if byte = 92 then (jsonCharacters rest).map (.escape letter :: ·)
    else (jsonCharacters (letter :: rest)).map (.byte byte :: ·)

/-- What can stand between the quotes of a JSON string. -/
def ValidJsonBody (body : List UInt8) : Prop :=
  ∃ characters, jsonCharacters body = some characters ∧
    ∀ character ∈ characters, character.Valid

def undoEscapes (body : List UInt8) : Option (List UInt8) :=
  (jsonCharacters body).bind (·.mapM JsonCharacter.value)

/-- The control characters that have a letter. -/
def hasLetter (byte : UInt8) : Bool := [8, 9, 10, 12, 13].contains byte

theorem insertIdx_length (front back : List UInt8) (value : UInt8) :
    (front ++ back).insertIdx front.length value = front ++ value :: back := by
  induction front with
  | nil => rfl
  | cons first front ih => exact congrArg (first :: ·) ih

/-- One round puts what is written for a byte in its place and goes behind it. -/
theorem escapeRound_split (front : List UInt8) (byte : UInt8) (rest : List UInt8) :
    escapeRound ⟨front ++ byte :: rest, front.length⟩ =
      .again ⟨(front ++ escaped byte) ++ rest, (front ++ escaped byte).length⟩ := by
  have here : (front ++ byte :: rest)[front.length]? = some byte := by
    rw [List.getElem?_append_right (Nat.le_refl _), Nat.sub_self, List.getElem?_cons_zero]
  have changed (value : UInt8) :
      (front ++ byte :: rest).set front.length value = front ++ value :: rest := by
    rw [List.set_append_right _ _ (Nat.le_refl _), Nat.sub_self, List.set_cons_zero]
  unfold escapeRound escaped
  fun_cases escapeLetter byte
  all_goals simp [escapeByte, insertBackslash, insertIdx_length, changed]

theorem escapeString_append (front back : List UInt8) :
    escapeString (front ++ back) = escapeString front ++ escapeString back :=
  List.flatMap_append

/-- After so many rounds as many bytes of the string are done, and `iter` is at the next one. -/
theorem after_rounds {count : Nat} (within : count ≤ original.length) :
    After escapeRound count ⟨original, 0⟩
      ⟨escapeString (original.take count) ++ original.drop count,
        (escapeString (original.take count)).length⟩ := by
  induction count with
  | zero => exact .start _
  | succ count ih =>
    have inside : count < original.length := within
    have next := escapeRound_split (escapeString (original.take count)) (original[count])
      (original.drop (count + 1))
    rw [List.getElem_cons_drop] at next
    have grown : escapeString (original.take (count + 1)) =
        escapeString (original.take count) ++ escaped original[count] := by
      rw [List.take_succ_eq_append_getElem inside, escapeString_append]
      simp only [escapeString, List.flatMap_cons, List.flatMap_nil, List.append_nil]
    rw [grown]
    exact .again (ih (Nat.le_of_lt inside)) next

/-- Then there is nothing left, and the loop ends. -/
theorem escape_returns : Returns escapeRound ⟨original, 0⟩ (escapeString original) := by
  have rounds := after_rounds original (Nat.le_refl original.length)
  rw [List.take_length, List.drop_length, List.append_nil] at rounds
  apply rounds.returns
  apply Returns.leave
  unfold escapeRound
  rw [List.getElem?_eq_none (Nat.le_refl _)]

/-- What is written for a byte, as it is read. -/
def characterOf (byte : UInt8) : JsonCharacter :=
  match escapeLetter byte with
  | none => .byte byte
  | some letter => .escape letter

theorem value_characterOf (byte : UInt8) : (characterOf byte).value = some byte := by
  apply forall_byte _ byte
  decide +kernel

/-- Only the other control characters are not as they should be. -/
theorem valid_characterOf (byte : UInt8) :
    (characterOf byte).Valid ↔ (byte < 32 → hasLetter byte = true) := by
  apply forall_byte (p := fun byte =>
    (characterOf byte).Valid ↔ (byte < 32 → hasLetter byte = true))
  decide +kernel

theorem characterOf_control (byte : UInt8) : byte < 32 → hasLetter byte = false →
    characterOf byte = .byte byte := by
  apply forall_byte (p := fun byte => byte < 32 → hasLetter byte = false →
    characterOf byte = .byte byte)
  decide +kernel

theorem jsonCharacters_escaped (byte : UInt8) (rest : List UInt8) :
    jsonCharacters (escaped byte ++ rest) =
      (jsonCharacters rest).map (characterOf byte :: ·) := by
  unfold escaped characterOf
  cases letter : escapeLetter byte with
  | none =>
    have plain : byte ≠ 92 := by
      rintro rfl
      cases letter
    cases rest with
    | nil => exact if_neg plain
    | cons next rest => rw [List.singleton_append, jsonCharacters, if_neg plain]
  | some letter => rw [List.cons_append, List.singleton_append, jsonCharacters, if_pos rfl]

theorem jsonCharacters_escapeString :
    jsonCharacters (escapeString original) = some (original.map characterOf) := by
  induction original with
  | nil => rfl
  | cons byte rest ih =>
    unfold escapeString at ih ⊢
    rw [List.flatMap_cons, jsonCharacters_escaped, ih]
    rfl

theorem undoEscapes_escapeString : undoEscapes (escapeString original) = some original := by
  unfold undoEscapes
  rw [jsonCharacters_escapeString, Option.bind_some]
  induction original with
  | nil => rfl
  | cons byte rest ih =>
    rw [List.map_cons, List.mapM_cons, value_characterOf, ih]
    rfl

/-- What is written is a JSON string where no other control character is in it. -/
theorem validJsonBody_escapeString_iff : ValidJsonBody (escapeString original) ↔
      ∀ byte ∈ original, byte < 32 → hasLetter byte = true := by
  unfold ValidJsonBody
  rw [jsonCharacters_escapeString]
  constructor
  · rintro ⟨characters, same, valid⟩ byte member
    cases same
    exact (valid_characterOf byte).mp (valid _ (List.mem_map_of_mem member))
  · intro lettered
    refine ⟨_, rfl, ?_⟩
    intro character member
    obtain ⟨byte, original, rfl⟩ := List.mem_map.mp member
    exact (valid_characterOf byte).mpr (lettered byte original)

/-- `Escape` looks at every byte of the string once, in order, and at no byte that it has put
there, and ends. The string is found again when its escapes are undone. No quote and no backslash
is left, but control characters that have no letter are, and with them it is not valid. -/
theorem escape_returns_json (original : List UInt8) :
    (∀ count ≤ original.length, After escapeRound count ⟨original, 0⟩
      ⟨escapeString (original.take count) ++ original.drop count,
        (escapeString (original.take count)).length⟩) ∧
    Returns escapeRound ⟨original, 0⟩ (escapeString original) ∧
    undoEscapes (escapeString original) = some original ∧
    (∃ characters, jsonCharacters (escapeString original) = some characters ∧
      ∀ character ∈ characters, character.Valid ∨
        ∃ byte ∈ original, byte < 32 ∧ hasLetter byte = false ∧ character = .byte byte) ∧
    (ValidJsonBody (escapeString original) ↔
      ∀ byte ∈ original, byte < 32 → hasLetter byte = true) := by
  refine ⟨fun count within => after_rounds original within, escape_returns original,
    undoEscapes_escapeString original, ⟨_, jsonCharacters_escapeString original, ?_⟩,
    validJsonBody_escapeString_iff original⟩
  intro character member
  obtain ⟨byte, inside, rfl⟩ := List.mem_map.mp member
  by_cases plain : byte < 32 ∧ hasLetter byte = false
  · exact .inr ⟨byte, inside, plain.1, plain.2, characterOf_control byte plain.1 plain.2⟩
  · left
    rw [valid_characterOf]
    intro control
    rw [← Bool.not_eq_false]
    exact fun without => plain ⟨control, without⟩

/-- A byte 1 is left as it is. -/
theorem escape_leaves_control : Returns escapeRound ⟨[97, 1], 0⟩ [97, 1] ∧
    ¬ ValidJsonBody [97, 1] := by
  constructor
  · exact .again rfl (.again rfl (.leave rfl))
  · rintro ⟨characters, same, valid⟩
    cases same
    exact absurd (valid (.byte 1) (by decide)) (by decide)

end OpenLighting.StringUtils
