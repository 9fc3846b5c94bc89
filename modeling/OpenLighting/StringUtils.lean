import Mathlib.Data.List.DropRight

/- Strings are their bytes. -/
namespace OpenLighting.StringUtils

open List

def stringSplit (input delimiters : List UInt8) : List (List UInt8) :=
  input.splitOnP (fun byte => delimiters.contains byte)

variable (byte : UInt8)

/-- The bytes that `StringTrim` takes off: space, newline, carriage return, tab. -/
def isTrimmed : Bool := byte == 32 || byte == 10 || byte == 13 || byte == 9

variable (input : List UInt8)

def stringTrim : List UInt8 :=
  (input.dropWhile isTrimmed).rdropWhile isTrimmed

def isSpace : Bool := byte == 32 || (9 ≤ byte && byte ≤ 13)

/-- The value of the digits at the start. -/
def digits (value : Nat) : List UInt8 → Nat
  | [] => value
  | byte :: rest =>
    if 48 ≤ byte ∧ byte ≤ 57 then digits (value * 10 + (byte.toNat - 48)) rest else value

/-- `atoi`, for values that an `int` can hold. -/
def atoi : Int :=
  match input.dropWhile isSpace with
  | 45 :: rest => -(digits 0 rest : Int)
  | 43 :: rest => digits 0 rest
  | rest => digits 0 rest

def isDigit : Bool := 48 ≤ byte && byte ≤ 57

variable (number : Nat)

def intToString : List UInt8 :=
  (Nat.toDigits 10 number).map (fun digit => UInt8.ofNat digit.toNat)

/-- What `strtol` and `strtoll` return, what they leave of the input and whether they
set `errno`. -/
structure Conversion where
  value : Int
  rest : List UInt8
  error : Bool

def maxLong : Int := 0x7fffffffffffffff
def minLong : Int := -0x8000000000000000

/-- What does not fit in a `long` is cut off. -/
def clampLong (value : Int) : Int :=
  if value < minLong then minLong else if maxLong < value then maxLong else value

/-- Whether there is a minus sign, and what follows the sign. -/
def sign : List UInt8 → Bool × List UInt8
  | 45 :: rest => (true, rest)
  | 43 :: rest => (false, rest)
  | rest => (false, rest)

/-- `strtol` and `strtoll` in base 10, with 64 bits. -/
def strtol : Conversion :=
  let (negative, number) := sign (input.dropWhile isSpace)
  if number.takeWhile isDigit = [] then ⟨0, input, false⟩
  else
    let value : Int := if negative then -(digits 0 number : Int) else digits 0 number
    ⟨clampLong value, number.dropWhile isDigit, value < minLong ∨ maxLong < value⟩

/-- `StringToInt` for an `unsigned int`, not strict. -/
def stringToInt : Option Nat :=
  if input.isEmpty then none
  else
    let number := strtol input
    if number.value < 0 ∨ (number.value = 0 ∧ number.error) then none
    else if input = number.rest then none
    else if number.value > 0xffffffff then none
    else some number.value.toNat

/-- `StringToInt` for a `uint8_t`. -/
def stringToUInt8 : Option Nat :=
  match stringToInt input with
  | none => none
  | some value => if value > 0xff then none else some value

def stringJoin (delimiter : List UInt8) (texts : List (List UInt8)) : List UInt8 :=
  delimiter.intercalate texts

/-- `tolower` in the C locale. -/
def toLower : UInt8 := if 65 ≤ byte ∧ byte ≤ 90 then byte + 32 else byte

/-- The value of a digit of `ABCDEFabcdef0123456789`. -/
def hexValue : Option Nat :=
  if 48 ≤ byte ∧ byte ≤ 57 then some (byte.toNat - 48)
  else if 97 ≤ byte ∧ byte ≤ 102 then some (byte.toNat - 87)
  else if 65 ≤ byte ∧ byte ≤ 70 then some (byte.toNat - 55)
  else none

/-- The value of a string of digits. `strtoul` stops at the largest `unsigned long`. -/
def hexDigits (value : Nat) : List UInt8 → Option Nat
  | [] => some value
  | byte :: rest =>
    match hexValue byte with
    | none => none
    | some digit => hexDigits (min (value * 16 + digit) 0xffffffffffffffff) rest

/-- `HexStringToInt` for an `uint8_t`. -/
def hexStringToInt (text : List UInt8) : Option UInt8 :=
  if text = [] then none
  else
    match hexDigits 0 text with
    | none => none
    | some value =>
      if 0xff < value % 0x100000000 then none else some (UInt8.ofNat (value % 0x100000000))

/-- There are no more than 256 bytes to look at. -/
theorem forall_byte {p : UInt8 → Prop} (each : ∀ value < 256, p (UInt8.ofNat value))
    (byte : UInt8) : p byte := by
  have found := each byte.toNat byte.toNat_lt
  rwa [UInt8.ofNat_toNat] at found

theorem stringTrim_cons {byte : UInt8} (blank : isTrimmed byte = true) (text : List UInt8) :
    stringTrim (byte :: text) = stringTrim text := by
  unfold stringTrim
  rw [dropWhile_cons_of_pos blank]

theorem stringTrim_concat {byte : UInt8} (blank : isTrimmed byte = true) (text : List UInt8) :
    stringTrim (text ++ [byte]) = stringTrim text := by
  unfold stringTrim
  rw [dropWhile_append]
  by_cases all : (text.dropWhile isTrimmed).isEmpty = true
  · rw [if_pos all, isEmpty_iff.mp all, dropWhile_cons_of_pos blank, dropWhile_nil]
  · rw [if_neg all, rdropWhile_concat_pos _ _ _ blank]

/-- Trimming leaves alone what has no blanks around it. -/
theorem stringTrim_eq_self_iff (text : List UInt8) :
    stringTrim text = text ↔
      (∀ byte ∈ text.head?, isTrimmed byte = false) ∧
        ∀ byte ∈ text.getLast?, isTrimmed byte = false := by
  cases text with
  | nil => simp [stringTrim]
  | cons first rest =>
    by_cases blank : isTrimmed first = true
    · constructor
      · intro same
        have shorter : (stringTrim (first :: rest)).length ≤ rest.length := by
          rw [stringTrim_cons blank]
          exact le_trans (List.rdropWhile_prefix _ _).length_le
            (dropWhile_suffix _).length_le
        rw [same, length_cons] at shorter
        omega
      · intro ends
        have head := ends.1 first rfl
        rw [blank] at head
        cases head
    · unfold stringTrim
      rw [dropWhile_cons_of_neg blank, rdropWhile_eq_self_iff]
      simp [List.getLast?_eq_some_getLast, blank]

theorem intToString_eq : intToString number = if number < 10 then [UInt8.ofNat (48 + number)]
      else intToString (number / 10) ++ [UInt8.ofNat (48 + number % 10)] := by
  have digit : ∀ value < 10, UInt8.ofNat value.digitChar.toNat = UInt8.ofNat (48 + value) := by
    decide
  unfold intToString
  rw [Nat.toDigits_eq_if (by decide)]
  split
  · rename_i small
    rw [map_singleton, digit number small]
  · rw [map_append, map_singleton, digit _ (Nat.mod_lt number (by decide))]

theorem intToString_ne_nil : intToString number ≠ [] := by
  unfold intToString
  simp only [ne_eq, map_eq_nil_iff]
  exact Nat.toDigits_ne_nil

theorem toNat_digit {value : Nat} (small : value < 10) :
    (UInt8.ofNat (48 + value)).toNat = 48 + value := by
  rw [UInt8.toNat_ofNat']
  omega

theorem isDigit_digit {value : Nat} (small : value < 10) :
    isDigit (UInt8.ofNat (48 + value)) = true := by
  unfold isDigit
  rw [Bool.and_eq_true, decide_eq_true_iff, decide_eq_true_iff, UInt8.le_iff_toNat_le,
    UInt8.le_iff_toNat_le, toNat_digit small]
  change 48 ≤ 48 + value ∧ 48 + value ≤ 57
  omega

theorem isDigit_intToString : ∀ byte ∈ intToString number, isDigit byte = true := by
  induction number using Nat.strong_induction_on with
  | _ number ih =>
    rw [intToString_eq]
    split
    · rename_i small
      intro byte member
      rw [mem_singleton.mp member]
      exact isDigit_digit small
    · intro byte member
      rcases mem_append.mp member with front | last
      · exact ih (number / 10) (by omega) byte front
      · rw [mem_singleton.mp last]
        exact isDigit_digit (Nat.mod_lt number (by decide))

theorem digits_append {front : List UInt8} (all : ∀ byte ∈ front, isDigit byte = true)
    (value : Nat) (rest : List UInt8) :
    digits value (front ++ rest) = digits (digits value front) rest := by
  induction front generalizing value with
  | nil => rfl
  | cons byte front ih =>
    have digit := all byte mem_cons_self
    unfold isDigit at digit
    rw [Bool.and_eq_true, decide_eq_true_iff, decide_eq_true_iff] at digit
    rw [cons_append, digits, digits, if_pos digit, if_pos digit]
    exact ih (fun other member => all other (mem_cons_of_mem byte member)) _

/-- A number is read back as it was written. -/
theorem digits_intToString : digits 0 (intToString number) = number := by
  have single : ∀ value number, number < 10 →
      digits value [UInt8.ofNat (48 + number)] = value * 10 + number := by
    intro value number small
    have digit := isDigit_digit small
    unfold isDigit at digit
    rw [Bool.and_eq_true, decide_eq_true_iff, decide_eq_true_iff] at digit
    rw [digits, if_pos digit, digits, toNat_digit small]
    omega
  induction number using Nat.strong_induction_on with
  | _ number ih =>
    rw [intToString_eq]
    split
    · rename_i small
      rw [single 0 number small]
      omega
    · rw [digits_append (isDigit_intToString _), ih (number / 10) (by omega),
        single _ _ (Nat.mod_lt number (by decide))]
      omega

theorem intToString_injective : Function.Injective intToString := by
  intro first second same
  rw [← digits_intToString first, same, digits_intToString]

theorem isSpace_of_isDigit {byte : UInt8} (digit : isDigit byte = true) : isSpace byte = false := by
  unfold isDigit at digit
  rw [Bool.and_eq_true, decide_eq_true_iff, decide_eq_true_iff] at digit
  have low := UInt8.le_iff_toNat_le.mp digit.1
  change 48 ≤ byte.toNat at low
  have notBlank : byte ≠ 32 := by
    rintro rfl
    exact absurd digit.1 (by decide)
  have above : ¬ byte ≤ 13 := by
    change ¬ byte.toNat ≤ 13
    omega
  unfold isSpace
  rw [beq_false_of_ne notBlank, decide_eq_false above, Bool.and_false, Bool.or_false]

theorem sign_of_isDigit {first : UInt8} (digit : isDigit first = true) (rest : List UInt8) :
    sign (first :: rest) = (false, first :: rest) := by
  unfold sign
  split
  · rename_i same
    rw [(List.cons.inj same).1] at digit
    cases digit
  · rename_i same
    rw [(List.cons.inj same).1] at digit
    cases digit
  · rfl

/-- There is no blank and no sign in front of a number. -/
theorem sign_intToString :
    sign ((intToString number).dropWhile isSpace) = (false, intToString number) := by
  obtain ⟨first, rest, shape⟩ := exists_cons_of_ne_nil (intToString_ne_nil number)
  have head := isDigit_intToString number first (by rw [shape]; exact mem_cons_self)
  rw [shape, dropWhile_cons_of_neg (by rw [isSpace_of_isDigit head]; decide),
    sign_of_isDigit head]

theorem atoi_eq : atoi input = if (sign (input.dropWhile isSpace)).1
      then -(digits 0 (sign (input.dropWhile isSpace)).2 : Int)
      else digits 0 (sign (input.dropWhile isSpace)).2 := by
  unfold atoi sign
  split <;> rfl

theorem atoi_intToString : atoi (intToString number) = number := by
  rw [atoi_eq, sign_intToString]
  exact congrArg Int.ofNat (digits_intToString number)

theorem strtol_intToString :
    strtol (intToString number) = ⟨clampLong number, [], maxLong < number⟩ := by
  have all := isDigit_intToString number
  have whole : (intToString number).takeWhile isDigit = intToString number :=
    takeWhile_eq_self_iff.mpr all
  have nothing : (intToString number).dropWhile isDigit = [] :=
    dropWhile_eq_nil_iff.mpr all
  have plain := sign_intToString number
  unfold strtol
  simp only [plain, whole, nothing, if_neg (intToString_ne_nil number), digits_intToString]
  have large : ¬ (number : Int) < minLong := by
    unfold minLong
    omega
  simp only [large, Bool.false_eq_true, if_false, false_or]

theorem stringToUInt8_intToString {number : Nat} (small : number ≤ 0xff) :
    stringToUInt8 (intToString number) = some number := by
  have value : clampLong number = number := by
    unfold clampLong minLong maxLong
    omega
  unfold stringToUInt8 stringToInt
  rw [if_neg (by simpa using intToString_ne_nil number)]
  have notError : ¬ maxLong < (number : Int) := by
    unfold maxLong
    omega
  simp only [strtol_intToString, value]
  rw [if_neg (by simp [notError]), if_neg (intToString_ne_nil number), if_neg (by omega)]
  simp only [Int.toNat_natCast]
  rw [if_neg (by omega)]

end OpenLighting.StringUtils
