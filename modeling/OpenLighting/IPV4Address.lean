import OpenLighting.NetworkUtils
import OpenLighting.StringUtils

namespace OpenLighting.Network

open OpenLighting.NetworkUtils OpenLighting.StringUtils

/-- An address, in network byte order. -/
structure IPV4Address where
  first : UInt8
  second : UInt8
  third : UInt8
  fourth : UInt8
  deriving DecidableEq

variable (address : IPV4Address)

/-- `ToString`, which is `inet_ntoa`. -/
def IPV4Address.toString : List UInt8 :=
  stringJoin [46] ([address.first, address.second, address.third, address.fourth].map
    (fun byte => intToString byte.toNat))

/-- The value of the digits at the start, and what follows them. -/
def readDigits (base : Nat) : Nat → List UInt8 → Nat × List UInt8
  | value, [] => (value, [])
  | value, byte :: rest =>
    match hexValue byte with
    | none => (value, byte :: rest)
    | some digit =>
      if digit < base then readDigits base (value * base + digit) rest
      else (value, byte :: rest)

/-- `strtoul` in base 0 for a text that starts with a digit. -/
def readNumber : List UInt8 → Nat × List UInt8
  | [] => (0, [])
  | [byte] => readDigits 10 0 [byte]
  | byte :: mark :: rest =>
    if byte ≠ 48 then readDigits 10 0 (byte :: mark :: rest)
    else if (mark = 120 ∨ mark = 88) ∧ (rest.head?.bind hexValue).isSome then readDigits 16 0 rest
    else readDigits 8 0 (mark :: rest)

/-- The loop of `inet_aton` with the bytes so far and room for some more dots. The last number
fills all the bytes that are left. -/
def inetAtonLoop : Nat → List UInt8 → List UInt8 → Option (List UInt8)
  | room, bytes, text =>
    if (text.head?.map isDigit).getD false = false then none
    else
      let (value, rest) := readNumber text
      if 0xffffffff < value then none
      else
        match room, rest with
        | 0, 46 :: _ => none
        | room + 1, 46 :: more =>
          if 0xff < value then none
          else inetAtonLoop room (bytes ++ [UInt8.ofNat value]) more
        | room, rest =>
          if (rest.head?.map (fun byte => byte == 0 || isSpace byte)).getD true = true ∧
              value < 256 ^ (room + 1) then
            some (bytes ++ (bytesOf (room + 1) value).reverse)
          else none

def IPV4Address.fromString (text : List UInt8) : Option IPV4Address :=
  match inetAtonLoop 3 [] text with
  | some [first, second, third, fourth] => some ⟨first, second, third, fourth⟩
  | _ => none

theorem hexValue_of_isDigit {byte : UInt8} (digit : isDigit byte = true) :
    hexValue byte = some (byte.toNat - 48) ∧ byte.toNat - 48 < 10 := by
  unfold isDigit at digit
  rw [Bool.and_eq_true, decide_eq_true_iff, decide_eq_true_iff] at digit
  rw [hexValue, if_pos digit]
  have high := UInt8.le_iff_toNat_le.mp digit.2
  change byte.toNat ≤ 57 at high
  exact ⟨rfl, by omega⟩

theorem readDigits_digits {text : List UInt8} (all : ∀ byte ∈ text, isDigit byte = true)
    (value : Nat) (rest : List UInt8) :
    readDigits 10 value (text ++ rest) = readDigits 10 (digits value text) rest := by
  induction text generalizing value with
  | nil => rfl
  | cons byte text ih =>
    have digit := all byte List.mem_cons_self
    have read := hexValue_of_isDigit digit
    unfold isDigit at digit
    rw [Bool.and_eq_true, decide_eq_true_iff, decide_eq_true_iff] at digit
    rw [List.cons_append, readDigits, read.1]
    simp only [if_pos read.2]
    rw [digits, if_pos digit]
    exact ih (fun other member => all other (List.mem_cons_of_mem byte member)) _

/-- What follows a number in an address. -/
def Ends (rest : List UInt8) : Prop := rest = [] ∨ ∃ more, rest = 46 :: more

variable {rest : List UInt8}

theorem readDigits_ends (ends : Ends rest) (base value : Nat) :
    readDigits base value rest = (value, rest) := by
  rcases ends with rfl | ⟨more, rfl⟩
  · rfl
  · rfl

theorem readNumber_zero (ends : Ends rest) : readNumber (48 :: rest) = (0, rest) := by
  rcases ends with rfl | ⟨more, rfl⟩
  · rfl
  · rfl

theorem readNumber_cons {byte : UInt8} (nonzero : byte ≠ 48) (rest : List UInt8) :
    readNumber (byte :: rest) = readDigits 10 0 (byte :: rest) := by
  cases rest with
  | nil => rfl
  | cons mark rest => rw [readNumber, if_pos nonzero]

theorem readNumber_intToString {number : Nat} (small : number < 256) (ends : Ends rest) :
    readNumber (intToString number ++ rest) = (number, rest) := by
  have leading : ∀ value < 256, value ≠ 0 → (intToString value).head? ≠ some 48 := by
    decide +kernel
  by_cases zero : number = 0
  · rw [zero]
    exact readNumber_zero ends
  · have start := leading number small zero
    obtain ⟨byte, more, shape⟩ := List.exists_cons_of_ne_nil (intToString_ne_nil number)
    have nonzero : byte ≠ 48 := by
      intro same
      exact start (by rw [shape, same]; rfl)
    have read := readDigits_digits (isDigit_intToString number) 0 rest
    rw [digits_intToString, readDigits_ends ends, shape, List.cons_append] at read
    rw [shape, List.cons_append, readNumber_cons nonzero, read]

theorem startsWithDigit (number : Nat) (rest : List UInt8) :
    ((intToString number ++ rest).head?.map isDigit).getD false = true := by
  obtain ⟨byte, more, shape⟩ := List.exists_cons_of_ne_nil (intToString_ne_nil number)
  have digit := isDigit_intToString number byte (by rw [shape]; exact List.mem_cons_self)
  rw [shape, List.cons_append]
  exact digit

theorem inetAtonLoop_dot (room : Nat) (bytes : List UInt8) (byte : UInt8) (more : List UInt8) :
    inetAtonLoop (room + 1) bytes (intToString byte.toNat ++ 46 :: more) =
      inetAtonLoop room (bytes ++ [byte]) more := by
  have read := readNumber_intToString byte.toNat_lt (.inr ⟨more, rfl⟩)
  have bound : ¬ 0xff < byte.toNat := Nat.not_lt.mpr (Nat.le_of_lt_succ byte.toNat_lt)
  have fits : ¬ 0xffffffff < byte.toNat := by omega
  conv_lhs => unfold inetAtonLoop
  rw [startsWithDigit, if_neg (by decide)]
  simp only [read, if_neg fits, if_neg bound, UInt8.ofNat_toNat]

theorem inetAtonLoop_last (bytes : List UInt8) (byte : UInt8) :
    inetAtonLoop 0 bytes (intToString byte.toNat) = some (bytes ++ [byte]) := by
  have read := readNumber_intToString byte.toNat_lt (.inl rfl)
  have start := startsWithDigit byte.toNat []
  have bound := byte.toNat_lt
  have fits : ¬ 0xffffffff < byte.toNat := by omega
  rw [List.append_nil] at read start
  unfold inetAtonLoop
  rw [start, if_neg (by decide)]
  simp only [read, if_neg fits]
  rw [if_pos ⟨rfl, by omega⟩]
  simp [bytesOf]

theorem toString_eq : address.toString =
      intToString address.first.toNat ++ 46 :: (intToString address.second.toNat ++
        46 :: (intToString address.third.toNat ++ 46 :: intToString address.fourth.toNat)) := by
  simp [IPV4Address.toString, stringJoin, List.intercalate]

/-- There are only digits and dots in an address. -/
theorem mem_toString {byte : UInt8} {address : IPV4Address} (member : byte ∈ address.toString) :
    byte = 46 ∨ isDigit byte = true := by
  rw [toString_eq] at member
  simp only [List.mem_append, List.mem_cons] at member
  rcases member with first | dot | second | dot | third | dot | fourth
  · exact .inr (isDigit_intToString _ byte first)
  · exact .inl dot
  · exact .inr (isDigit_intToString _ byte second)
  · exact .inl dot
  · exact .inr (isDigit_intToString _ byte third)
  · exact .inl dot
  · exact .inr (isDigit_intToString _ byte fourth)

/-- An address is read back as it was written. -/
theorem fromString_toString : IPV4Address.fromString address.toString = some address := by
  unfold IPV4Address.fromString
  rw [toString_eq, inetAtonLoop_dot, inetAtonLoop_dot, inetAtonLoop_dot, inetAtonLoop_last]
  rfl

theorem toString_ne_nil : address.toString ≠ [] := by
  intro empty
  have read := fromString_toString address
  rw [empty] at read
  cases read

end OpenLighting.Network
