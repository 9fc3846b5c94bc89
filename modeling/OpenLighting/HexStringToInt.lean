import OpenLighting.StringMessageBuilder

/- For which strings the overloads of `HexStringToInt` do what their headers say. -/
namespace OpenLighting.StringUtils

open OpenLighting.NetworkUtils OpenLighting.Messaging

/-- The number that the digits stand for, as large as it may be. -/
def hexNumberFrom (value : Nat) : List UInt8 → Option Nat
  | [] => some value
  | byte :: rest => (hexValue byte).bind (fun digit => hexNumberFrom (value * 16 + digit) rest)

variable (text : List UInt8)

/-- The number that a text of hexadecimal digits stands for. -/
def hexNumber : Option Nat :=
  if text = [] then none else hexNumberFrom 0 text

/-- The promise: the call returns a value if the text stands for it, and nothing otherwise. -/
def ReadsHex (type : IntegerType) : Prop :=
  ∀ value : type.Value,
    hexStringToInteger text type = some value ↔ hexNumber text = some value.toNat

/-- The numbers that do not fit and are not found out: what `strtoul` or `strtoll` make of them
is cut down to 32 bits before it is checked, if it is checked at all. -/
def slipsThrough (number : Nat) : IntegerType → Prop
  | .uint32 | .int32 => 2 ^ 32 ≤ number
  | .uint16 => 2 ^ 32 ≤ number ∧ number < 2 ^ 64 ∧ number % 2 ^ 32 < 2 ^ 16
  | .uint8 => 2 ^ 32 ≤ number ∧ number < 2 ^ 64 ∧ number % 2 ^ 32 < 2 ^ 8
  | .int16 => 2 ^ 32 ≤ number ∧ number < 2 ^ 63 ∧ number % 2 ^ 32 < 2 ^ 16
  | .int8 => 2 ^ 32 ≤ number ∧ number < 2 ^ 63 ∧ number % 2 ^ 32 < 2 ^ 8

/-- Stopping at the largest value after every digit is the same as doing so once. -/
theorem hexDigits_min (value : Nat) : hexDigits (min value 0xffffffffffffffff) text =
      (hexNumberFrom value text).map (fun number => min number 0xffffffffffffffff) := by
  induction text generalizing value with
  | nil => rfl
  | cons byte rest ih =>
    rw [hexDigits, hexNumberFrom]
    cases hexValue byte with
    | none => rfl
    | some digit =>
      have once : min (min value 0xffffffffffffffff * 16 + digit) 0xffffffffffffffff =
          min (value * 16 + digit) 0xffffffffffffffff := by omega
      simp only [once, Option.bind_some]
      exact ih (value * 16 + digit)

theorem hexDigits_zero : hexDigits 0 text =
      (hexNumberFrom 0 text).map (fun number => min number 0xffffffffffffffff) :=
  hexDigits_min text 0

theorem hexStringToUnsigned_eq : hexStringToUnsigned text =
      (hexNumber text).map (fun number => BitVec.ofNat 32 (min number 0xffffffffffffffff)) := by
  unfold hexStringToUnsigned hexNumber
  rw [hexDigits_zero]
  cases text with
  | nil => rfl
  | cons byte rest => simp [Option.map_map, Function.comp_def]

theorem hexStringToSigned_eq : hexStringToSigned text =
      (hexNumber text).map (fun number => BitVec.ofNat 32 (min number 0x7fffffffffffffff)) := by
  unfold hexStringToSigned hexNumber
  rw [hexDigits_zero]
  cases text with
  | nil => rfl
  | cons byte rest =>
    have lower (number : Nat) : min (min number 0xffffffffffffffff) 0x7fffffffffffffff =
        min number 0x7fffffffffffffff := by omega
    simp [Option.map_map, Function.comp_def, lower]

section Narrowing

variable {width number : Nat}

/-- A result is the promised one if it is the number's bits or, where they are too few, nothing. -/
theorem promised_iff (result : Option (BitVec width)) :
    (∀ value : BitVec width, result = some value ↔ some number = some value.toNat) ↔
      result = if number < 2 ^ width then some (BitVec.ofNat width number) else none := by
  have fits (value : BitVec width) : number = value.toNat ↔
      number < 2 ^ width ∧ BitVec.ofNat width number = value := by
    constructor
    · intro same
      subst same
      exact ⟨value.isLt, (BitVec.ofNat_toNat width value).trans (BitVec.setWidth_eq value)⟩
    · rintro ⟨small, rfl⟩
      rw [BitVec.toNat_ofNat, Nat.mod_eq_of_lt small]
  simp only [Option.some.injEq, fits]
  split
  · rename_i small
    constructor
    · intro all
      exact (all _).mpr ⟨small, rfl⟩
    · rintro rfl value
      simp [small]
  · rename_i large
    constructor
    · intro all
      cases result with
      | none => rfl
      | some value => exact absurd ((all value).mp rfl).1 large
    · rintro rfl value
      simp [large]

/-- A value passes if it is a number of the smaller type. -/
theorem narrow_toNat (width : Nat) (value : BitVec 32) :
    narrow width (2 ^ width - 1) value.toNat =
      if value.toNat < 2 ^ width then some (BitVec.ofNat width value.toNat) else none := by
  unfold narrow
  have positive := Nat.two_pow_pos width
  by_cases passes : value.toNat < 2 ^ width
  · rw [if_neg (by omega), if_pos passes, BitVec.ofInt_natCast]
  · rw [if_pos (by omega), if_neg passes]

/-- Of the signed values only those below half the range pass, as their number. -/
theorem narrow_toInt (width : Nat) (small : width < 32) (value : BitVec 32) :
    narrow width (2 ^ width - 1) value.toInt =
      if value.toNat < 2 ^ width then some (BitVec.ofNat width value.toNat) else none := by
  have half : 2 ^ width ≤ 2 ^ 31 := Nat.pow_le_pow_right (by omega) (by omega)
  by_cases positive : 2 * value.toNat < 2 ^ 32
  · rw [BitVec.toInt_eq_toNat_cond, if_pos positive]
    exact narrow_toNat width value
  · unfold narrow
    rw [BitVec.toInt_eq_toNat_cond, if_neg positive, if_pos (by omega), if_neg (by omega)]

/-- A check of what is kept of the number goes wrong where the number is too large and what is
kept is not. -/
theorem checked_iff {kept : Nat} (same : number < 2 ^ width → kept = number) :
    ((if kept < 2 ^ width then some (BitVec.ofNat width kept) else none) =
        if number < 2 ^ width then some (BitVec.ofNat width number) else none) ↔
      ¬ (2 ^ width ≤ number ∧ kept < 2 ^ width) := by
  by_cases small : number < 2 ^ width
  · have fits : ¬ 2 ^ width ≤ number := by omega
    rw [same small]
    simp [fits]
  · have large : 2 ^ width ≤ number := by omega
    by_cases passes : kept < 2 ^ width
    · simp [small, large, passes]
    · simp [small, passes]

end Narrowing

/-- What is left of the number when it is checked. -/
def keptBits (number : Nat) : IntegerType → Nat
  | .uint8 | .uint16 | .uint32 => min number 0xffffffffffffffff % 2 ^ 32
  | .int8 | .int16 | .int32 => min number 0x7fffffffffffffff % 2 ^ 32

/-- Every overload checks the bits that are left against the bits of its type. -/
theorem hexStringToInteger_eq {text : List UInt8} {number : Nat}
    (reads : hexNumber text = some number) (type : IntegerType) :
    hexStringToInteger text type =
      if keptBits number type < 2 ^ type.bits then
        some (BitVec.ofNat type.bits (keptBits number type))
      else none := by
  have unsigned := hexStringToUnsigned_eq text
  have signed := hexStringToSigned_eq text
  rw [reads, Option.map_some] at unsigned signed
  have word (value : Nat) : value % 2 ^ 32 < 2 ^ 32 := Nat.mod_lt _ (Nat.two_pow_pos 32)
  have again (value : Nat) : BitVec.ofNat 32 (value % 2 ^ 32) = BitVec.ofNat 32 value :=
    BitVec.eq_of_toNat_eq (by simp only [BitVec.toNat_ofNat, Nat.mod_mod])
  cases type with
  | uint32 => exact unsigned.trans ((if_pos (word _)).trans (congrArg some (again _))).symm
  | int32 => exact signed.trans ((if_pos (word _)).trans (congrArg some (again _))).symm
  | uint16 =>
    exact (congrArg (Option.bind · _) unsigned).trans (narrow_toNat 16 (BitVec.ofNat 32 _))
  | uint8 =>
    exact (congrArg (Option.bind · _) unsigned).trans (narrow_toNat 8 (BitVec.ofNat 32 _))
  | int16 =>
    exact (congrArg (Option.bind · _) signed).trans
      (narrow_toInt 16 (by omega) (BitVec.ofNat 32 _))
  | int8 =>
    exact (congrArg (Option.bind · _) signed).trans
      (narrow_toInt 8 (by omega) (BitVec.ofNat 32 _))

theorem slipsThrough_iff (number : Nat) (type : IntegerType) :
    slipsThrough number type ↔
      2 ^ type.bits ≤ number ∧ keptBits number type < 2 ^ type.bits := by
  cases type <;> simp only [slipsThrough, keptBits, IntegerType.bits] <;> omega

/-- A text that is not a number is refused by every overload. -/
theorem hexStringToInteger_none {text : List UInt8} (fails : hexNumber text = none)
    (type : IntegerType) : hexStringToInteger text type = none := by
  have unsigned := hexStringToUnsigned_eq text
  have signed := hexStringToSigned_eq text
  rw [fails] at unsigned signed
  cases type with
  | uint32 => exact unsigned
  | int32 => exact signed
  | uint16 | uint8 => exact congrArg (Option.bind · _) unsigned
  | int16 | int8 => exact congrArg (Option.bind · _) signed

/-- The overload for an `uint8_t`, which has a definition of its own, is the one of the family. -/
theorem hexStringToInt_eq :
    (hexStringToInt text).map UInt8.toBitVec = hexStringToInteger text .uint8 := by
  cases reads : hexNumber text with
  | none =>
    rw [hexStringToInteger_none reads]
    unfold hexNumber at reads
    unfold hexStringToInt
    rw [hexDigits_zero]
    split at reads
    · rw [if_pos ‹_›]
      rfl
    · rw [if_neg ‹_›, reads]
      rfl
  | some number =>
    rw [hexStringToInteger_eq reads]
    unfold hexNumber at reads
    unfold hexStringToInt
    rw [hexDigits_zero]
    split at reads
    · cases reads
    · rw [if_neg ‹_›, reads]
      change Option.map UInt8.toBitVec (if 0xff < keptBits number .uint8 then none else _) = _
      by_cases large : 0xff < keptBits number .uint8
      · rw [if_pos large]
        exact (if_neg (Nat.not_lt.mpr large)).symm
      · rw [if_neg large]
        exact (if_pos (Nat.lt_of_not_ge large)).symm

theorem readsHex_iff (text : List UInt8) (type : IntegerType) :
    ReadsHex text type ↔ ∀ number, hexNumber text = some number → ¬ slipsThrough number type := by
  unfold ReadsHex
  cases reads : hexNumber text with
  | none => simp [hexStringToInteger_none reads type]
  | some number =>
    have same : number < 2 ^ type.bits → keptBits number type = number := by
      cases type <;> simp only [keptBits, IntegerType.bits] <;> omega
    rw [promised_iff, hexStringToInteger_eq reads, checked_iff same, ← slipsThrough_iff]
    simp

/-- `100000001` is read as 1, whatever the type. -/
theorem not_forall_readsHex : ¬ ∀ (text : List UInt8) (type : IntegerType), ReadsHex text type := by
  intro all
  have read := (all [49, 48, 48, 48, 48, 48, 48, 48, 49] .uint32 1).mp (by decide)
  exact absurd read (by decide)

end OpenLighting.StringUtils
