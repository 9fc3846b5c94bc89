import Mathlib.Data.BitVec
import Mathlib.Data.UInt
import Mathlib.Tactic.IntervalCases

/- Integers in the memory of a host of either byte order. -/
namespace OpenLighting.NetworkUtils

/-- The integers that are sent as fields of a message. -/
inductive IntegerType where
  | uint8
  | uint16
  | uint32
  | int8
  | int16
  | int32
  deriving DecidableEq, Repr

def IntegerType.size : IntegerType → Nat
  | .uint8 | .int8 => 1
  | .uint16 | .int16 => 2
  | .uint32 | .int32 => 4

def IntegerType.bits : IntegerType → Nat
  | .uint8 | .int8 => 8
  | .uint16 | .int16 => 16
  | .uint32 | .int32 => 32

/-- Signed values are in two's complement. -/
abbrev IntegerType.Value (type : IntegerType) : Type := BitVec type.bits

/-- The bytes of a value, least significant first. -/
def bytesOf : Nat → Nat → List UInt8
  | 0, _ => []
  | count + 1, value => UInt8.ofNat value :: bytesOf count (value / 256)

def valueOf : List UInt8 → Nat
  | [] => 0
  | byte :: rest => byte.toNat + 256 * valueOf rest

variable (bigEndian : Bool)

/-- The bytes in which `memcpy` finds a value. -/
def hostBytes (count value : Nat) : List UInt8 :=
  if bigEndian then (bytesOf count value).reverse else bytesOf count value

/-- The value that `memcpy` makes of the bytes. -/
def hostValue (bytes : List UInt8) : Nat :=
  valueOf (if bigEndian then bytes.reverse else bytes)

/-- `((value & 0xff) << 8) | (value >> 8)` for an `uint16_t`. -/
def swapUnsigned (value : BitVec 16) : BitVec 16 := ((value &&& 0xff) <<< 8) ||| (value >>> 8)

/-- The same for an `int16_t`, where the shift repeats the sign. -/
def swapSigned (value : BitVec 16) : BitVec 16 :=
  ((value &&& 0xff) <<< 8) ||| value.sshiftRight 8

variable (value : BitVec 32)

def byteSwap : BitVec 32 :=
  ((value &&& 0x000000ff) <<< 24) ||| ((value &&& 0x0000ff00) <<< 8) |||
    ((value &&& 0x00ff0000) >>> 8) ||| ((value &&& 0xff000000) >>> 24)

def htons (value : BitVec 16) : BitVec 16 :=
  if bigEndian then value else swapUnsigned value

def htonl : BitVec 32 :=
  if bigEndian then value else byteSwap value

/-- `HostToNetwork`, and `NetworkToHost`, which has the same body. -/
def hostToNetwork (bigEndian : Bool) : (type : IntegerType) → type.Value → type.Value
  | .uint8, value => value
  | .int8, value => value
  | .uint16, value => htons bigEndian value
  | .int16, value => htons bigEndian value
  | .uint32, value => htonl bigEndian value
  | .int32, value => htonl bigEndian value

/-- `HostToLittleEndian`, and `LittleEndianToHost`, which has the same body. -/
def hostToLittleEndian (bigEndian : Bool) : (type : IntegerType) → type.Value → type.Value
  | .uint8, value => value
  | .int8, value => value
  | .uint16, value => if bigEndian then swapUnsigned value else value
  | .int16, value => if bigEndian then swapSigned value else value
  | .uint32, value => if bigEndian then byteSwap value else value
  | .int32, value => if bigEndian then byteSwap value else value

section Memory

variable {bigEndian : Bool}

@[simp] theorem bytesOf_length (count value : Nat) : (bytesOf count value).length = count := by
  induction count generalizing value with
  | zero => rfl
  | succ count ih => rw [bytesOf, List.length_cons, ih]

@[simp] theorem hostBytes_length (count value : Nat) :
    (hostBytes bigEndian count value).length = count := by
  unfold hostBytes
  split
  · rw [List.length_reverse, bytesOf_length]
  · exact bytesOf_length count value

theorem valueOf_bytesOf (count value : Nat) :
    valueOf (bytesOf count value) = value % 256 ^ count := by
  induction count generalizing value with
  | zero => rw [bytesOf, valueOf, Nat.pow_zero, Nat.mod_one]
  | succ count ih =>
    have low : (UInt8.ofNat value).toNat = value % 256 := UInt8.toNat_ofNat'
    rw [bytesOf, valueOf, ih, low, Nat.pow_succ', Nat.mod_mul]

theorem hostValue_hostBytes (count value : Nat) :
    hostValue bigEndian (hostBytes bigEndian count value) = value % 256 ^ count := by
  unfold hostValue hostBytes
  cases bigEndian with
  | false => exact valueOf_bytesOf count value
  | true =>
    rw [if_pos rfl, if_pos rfl, List.reverse_reverse]
    exact valueOf_bytesOf count value

theorem IntegerType.pow_size (type : IntegerType) : 256 ^ type.size = 2 ^ type.bits := by
  cases type <;> rfl

end Memory

theorem swapUnsigned_swapUnsigned (value : BitVec 16) :
    swapUnsigned (swapUnsigned value) = value := by
  unfold swapUnsigned
  ext bit below
  interval_cases bit <;> simp

theorem byteSwap_byteSwap : byteSwap (byteSwap value) = value := by
  unfold byteSwap
  ext bit below
  interval_cases bit <;> simp

theorem swapUnsigned_msb (value : BitVec 16) :
    (swapUnsigned value).msb = value.getLsbD 7 := by
  simp [swapUnsigned, BitVec.msb_eq_getLsbD_last]

variable {value : BitVec 16}

theorem swapSigned_of_positive (positive : value.msb = false) :
    swapSigned value = swapUnsigned value := by
  unfold swapSigned swapUnsigned
  ext bit below
  interval_cases bit <;> simp [BitVec.getElem_sshiftRight, positive]

/-- The sign of a negative value covers its low byte. -/
theorem swapSigned_of_negative (negative : value.msb = true) :
    swapSigned value = 0xff00 ||| (value >>> 8) := by
  unfold swapSigned
  ext bit below
  interval_cases bit <;> simp [BitVec.getElem_sshiftRight, negative]

theorem swapSigned_negative (negative : value.msb = true) : (swapSigned value).msb = true := by
  rw [swapSigned_of_negative negative]
  simp [BitVec.msb_eq_getLsbD_last]

theorem swapSigned_swapSigned_of_negative (negative : value.msb = true) :
    swapSigned (swapSigned value) = 0xffff := by
  rw [swapSigned_of_negative (swapSigned_negative negative), swapSigned_of_negative negative]
  ext bit below
  interval_cases bit <;> simp

/-- The values that `swapSigned` brings back: `-1`, and those in which neither byte has its
first bit set. -/
def Swappable (value : BitVec 16) : Prop :=
  value = 0xffff ∨ value.msb = false ∧ value.getLsbD 7 = false

instance (value : BitVec 16) : Decidable (Swappable value) :=
  inferInstanceAs (Decidable (_ ∨ _))

theorem swapSigned_swapSigned_iff (value : BitVec 16) :
    swapSigned (swapSigned value) = value ↔ Swappable value := by
  unfold Swappable
  cases sign : value.msb with
  | true =>
    rw [swapSigned_swapSigned_of_negative sign, eq_comm]
    simp
  | false =>
    have notAll : ¬ value = 0xffff#16 := by
      rintro rfl
      cases sign
    rw [swapSigned_of_positive sign]
    cases low : value.getLsbD 7 with
    | true =>
      have negative : (swapUnsigned value).msb = true := (swapUnsigned_msb value).trans low
      have differs : swapSigned (swapUnsigned value) ≠ value := by
        intro same
        have first := swapSigned_negative negative
        rw [same, sign] at first
        cases first
      simp [notAll, differs]
    | false =>
      have positive : (swapUnsigned value).msb = false := (swapUnsigned_msb value).trans low
      rw [swapSigned_of_positive positive, swapUnsigned_swapUnsigned]
      simp

section Fields

variable (bigEndian littleEndian : Bool) (type : IntegerType) (value : type.Value)

/-- `IntVisit` of the serializer, up to the copy. -/
def toWire : type.Value :=
  if littleEndian then hostToLittleEndian bigEndian type value
  else hostToNetwork bigEndian type value

/-- The values that come back from the wire. -/
def Kept : Prop :=
  match type, value with
  | .int16, value => bigEndian = true → littleEndian = true → Swappable value
  | _, _ => True

theorem hostToNetwork_hostToNetwork :
    hostToNetwork bigEndian type (hostToNetwork bigEndian type value) = value := by
  cases bigEndian with
  | true => cases type <;> rfl
  | false =>
    cases type with
    | uint8 | int8 => rfl
    | uint16 | int16 => exact swapUnsigned_swapUnsigned value
    | uint32 | int32 => exact byteSwap_byteSwap value

theorem kept_of_network : Kept bigEndian false type value := by
  cases type with
  | int16 => exact fun _ network => by cases network
  | _ => trivial

/-- A value comes back, other than from a `swapSigned` that loses it. -/
theorem toWire_toWire_iff :
    toWire bigEndian littleEndian type (toWire bigEndian littleEndian type value) = value ↔
      Kept bigEndian littleEndian type value := by
  cases littleEndian with
  | false =>
    exact iff_of_true (hostToNetwork_hostToNetwork bigEndian type value)
      (kept_of_network bigEndian type value)
  | true =>
    cases bigEndian with
    | false =>
      cases type with
      | int16 => exact iff_of_true rfl (fun little => by cases little)
      | _ => exact iff_of_true rfl trivial
    | true =>
      cases type with
      | uint8 | int8 => exact iff_of_true rfl trivial
      | uint16 => exact iff_of_true (swapUnsigned_swapUnsigned value) trivial
      | uint32 | int32 => exact iff_of_true (byteSwap_byteSwap value) trivial
      | int16 =>
        apply (swapSigned_swapSigned_iff value).trans
        exact ⟨fun kept _ _ => kept, fun kept => kept rfl rfl⟩

end Fields

end OpenLighting.NetworkUtils
