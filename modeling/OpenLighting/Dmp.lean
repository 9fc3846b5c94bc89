import OpenLighting.ByteCodec

/- The addresses and the header of the device management protocol. -/
namespace OpenLighting.E131

open ByteCodec

/-- `dmp_address_size`. -/
inductive DMPAddressSize where
  | oneByte
  | twoBytes
  | fourBytes
  | resBytes
  deriving DecidableEq

/-- `dmp_address_type`. -/
inductive DMPAddressType where
  | nonRange
  | rangeSingle
  | rangeEqual
  | rangeMixed
  deriving DecidableEq

def dmpSizeToByteSize : DMPAddressSize → Nat
  | .oneByte => 1
  | .twoBytes => 2
  | .fourBytes => 4
  | .resBytes => 0

/-- The value of the enumeration. -/
def DMPAddressSize.code : DMPAddressSize → UInt8
  | .oneByte => 0
  | .twoBytes => 1
  | .fourBytes => 2
  | .resBytes => 3

def DMPAddressType.code : DMPAddressType → UInt8
  | .nonRange => 0
  | .rangeSingle => 1
  | .rangeEqual => 2
  | .rangeMixed => 3

structure DMPHeader where
  header : UInt8
  deriving DecidableEq

variable (header : DMPHeader)

namespace DMPHeader

/-- The constructor from the parts of the header. -/
def ofParts (isVirtual isRelative : Bool) (type : DMPAddressType) (size : DMPAddressSize) :
    DMPHeader :=
  ⟨(if isVirtual then (0x80 : UInt8) else 0) ||| (if isRelative then (0x40 : UInt8) else 0) |||
    (type.code <<< (4 : UInt8)) ||| size.code⟩

def isVirtual : Bool := decide (header.header &&& 0x80 ≠ 0)

def isRelative : Bool := decide (header.header &&& 0x40 ≠ 0)

def type : DMPAddressType :=
  let code := (header.header &&& 0x30) >>> (4 : UInt8)
  if code = 0 then .nonRange
  else if code = 1 then .rangeSingle
  else if code = 2 then .rangeEqual
  else .rangeMixed

def size : DMPAddressSize :=
  let code := header.header &&& 0x03
  if code = 0 then .oneByte
  else if code = 1 then .twoBytes
  else if code = 2 then .fourBytes
  else .resBytes

end DMPHeader

/-- `BaseDMPAddress`, with what its methods return. -/
structure DMPAddress where
  start : Nat
  increment : Nat
  number : Nat
  deriving DecidableEq

def addressField (size : DMPAddressSize) (data : List UInt8) (position : Nat) : Nat :=
  number ((data.drop (position * dmpSizeToByteSize size)).take (dmpSizeToByteSize size))

def decodeAddress (size : DMPAddressSize) (type : DMPAddressType) (data : List UInt8) :
    Option (DMPAddress × Nat) :=
  let byteCount := (if type = .nonRange then 1 else 3) * dmpSizeToByteSize size
  if size = .resBytes ∨ data.length < byteCount then none
  else if type = .nonRange then some (⟨addressField size data 0, 0, 1⟩, byteCount)
  else
    some (⟨addressField size data 0, addressField size data 1, addressField size data 2⟩,
      byteCount)

def packTwoByteRange (start increment number : UInt16) : List UInt8 :=
  bigEndian 2 start.toNat ++ bigEndian 2 increment.toNat ++ bigEndian 2 number.toNat

end OpenLighting.E131
