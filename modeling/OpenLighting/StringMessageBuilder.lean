import OpenLighting.GroupSizeCalculator
import OpenLighting.IPV4Address

/- `StringMessageBuilder`: messages are made from texts, one for each field. -/
namespace OpenLighting.Messaging

open OpenLighting.NetworkUtils OpenLighting.Network OpenLighting.StringUtils

variable (input : List UInt8)

/-- `StringToInt` for an `int`, not strict. -/
def stringToSigned : Option Int :=
  if input.isEmpty then none
  else
    let number := strtol input
    if number.value = 0 ∧ number.error then none
    else if input = number.rest then none
    else if number.value < -0x80000000 ∨ 0x7fffffff < number.value then none
    else some number.value

/-- `StringToInt` for each of the types. The smaller ones are checked against their bounds. -/
def stringToInteger (input : List UInt8) : (type : IntegerType) → Option type.Value
  | .uint32 => (stringToInt input).map (BitVec.ofNat 32)
  | .uint16 =>
    (stringToInt input).bind
      (fun value => if 0xffff < value then none else some (BitVec.ofNat 16 value))
  | .uint8 =>
    (stringToInt input).bind
      (fun value => if 0xff < value then none else some (BitVec.ofNat 8 value))
  | .int32 => (stringToSigned input).map (BitVec.ofInt 32)
  | .int16 =>
    (stringToSigned input).bind
      (fun value => if value < -0x8000 ∨ 0x7fff < value then none else some (BitVec.ofInt 16 value))
  | .int8 =>
    (stringToSigned input).bind
      (fun value => if value < -0x80 ∨ 0x7f < value then none else some (BitVec.ofInt 8 value))

/-- What `HexStringToInt` for a `uint32_t` makes of `strtoul`. -/
def hexStringToUnsigned : Option (BitVec 32) :=
  if input.isEmpty then none else (hexDigits 0 input).map (BitVec.ofNat 32)

/-- What `HexStringToInt` for an `int32_t` makes of `strtoll`, which stops at the largest value. -/
def hexStringToSigned : Option (BitVec 32) :=
  if input.isEmpty then none
  else (hexDigits 0 input).map (fun value => BitVec.ofNat 32 (min value 0x7fffffffffffffff))

/-- A value is narrowed if it is not above the bound; the signed types have those of the unsigned
ones. -/
def narrow (width bound : Nat) (value : Int) : Option (BitVec width) :=
  if value < 0 ∨ (bound : Int) < value then none else some (BitVec.ofInt width value)

def hexStringToInteger (input : List UInt8) : (type : IntegerType) → Option type.Value
  | .uint32 => hexStringToUnsigned input
  | .uint16 => (hexStringToUnsigned input).bind (fun value => narrow 16 0xffff value.toNat)
  | .uint8 => (hexStringToUnsigned input).bind (fun value => narrow 8 0xff value.toNat)
  | .int32 => hexStringToSigned input
  | .int16 => (hexStringToSigned input).bind (fun value => narrow 16 0xffff value.toInt)
  | .int8 => (hexStringToSigned input).bind (fun value => narrow 8 0xff value.toInt)

def prefixedHexStringToInteger (type : IntegerType) : Option type.Value :=
  if input.take 2 = [48, 120] then hexStringToInteger (input.drop 2) type else none

/-- `MACAddress::FromString`; the bytes are split at colons and dots. -/
def macFromString (address : List UInt8) : Option MACAddress :=
  match (stringSplit address [58, 46]).mapM hexStringToInt with
  | some octets => if length : octets.length = 6 then some ⟨octets, length⟩ else none
  | none => none

def uidFromString (uid : List UInt8) : Option UID :=
  match stringSplit uid [58] with
  | [esta, device] =>
    if esta.length ≠ 4 ∨ device.length ≠ 8 then none
    else
      (hexStringToInteger esta .uint16).bind (fun estaId =>
        (hexStringToInteger device .uint32).map (fun deviceId =>
          ⟨UInt16.ofNat estaId.toNat, UInt32.ofNat deviceId.toNat⟩))
  | _ => none

/-- The value of a bool: `true`, `false`, or a number that is 1 or 0. -/
def boolFromString : Option Bool :=
  let token := (stringTrim input).map toLower
  if token = [116, 114, 117, 101] then some true
  else if token = [102, 97, 108, 115, 101] then some false
  else
    match stringToUInt8 token with
    | some 1 => some true
    | some 0 => some false
    | _ => none

/-- `MaxSize` bounds the length of a text if it is not 0. -/
def stringFromString (descriptor : StringFieldDescriptor) (input : List UInt8) :
    Option (List UInt8) :=
  if descriptor.maxSize ≠ 0 ∧ descriptor.maxSize.toNat < input.length then none else some input

/-- A label, a hexadecimal number, or a decimal one. -/
def integerFromString (type : IntegerType) (descriptor : IntegerFieldDescriptor type)
    (input : List UInt8) : Option type.Value :=
  (descriptor.labels.lookup input).or
    ((prefixedHexStringToInteger input type).or (stringToInteger input type))

/-- The field that a text stands for, for the fields that are not groups. -/
def FieldDescriptor.convert (bigEndian : Bool) (input : List UInt8) :
    FieldDescriptor → Option MessageField
  | .bool name => (boolFromString input).map (.bool name)
  | .ipv4 name =>
    (IPV4Address.fromString input).map (fun address => .ipv4 name (UInt32.ofNat
      (hostValue bigEndian [address.first, address.second, address.third, address.fourth])))
  | .mac name => (macFromString input).map (.mac name)
  | .uid name => (uidFromString input).map (.uid name)
  | .string descriptor => (stringFromString descriptor input).map (.string descriptor)
  | .integer type descriptor =>
    (integerFromString type descriptor input).map (.integer type descriptor)
  | .group _ _ _ _ => none

def FieldDescriptor.name : FieldDescriptor → List UInt8
  | .bool name | .ipv4 name | .mac name | .uid name | .group name _ _ _ => name
  | .string descriptor => descriptor.name
  | .integer _ descriptor => descriptor.name

/-- `m_groups` is the stack of the fields so far, its top first. `error` is the name in
`m_error_string` while `m_error` is set, and `starved` tells that a field found no input. -/
structure StringMessageBuilder where
  inputs : List (List UInt8)
  inputSize : Nat
  offset : Nat
  groupInstanceCount : Nat
  groups : List (List MessageField)
  error : Option (List UInt8)
  starved : Bool

variable (builder : StringMessageBuilder)

namespace StringMessageBuilder

/-- `m_groups.top().push_back`. -/
def push (field : MessageField) : StringMessageBuilder :=
  match builder.groups with
  | [] => builder
  | top :: below => { builder with groups := (top ++ [field]) :: below }

/-- A field that is not a group takes one input, unless `StopParsing` says no. -/
def visitField (bigEndian : Bool) (descriptor : FieldDescriptor) (builder : StringMessageBuilder) :
    StringMessageBuilder :=
  if builder.error.isSome then builder
  else if builder.inputSize ≤ builder.offset then { builder with starved := true }
  else
    let token := builder.inputs.getD builder.offset []
    let builder := { builder with offset := builder.offset + 1 }
    match descriptor.convert bigEndian token with
    | none => { builder with error := some descriptor.name }
    | some field => builder.push field

/-- A block begins: `m_groups.push`. -/
def enter : StringMessageBuilder :=
  { builder with groups := [] :: builder.groups }

/-- It ends: the field made from what is on top takes its place. -/
def leave (message : List MessageField → MessageField) : StringMessageBuilder :=
  match builder.groups with
  | [] => builder
  | fields :: below => { builder with groups := below }.push (message fields)

/-- How often a group is repeated. -/
def iterations (count : Nat) (fixedSize : Bool) (minBlocks : UInt16) : Nat :=
  if fixedSize then minBlocks.toNat else count

mutual

/-- `Accept` of a field. -/
def visit (bigEndian : Bool) : FieldDescriptor → StringMessageBuilder → StringMessageBuilder
  | .group name fields minBlocks maxBlocks, builder =>
    let fixedSize := (FieldDescriptor.group name fields minBlocks maxBlocks).size.fixed
    (fun builder => (visitAll bigEndian fields builder.enter).leave
      (.group name fields minBlocks maxBlocks))^[
        iterations builder.groupInstanceCount fixedSize minBlocks] builder
  | field, builder => visitField bigEndian field builder

def visitAll (bigEndian : Bool) :
    List FieldDescriptor → StringMessageBuilder → StringMessageBuilder
  | [], builder => builder
  | field :: rest, builder => visitAll bigEndian rest (visit bigEndian field builder)

end

/-- `InitVars`. The size is an `unsigned int`. -/
def initVars (inputs : List (List UInt8)) : StringMessageBuilder :=
  { builder with
    inputs := inputs
    inputSize := inputs.length % 2 ^ 32
    offset := 0
    groups := [[]]
    error := none
    starved := false }

/-- The end of `GetMessage`; `none` is the NULL pointer. -/
def result : StringMessageBuilder × Option Message :=
  if builder.error.isSome then (builder, none)
  else
    match builder.groups with
    | [fields] => ({ builder with groups := [[]] }, some fields)
    | _ => (builder, none)

/-- `GetMessage`; `none` is a division by zero. -/
def getMessage (bigEndian : Bool) (builder : StringMessageBuilder) (inputs : List (List UInt8))
    (descriptor : Descriptor) : Option (StringMessageBuilder × Option Message) :=
  let builder := builder.initVars inputs
  match GroupSizeCalculator.calculateGroupSize (inputs.length % 2 ^ 32) descriptor with
  | none => none
  | some (state, count) =>
    let builder := { builder with groupInstanceCount := count.getD builder.groupInstanceCount }
    match state with
    | .singleVariableGroup | .noVariableGroups =>
      some (visitAll bigEndian descriptor.fields builder).result
    | _ => some (builder, none)

end StringMessageBuilder

end OpenLighting.Messaging
