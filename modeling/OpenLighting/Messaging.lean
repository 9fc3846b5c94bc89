import OpenLighting.NetworkUtils
import OpenLighting.Uid

/- Messages, the descriptors they are made from, and the sizes of both. -/
namespace OpenLighting.Messaging

open OpenLighting.NetworkUtils

structure StringFieldDescriptor where
  name : List UInt8
  minSize : UInt8
  maxSize : UInt8

/-- Intervals and the multiplier are not part of it: no value depends on them. -/
structure IntegerFieldDescriptor (type : IntegerType) where
  name : List UInt8
  littleEndian : Bool
  labels : List (List UInt8 × type.Value)

/-- A `FieldDescriptor` is a field of a fixed kind or a group of fields, which is sent any
number of times. -/
inductive FieldDescriptor where
  | bool (name : List UInt8)
  | ipv4 (name : List UInt8)
  | mac (name : List UInt8)
  | uid (name : List UInt8)
  | string (descriptor : StringFieldDescriptor)
  | integer (type : IntegerType) (descriptor : IntegerFieldDescriptor type)
  | group (name : List UInt8) (fields : List FieldDescriptor) (minBlocks : UInt16)
      (maxBlocks : Int16)

/-- `Descriptor`: the fields of a message. -/
structure Descriptor where
  name : List UInt8
  fields : List FieldDescriptor

def unlimitedBlocks : Int16 := -1

/-- The conversion of an `int16_t` to `unsigned int`. -/
def toUnsigned (value : Int16) : Nat := (value.toInt % 2 ^ 32).toNat

/-- `FixedSize`, `LimitedSize` and `MaxSize`. -/
structure Size where
  fixed : Bool
  limited : Bool
  max : Nat

def fixedBlockCount (minBlocks : UInt16) (maxBlocks : Int16) : Bool :=
  (minBlocks.toNat : Int) == maxBlocks.toInt

/-- The sizes of a group, from those that `PopulateIfRequired` finds for its fields. -/
def groupSize (block : Size) (minBlocks : UInt16) (maxBlocks : Int16) : Size :=
  let limited := if maxBlocks = unlimitedBlocks then false else block.limited
  ⟨block.fixed && fixedBlockCount minBlocks maxBlocks, limited,
    if limited then (if block.limited then block.max else 0) * toUnsigned maxBlocks % 2 ^ 32 else 0⟩

mutual

def FieldDescriptor.size : FieldDescriptor → Size
  | .bool _ => ⟨true, true, 1⟩
  | .ipv4 _ => ⟨true, true, 4⟩
  | .mac _ => ⟨true, true, 6⟩
  | .uid _ => ⟨true, true, 6⟩
  | .string descriptor =>
    ⟨descriptor.minSize == descriptor.maxSize, true, descriptor.maxSize.toNat⟩
  | .integer type _ => ⟨true, true, type.size⟩
  | .group _ fields minBlocks maxBlocks => groupSize (populate fields) minBlocks maxBlocks

/-- The loop of `PopulateIfRequired`: all the fields are fixed, all are limited, and their
sizes are added up. -/
def populate : List FieldDescriptor → Size
  | [] => ⟨true, true, 0⟩
  | field :: rest =>
    ⟨field.size.fixed && (populate rest).fixed, field.size.limited && (populate rest).limited,
      (field.size.max + (populate rest).max) % 2 ^ 32⟩

end

def blockSize (fields : List FieldDescriptor) : Nat :=
  if (populate fields).fixed then (populate fields).max else 0

/-- What `DescriptorConsistencyChecker` counts for a field. -/
def FieldDescriptor.variableSizes : FieldDescriptor → Nat
  | .string descriptor => if (FieldDescriptor.string descriptor).size.fixed then 0 else 1
  | .group name fields minBlocks maxBlocks =>
    (if (FieldDescriptor.group name fields minBlocks maxBlocks).size.fixed then 0 else 1) +
      if (populate fields).fixed then 0 else 1
  | _ => 0

/-- `CheckConsistency`. It does not descend into groups. -/
def checkConsistency (descriptor : Descriptor) : Bool :=
  descriptor.fields.foldl (fun count field => count + field.variableSizes) 0 ≤ 1

structure MACAddress where
  octets : List UInt8
  length : octets.length = 6

/-- A `MessageFieldInterface` with the descriptor it was made for. -/
inductive MessageField where
  | bool (name : List UInt8) (value : Bool)
  | ipv4 (name : List UInt8) (value : UInt32)
  | mac (name : List UInt8) (value : MACAddress)
  | uid (name : List UInt8) (value : UID)
  | string (descriptor : StringFieldDescriptor) (value : List UInt8)
  | integer (type : IntegerType) (descriptor : IntegerFieldDescriptor type) (value : type.Value)
  | group (name : List UInt8) (descriptors : List FieldDescriptor) (minBlocks : UInt16)
      (maxBlocks : Int16) (fields : List MessageField)

abbrev Message := List MessageField

/-- A group may be sent that often. -/
def BlocksAllowed (minBlocks : UInt16) (maxBlocks : Int16) (count : Nat) : Prop :=
  minBlocks.toNat ≤ count ∧ (maxBlocks = unlimitedBlocks ∨ (count : Int) ≤ maxBlocks.toInt)

/-- The fields of a message, or of one block of a group, are those described. -/
inductive Conforms : List FieldDescriptor → List MessageField → Prop
  | nil : Conforms [] []
  | bool {descriptors fields} (name value) (rest : Conforms descriptors fields) :
      Conforms (.bool name :: descriptors) (.bool name value :: fields)
  | ipv4 {descriptors fields} (name value) (rest : Conforms descriptors fields) :
      Conforms (.ipv4 name :: descriptors) (.ipv4 name value :: fields)
  | mac {descriptors fields} (name value) (rest : Conforms descriptors fields) :
      Conforms (.mac name :: descriptors) (.mac name value :: fields)
  | uid {descriptors fields} (name value) (rest : Conforms descriptors fields) :
      Conforms (.uid name :: descriptors) (.uid name value :: fields)
  | string {descriptors fields} (descriptor : StringFieldDescriptor) (value : List UInt8)
      (noNul : 0 ∉ value) (bounded : value.length ≤ descriptor.maxSize.toNat)
      (rest : Conforms descriptors fields) :
      Conforms (.string descriptor :: descriptors) (.string descriptor value :: fields)
  | integer {descriptors fields} (type) (descriptor : IntegerFieldDescriptor type) (value)
      (rest : Conforms descriptors fields) :
      Conforms (.integer type descriptor :: descriptors) (.integer type descriptor value :: fields)
  | group {descriptors fields} (name inner minBlocks maxBlocks) (blocks : List (List MessageField))
      (allowed : BlocksAllowed minBlocks maxBlocks blocks.length)
      (each : ∀ block ∈ blocks, Conforms inner block) (rest : Conforms descriptors fields) :
      Conforms (.group name inner minBlocks maxBlocks :: descriptors)
        (blocks.map (.group name inner minBlocks maxBlocks) ++ fields)

end OpenLighting.Messaging
