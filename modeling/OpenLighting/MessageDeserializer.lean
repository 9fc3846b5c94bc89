import OpenLighting.MessageSerializer

namespace OpenLighting.Messaging

open OpenLighting.NetworkUtils

inductive CalculatorState where
  | tooSmall
  | tooLarge
  | fixedSize
  | variableString
  | variableGroup
  | multipleVariableFields
  | nestedVariableGroups
  | mismatchedSize
  deriving DecidableEq, Repr

structure VariableGroup where
  fields : List FieldDescriptor
  minBlocks : UInt16
  maxBlocks : Int16

structure VariableFieldSizeCalculator where
  fixedSizeSum : Nat
  variableStringFields : List StringFieldDescriptor
  variableGroupFields : List VariableGroup

variable (calculator : VariableFieldSizeCalculator)

namespace VariableFieldSizeCalculator

def new : VariableFieldSizeCalculator := ⟨0, [], []⟩

def addFixed (size : Nat) : VariableFieldSizeCalculator :=
  { calculator with fixedSizeSum := (calculator.fixedSizeSum + size) % 2 ^ 32 }

def visit (field : FieldDescriptor) : VariableFieldSizeCalculator :=
  if field.size.fixed then calculator.addFixed field.size.max
  else
    match field with
    | .string descriptor =>
      { calculator with
        variableStringFields := calculator.variableStringFields ++ [descriptor] }
    | .group _ fields minBlocks maxBlocks =>
      { calculator with
        variableGroupFields :=
          calculator.variableGroupFields ++ [⟨fields, minBlocks, maxBlocks⟩] }
    | _ => calculator.addFixed field.size.max

/-- The end of `CalculateFieldSize` for a string. -/
def stringFieldSize (descriptor : StringFieldDescriptor) (bytesRemaining : Nat) :
    CalculatorState × Option Nat :=
  if bytesRemaining < descriptor.minSize.toNat then (.tooSmall, none)
  else if descriptor.maxSize.toNat < bytesRemaining then (.tooLarge, none)
  else (.variableString, some bytesRemaining)

/-- The end of `CalculateFieldSize` for a group; `none` is a division by zero. -/
def groupFieldSize (group : VariableGroup) (bytesRemaining : Nat) :
    Option (CalculatorState × Option Nat) :=
  if (populate group.fields).fixed = false then some (.nestedVariableGroups, none)
  else
    let size := blockSize group.fields
    if (groupSize (populate group.fields) group.minBlocks group.maxBlocks).limited = true ∧
        size * toUnsigned group.maxBlocks % 2 ^ 32 < bytesRemaining then
      some (.tooLarge, none)
    else if size = 0 then none
    else if bytesRemaining % size ≠ 0 then some (.mismatchedSize, none)
    else
      let repeatCount := bytesRemaining / size
      if repeatCount < group.minBlocks.toNat then some (.tooSmall, none)
      else if group.maxBlocks ≠ unlimitedBlocks ∧ toUnsigned group.maxBlocks < repeatCount then
        some (.tooLarge, none)
      else some (.variableGroup, some repeatCount)

/-- `CalculateFieldSize`, with what it stores to `variable_field_size`. -/
def calculateFieldSize (dataSize : Nat) (descriptor : Descriptor) :
    Option (CalculatorState × Option Nat) :=
  let calculator := descriptor.fields.foldl visit new
  let strings := calculator.variableStringFields
  let groups := calculator.variableGroupFields
  if dataSize < calculator.fixedSizeSum then some (.tooSmall, none)
  else if 1 < strings.length + groups.length then some (.multipleVariableFields, none)
  else
    match strings, groups with
    | [], [] =>
      some (if calculator.fixedSizeSum < dataSize then .tooLarge else .fixedSize, none)
    | string :: _, _ => some (stringFieldSize string (dataSize - calculator.fixedSizeSum))
    | [], group :: _ => groupFieldSize group (dataSize - calculator.fixedSizeSum)

end VariableFieldSizeCalculator

def shortenString (input : List UInt8) : List UInt8 := input.takeWhile (· ≠ 0)

/-- The constructor `MACAddress(const uint8_t*)`, from `LENGTH` bytes. -/
def MACAddress.ofBytes (bytes : List UInt8) : MACAddress :=
  ⟨(bytes ++ List.replicate 6 0).take 6, by simp⟩

/-- `m_length` is the length of the data. -/
structure MessageDeserializer where
  data : List UInt8
  offset : Nat
  variableFieldSize : Nat
  insufficientData : Bool
  messageStack : List (List MessageField)

variable (deserializer : MessageDeserializer)

namespace MessageDeserializer

/-- `CheckForData`, but for the flag that it sets. -/
def checkForData (requiredSize : Nat) : Bool :=
  requiredSize ≤ (deserializer.data.length + 2 ^ 32 - deserializer.offset) % 2 ^ 32

/-- `m_message_stack.top().push_back`. -/
def pushBack (fields : List MessageField) : MessageDeserializer :=
  match deserializer.messageStack with
  | [] => deserializer
  | top :: below => { deserializer with messageStack := (top ++ fields) :: below }

/-- What every `Visit` does for a field that is no group. -/
def take (deserializer : MessageDeserializer) (size : Nat) (make : List UInt8 → MessageField) :
    MessageDeserializer :=
  if deserializer.checkForData size then
    { deserializer with offset := deserializer.offset + size }.pushBack
      [make ((deserializer.data.drop deserializer.offset).take size)]
  else { deserializer with insufficientData := true }

/-- One round of the loop over the blocks of a group. -/
def block (visitFields : MessageDeserializer → MessageDeserializer)
    (make : List MessageField → MessageField) : MessageDeserializer :=
  let populated := visitFields { deserializer with messageStack := [] :: deserializer.messageStack }
  match populated.messageStack with
  | [] => populated
  | fields :: below => { populated with messageStack := below }.pushBack [make fields]

mutual

/-- `Visit`; `bigEndian` tells the byte order of the host. -/
def visit (bigEndian : Bool) : FieldDescriptor → MessageDeserializer → MessageDeserializer
  | .bool name, deserializer =>
    deserializer.take 1 (fun bytes => .bool name (bytes.headD 0 ≠ 0))
  | .ipv4 name, deserializer =>
    deserializer.take 4 (fun bytes => .ipv4 name (UInt32.ofNat (hostValue bigEndian bytes)))
  | .mac name, deserializer => deserializer.take 6 (fun bytes => .mac name (.ofBytes bytes))
  | .uid name, deserializer => deserializer.take 6 (fun bytes => .uid name (UID.unpack bytes))
  | .string descriptor, deserializer =>
    deserializer.take
      (if (FieldDescriptor.string descriptor).size.fixed then descriptor.maxSize.toNat
        else deserializer.variableFieldSize)
      (fun bytes => .string descriptor (shortenString bytes))
  | .integer type descriptor, deserializer =>
    deserializer.take type.size (fun bytes =>
      .integer type descriptor
        (toWire bigEndian descriptor.littleEndian type
          (BitVec.ofNat type.bits (hostValue bigEndian bytes))))
  | .group name fields minBlocks maxBlocks, deserializer =>
    let iterations :=
      if (FieldDescriptor.group name fields minBlocks maxBlocks).size.fixed then minBlocks.toNat
      else deserializer.variableFieldSize
    (fun deserializer : MessageDeserializer =>
      deserializer.block (visitAll bigEndian fields)
        (.group name fields minBlocks maxBlocks))^[iterations] deserializer

/-- The fields of a message or of a block. -/
def visitAll (bigEndian : Bool) :
    List FieldDescriptor → MessageDeserializer → MessageDeserializer
  | [], deserializer => deserializer
  | field :: rest, deserializer => visitAll bigEndian rest (visit bigEndian field deserializer)

end

/-- The states of the calculator with which a message is read. -/
def accepted : CalculatorState → Bool
  | .fixedSize | .variableString | .variableGroup => true
  | _ => false

/-- `InflateMessage`; `none` is a division by zero, and a message that is `none` is NULL. -/
def inflateMessage (bigEndian : Bool) (deserializer : MessageDeserializer)
    (descriptor : Descriptor) (data : List UInt8) :
    Option (MessageDeserializer × Option Message) :=
  match VariableFieldSizeCalculator.calculateFieldSize data.length descriptor with
  | none => none
  | some (state, size) =>
    let started : MessageDeserializer :=
      ⟨data, 0, size.getD deserializer.variableFieldSize, false, []⟩
    if accepted state then
      let visited := visitAll bigEndian descriptor.fields { started with messageStack := [[]] }
      if visited.insufficientData then some (visited, none)
      else
        match visited.messageStack with
        | [] => some (visited, none)
        | fields :: below => some ({ visited with messageStack := [] :: below }, some fields)
    else some (started, none)

end MessageDeserializer

end OpenLighting.Messaging
