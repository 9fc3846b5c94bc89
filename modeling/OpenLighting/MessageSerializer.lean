import OpenLighting.Messaging
import OpenLighting.RdmCommand

namespace OpenLighting.Messaging

open OpenLighting.NetworkUtils

/-- `m_data` is the memory of `allocated` bytes, of which the first `m_offset` are `written`;
`none` is the NULL pointer. -/
structure MessageSerializer where
  allocated : Option Nat
  written : List UInt8
  bufferSize : Nat
  initialBufferSize : UInt32

variable (serializer : MessageSerializer) (descriptor : StringFieldDescriptor)

namespace MessageSerializer

/-- `INITIAL_BUFFER_SIZE`. -/
def defaultBufferSize : UInt32 := 256

/-- `MessageSerializer(initial_size)`. -/
def new (initialSize : UInt32) : MessageSerializer := ⟨none, [], 0, initialSize⟩

/-- `CheckForFreeSpace`; `none` stands for a copy past the end of the memory. The subtraction
is one of `unsigned int`s, and `m_buffer_size` stays as it is. -/
def checkForFreeSpace (requiredSize : Nat) : Option MessageSerializer :=
  if requiredSize < (serializer.bufferSize + 2 ^ 32 - serializer.written.length) % 2 ^ 32 then
    some serializer
  else
    let size := 2 * serializer.bufferSize % 2 ^ 32
    if serializer.written.length ≤ size then some { serializer with allocated := some size }
    else none

/-- Bytes are put to `m_data + m_offset`; `none` stands for a write past the end of the memory. -/
def put (bytes : List UInt8) : Option MessageSerializer :=
  if serializer.written.length + bytes.length ≤ serializer.allocated.getD 0 then
    some { serializer with written := serializer.written ++ bytes }
  else none

/-- What every `Visit` does: the check, and then the bytes. -/
def append (requiredSize : Nat) (bytes : List UInt8) : Option MessageSerializer :=
  (serializer.checkForFreeSpace requiredSize).bind (·.put bytes)

/-- The characters of a string that are sent. -/
def stringSize (value : List UInt8) : Nat :=
  min value.length descriptor.maxSize.toNat

/-- `memcpy` of the characters, and `memset` up to `MinSize`. -/
def stringBytes (value : List UInt8) : List UInt8 :=
  let size := stringSize descriptor value
  let usedSize := max size descriptor.minSize.toNat
  value.take size ++ List.replicate (usedSize - size) 0

mutual

/-- `Visit`; `bigEndian` tells the byte order of the host. -/
def visit (bigEndian : Bool) : MessageField → MessageSerializer → Option MessageSerializer
  | .bool _ value, serializer => serializer.append 1 [if value then 1 else 0]
  | .ipv4 _ value, serializer => serializer.append 4 (hostBytes bigEndian 4 value.toNat)
  | .mac _ value, serializer => serializer.append 6 value.octets
  | .uid _ value, serializer => serializer.append 6 value.pack
  | .string descriptor value, serializer =>
    -- The padding is not part of what is asked for.
    serializer.append (stringSize descriptor value) (stringBytes descriptor value)
  | .integer type descriptor value, serializer =>
    serializer.append type.size
      (hostBytes bigEndian type.size
        (toWire bigEndian descriptor.littleEndian type value).toNat)
  | .group _ _ _ _ fields, serializer => visitAll bigEndian fields serializer

/-- `Accept` of a message or of a group. -/
def visitAll (bigEndian : Bool) : List MessageField → MessageSerializer → Option MessageSerializer
  | [], serializer => some serializer
  | field :: rest, serializer => (visit bigEndian field serializer).bind (visitAll bigEndian rest)

end

/-- The memory is there, and nothing is in it. -/
def start : MessageSerializer :=
  match serializer.allocated with
  | none =>
    { serializer with
      allocated := some serializer.initialBufferSize.toNat
      bufferSize := serializer.initialBufferSize.toNat
      written := [] }
  | some _ => { serializer with written := [] }

/-- `SerializeMessage`: the bytes, with what is left for the next message. -/
def serializeMessage (bigEndian : Bool) (serializer : MessageSerializer) (message : Message) :
    Option (MessageSerializer × List UInt8) :=
  (visitAll bigEndian message serializer.start).map (fun after => (after, after.written))

/-- One message after the other. -/
def serializeMessages (bigEndian : Bool) (serializer : MessageSerializer) :
    List Message → Option MessageSerializer
  | [] => some serializer
  | message :: rest =>
    (serializeMessage bigEndian serializer message).bind
      (fun result => serializeMessages bigEndian result.1 rest)

/-- What a field asks for, and what it puts. -/
structure Piece where
  required : Nat
  bytes : List UInt8

mutual

/-- The fields that are sent, from left to right, without the groups around them. -/
def pieces (bigEndian : Bool) : MessageField → List Piece
  | .bool _ value => [⟨1, [if value then 1 else 0]⟩]
  | .ipv4 _ value => [⟨4, hostBytes bigEndian 4 value.toNat⟩]
  | .mac _ value => [⟨6, value.octets⟩]
  | .uid _ value => [⟨6, value.pack⟩]
  | .string descriptor value =>
    [⟨stringSize descriptor value, stringBytes descriptor value⟩]
  | .integer type descriptor value =>
    [⟨type.size, hostBytes bigEndian type.size
      (toWire bigEndian descriptor.littleEndian type value).toNat⟩]
  | .group _ _ _ _ fields => allPieces bigEndian fields

def allPieces (bigEndian : Bool) : List MessageField → List Piece
  | [] => []
  | field :: rest => pieces bigEndian field ++ allPieces bigEndian rest

end

/-- The pieces are put one after the other. -/
def appendAll : List Piece → MessageSerializer → Option MessageSerializer
  | [], serializer => some serializer
  | piece :: rest, serializer =>
    (serializer.append piece.required piece.bytes).bind (appendAll rest)

theorem appendAll_append (first second : List Piece) (serializer : MessageSerializer) :
    appendAll (first ++ second) serializer =
      (appendAll first serializer).bind (appendAll second) := by
  induction first generalizing serializer with
  | nil => rfl
  | cons piece rest ih =>
    rw [List.cons_append, appendAll, appendAll, Option.bind_assoc]
    congr 1
    funext next
    exact ih next

theorem appendAll_singleton (piece : Piece) (serializer : MessageSerializer) :
    appendAll [piece] serializer = serializer.append piece.required piece.bytes := by
  rw [appendAll]
  cases serializer.append piece.required piece.bytes <;> rfl

mutual

theorem visit_eq (bigEndian : Bool) : ∀ (field : MessageField) (serializer : MessageSerializer),
    visit bigEndian field serializer = appendAll (pieces bigEndian field) serializer
  | .bool _ _, _ | .ipv4 _ _, _ | .mac _ _, _ | .uid _ _, _ | .string _ _, _
  | .integer _ _ _, _ => by
    rw [visit, pieces, appendAll_singleton]
  | .group _ _ _ _ fields, serializer => by
    exact visitAll_eq bigEndian fields serializer

theorem visitAll_eq (bigEndian : Bool) :
    ∀ (fields : List MessageField) (serializer : MessageSerializer),
      visitAll bigEndian fields serializer = appendAll (allPieces bigEndian fields) serializer
  | [], _ => rfl
  | field :: rest, serializer => by
    rw [visitAll, allPieces, appendAll_append, visit_eq bigEndian field serializer]
    congr 1
    funext next
    exact visitAll_eq bigEndian rest next

end

/-- The bytes of some pieces. -/
def encoded (pieces : List Piece) : List UInt8 := pieces.flatMap Piece.bytes

theorem allPieces_append (bigEndian : Bool) (first second : List MessageField) :
    allPieces bigEndian (first ++ second) =
      allPieces bigEndian first ++ allPieces bigEndian second := by
  induction first with
  | nil => rfl
  | cons field rest ih => rw [List.cons_append, allPieces, allPieces, ih, List.append_assoc]

end MessageSerializer

end OpenLighting.Messaging
