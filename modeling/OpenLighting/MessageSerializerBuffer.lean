import OpenLighting.MessageSerializer

/- When the memory of the serializer holds a message. -/
namespace OpenLighting.Messaging.MessageSerializer

open OpenLighting.NetworkUtils List

/-- What a field asks for, and how many bytes it puts. -/
structure Extent where
  required : Nat
  used : Nat

mutual

def extents : MessageField → List Extent
  | .bool _ _ => [⟨1, 1⟩]
  | .ipv4 _ _ => [⟨4, 4⟩]
  | .mac _ _ => [⟨6, 6⟩]
  | .uid _ _ => [⟨6, 6⟩]
  | .string descriptor value =>
    [⟨stringSize descriptor value, max (stringSize descriptor value) descriptor.minSize.toNat⟩]
  | .integer type _ _ => [⟨type.size, type.size⟩]
  | .group _ _ _ _ fields => allExtents fields

def allExtents : List MessageField → List Extent
  | [] => []
  | field :: rest => extents field ++ allExtents rest

end

/-- Fields that start at an offset end inside the memory: those that the check finds room for
inside the memory that is `here`, and the others inside the memory that is got for them, which
is of twice the `initial` size. -/
def Fit (here initial : Nat) : Nat → List Extent → Prop
  | _, [] => True
  | offset, extent :: rest =>
    offset + extent.used ≤ (if offset + extent.required < initial then here
      else 2 * initial % 2 ^ 32) ∧
    Fit here initial (offset + extent.used) rest

instance fitDecidable (here initial : Nat) :
    ∀ offset extents, Decidable (Fit here initial offset extents)
  | _, [] => .isTrue trivial
  | offset, extent :: rest =>
    have := fitDecidable here initial (offset + extent.used) rest
    inferInstanceAs (Decidable (_ ∧ _))

def Fits (serializer : MessageSerializer) (message : Message) : Prop :=
  Fit (serializer.allocated.getD serializer.initialBufferSize.toNat)
    serializer.initialBufferSize.toNat 0 (allExtents message)

instance (serializer : MessageSerializer) (message : Message) :
    Decidable (serializer.Fits message) :=
  fitDecidable _ _ _ _

def Piece.extent (piece : Piece) : Extent := ⟨piece.required, piece.bytes.length⟩

theorem stringBytes_length (descriptor : StringFieldDescriptor) (value : List UInt8) :
    (stringBytes descriptor value).length =
      max (stringSize descriptor value) descriptor.minSize.toNat := by
  unfold stringBytes stringSize
  simp only [length_append, length_take, length_replicate]
  omega

mutual

theorem extents_eq (bigEndian : Bool) : ∀ field : MessageField,
    (pieces bigEndian field).map Piece.extent = extents field
  | .bool _ _ | .uid _ _ => rfl
  | .ipv4 _ _ | .integer _ _ _ => by
    simp only [pieces, extents, map_cons, map_nil, Piece.extent, hostBytes_length]
  | .mac _ value => by
    simp only [pieces, extents, map_cons, map_nil, Piece.extent, value.length]
  | .string descriptor value => by
    simp only [pieces, extents, map_cons, map_nil, Piece.extent, stringBytes_length]
  | .group _ _ _ _ fields => by
    exact allExtents_eq bigEndian fields

theorem allExtents_eq (bigEndian : Bool) : ∀ fields : List MessageField,
    (allPieces bigEndian fields).map Piece.extent = allExtents fields
  | [] => rfl
  | field :: rest => by
    rw [allPieces, allExtents, map_append, extents_eq bigEndian field,
      allExtents_eq bigEndian rest]

end

mutual

/-- No field asks for more than it puts. -/
theorem extents_within : ∀ field : MessageField,
    ∀ extent ∈ extents field, extent.required ≤ extent.used
  | .bool _ _, extent, member | .ipv4 _ _, extent, member | .mac _ _, extent, member
  | .uid _ _, extent, member | .integer _ _ _, extent, member
  | .string _ _, extent, member => by
    simp only [extents, mem_singleton] at member
    subst member
    simp
  | .group _ _ _ _ fields, extent, member => by
    exact allExtents_within fields extent member

theorem allExtents_within : ∀ fields : List MessageField,
    ∀ extent ∈ allExtents fields, extent.required ≤ extent.used
  | [], extent, member => by cases member
  | field :: rest, extent, member => by
    rw [allExtents, mem_append] at member
    cases member with
    | inl member => exact extents_within field extent member
    | inr member => exact allExtents_within rest extent member

end

section Memory

/-- Behind some fields of a message: the memory is the one from the start of the message, or it
was replaced when there was no room up to its end. -/
structure Holds (here initial : Nat) (serializer : MessageSerializer) : Prop where
  origin : serializer.initialBufferSize.toNat = initial
  size : serializer.bufferSize = initial
  first : here = initial ∨ here = 2 * initial % 2 ^ 32
  memory : serializer.allocated = some here ∨
    serializer.allocated = some (2 * initial % 2 ^ 32) ∧ initial ≤ serializer.written.length
  inside : serializer.written.length ≤ serializer.allocated.getD 0

variable {here initial : Nat} {serializer : MessageSerializer}

section
variable (holds : Holds here initial serializer)
include holds

theorem Holds.unchanged {size : Nat} (same : serializer.allocated = some size) :
    some serializer = if serializer.written.length ≤ size then
      some { serializer with allocated := some size } else none := by
  have inside := holds.inside
  rw [same, Option.getD_some] at inside
  rw [if_pos inside, ← same]

/-- Behind the initial size the memory is the larger one. -/
theorem Holds.larger (behind : initial < serializer.written.length) :
    serializer.allocated = some (2 * initial % 2 ^ 32) := by
  cases holds.memory with
  | inr replaced => exact replaced.1
  | inl kept =>
    have inside := holds.inside
    rw [kept, Option.getD_some] at inside
    cases holds.first with
    | inl same => omega
    | inr same => rw [kept, same]

/-- The memory for the next field. -/
theorem checkForFreeSpace_eq (requiredSize : Nat) {size : Nat}
    (memory : size = if serializer.written.length + requiredSize < initial then here
      else 2 * initial % 2 ^ 32) :
    serializer.checkForFreeSpace requiredSize =
      if serializer.written.length ≤ size then some { serializer with allocated := some size }
      else none := by
  have small := serializer.initialBufferSize.toNat_lt
  have origin := holds.origin
  have same := holds.size
  unfold checkForFreeSpace
  by_cases room : serializer.written.length + requiredSize < initial
  · rw [if_pos room] at memory
    rw [if_pos (by omega), memory]
    apply holds.unchanged
    cases holds.memory with
    | inl kept => exact kept
    | inr replaced => omega
  · rw [if_neg room] at memory
    rw [memory]
    by_cases behind : initial < serializer.written.length
    · have larger := holds.larger behind
      split
      · exact holds.unchanged larger
      · rw [same]
    · rw [if_neg (by omega), same]

theorem append_eq {requiredSize : Nat} {bytes : List UInt8} {size : Nat}
    (memory : size = if serializer.written.length + requiredSize < initial then here
      else 2 * initial % 2 ^ 32) :
    serializer.append requiredSize bytes =
      if serializer.written.length + bytes.length ≤ size then
        some { serializer with allocated := some size, written := serializer.written ++ bytes }
      else none := by
  unfold append
  rw [checkForFreeSpace_eq holds requiredSize memory]
  by_cases copied : serializer.written.length ≤ size
  · rw [if_pos copied, Option.bind_some]
    rfl
  · rw [if_neg copied, if_neg (by omega), Option.bind_none]

theorem Holds.append {requiredSize : Nat} {bytes : List UInt8} {size : Nat}
    (within : requiredSize ≤ bytes.length)
    (memory : size = if serializer.written.length + requiredSize < initial then here
      else 2 * initial % 2 ^ 32) (inside : serializer.written.length + bytes.length ≤ size) :
    Holds here initial
      { serializer with allocated := some size, written := serializer.written ++ bytes } := by
  constructor
  · exact holds.origin
  · exact holds.size
  · exact holds.first
  · rw [length_append, memory]
    split
    · exact Or.inl rfl
    · exact Or.inr ⟨rfl, by omega⟩
  · rw [length_append]
    exact inside

end

section
variable (pieces : List Piece) (within : ∀ piece ∈ pieces, piece.required ≤ piece.bytes.length)
  (holds : Holds here initial serializer)
include pieces within holds

/-- The fields of a message are put behind each other if and only if they fit. -/
theorem appendAll_iff (bytes : List UInt8) :
    (∃ after, appendAll pieces serializer = some after ∧ after.written = bytes) ↔
      bytes = serializer.written ++ encoded pieces ∧
        Fit here initial serializer.written.length (pieces.map Piece.extent) := by
  induction pieces generalizing serializer with
  | nil =>
    constructor
    · rintro ⟨after, same, rfl⟩
      cases same
      exact ⟨(append_nil _).symm, trivial⟩
    · rintro ⟨rfl, _⟩
      exact ⟨serializer, rfl, (append_nil _).symm⟩
  | cons piece rest ih =>
    have first := within piece mem_cons_self
    rw [appendAll, append_eq holds rfl]
    by_cases inside : serializer.written.length + piece.bytes.length ≤
        if serializer.written.length + piece.required < initial then here
        else 2 * initial % 2 ^ 32
    · rw [if_pos inside, Option.bind_some,
        ih (fun piece member => within piece (mem_cons_of_mem _ member))
          (holds.append first rfl inside)]
      rw [append_assoc, length_append]
      exact and_congr_right (fun _ => (and_iff_right inside).symm)
    · rw [if_neg inside, Option.bind_none]
      constructor
      · rintro ⟨after, none, _⟩
        cases none
      · rintro ⟨_, fits, _⟩
        exact absurd fits inside

theorem Holds.appendAll {after : MessageSerializer}
    (done : MessageSerializer.appendAll pieces serializer = some after) :
    Holds here initial after := by
  induction pieces generalizing serializer with
  | nil =>
    cases done
    exact holds
  | cons piece rest ih =>
    have first := within piece mem_cons_self
    rw [MessageSerializer.appendAll, append_eq holds rfl] at done
    by_cases inside : serializer.written.length + piece.bytes.length ≤
        if serializer.written.length + piece.required < initial then here
        else 2 * initial % 2 ^ 32
    · rw [if_pos inside, Option.bind_some] at done
      apply ih (fun piece member => within piece (mem_cons_of_mem _ member))
        (holds.append first rfl inside)
      exact done
    · rw [if_neg inside] at done
      cases done

end

end Memory

section Messages

variable {bigEndian : Bool} {serializer : MessageSerializer}

/-- Between two messages. -/
structure Ready (serializer : MessageSerializer) : Prop where
  size : serializer.allocated ≠ none →
    serializer.bufferSize = serializer.initialBufferSize.toNat
  memory : serializer.allocated.getD serializer.initialBufferSize.toNat =
      serializer.initialBufferSize.toNat ∨
    serializer.allocated.getD serializer.initialBufferSize.toNat =
      2 * serializer.initialBufferSize.toNat % 2 ^ 32

theorem ready_new (initialSize : UInt32) : Ready (new initialSize) := by
  constructor
  · intro absent
    cases absent rfl
  · exact Or.inl rfl

theorem Ready.start (ready : Ready serializer) :
    Holds (serializer.allocated.getD serializer.initialBufferSize.toNat)
      serializer.initialBufferSize.toNat serializer.start := by
  have size := ready.size
  have memory := ready.memory
  unfold MessageSerializer.start
  cases present : serializer.allocated with
  | none =>
    rw [present] at memory
    exact ⟨rfl, rfl, memory, Or.inl rfl, Nat.zero_le _⟩
  | some here =>
    rw [present] at memory size
    exact ⟨rfl, size (by simp), memory, Or.inl rfl, Nat.zero_le _⟩

theorem start_written (serializer : MessageSerializer) : serializer.start.written = [] := by
  unfold start
  split <;> rfl

theorem allPieces_within (bigEndian : Bool) (message : Message) :
    ∀ piece ∈ allPieces bigEndian message, piece.required ≤ piece.bytes.length := by
  intro piece member
  apply allExtents_within message piece.extent
  rw [← allExtents_eq bigEndian]
  exact mem_map_of_mem member

variable {after : MessageSerializer × List UInt8}

theorem Ready.serializeMessage {message : Message} (ready : Ready serializer)
    (done : MessageSerializer.serializeMessage bigEndian serializer message = some after) :
    Ready after.1 := by
  unfold MessageSerializer.serializeMessage at done
  rw [Option.map_eq_some_iff] at done
  obtain ⟨last, visited, rfl⟩ := done
  rw [visitAll_eq] at visited
  have holds := ready.start.appendAll _ (allPieces_within bigEndian message) visited
  constructor
  · intro _
    rw [holds.size, holds.origin]
  · rw [holds.origin]
    cases holds.memory with
    | inl kept =>
      rw [kept]
      exact ready.memory
    | inr replaced =>
      rw [replaced.1]
      exact Or.inr rfl

theorem Holds.small {here initial : Nat} (holds : Holds here initial serializer) :
    serializer.written.length < 2 ^ 32 := by
  have bound := serializer.initialBufferSize.toNat_lt
  have origin := holds.origin
  have inside := holds.inside
  cases holds.memory with
  | inl kept =>
    rw [kept, Option.getD_some] at inside
    cases holds.first with
    | inl same | inr same => omega
  | inr replaced =>
    rw [replaced.1, Option.getD_some] at inside
    omega

/-- What is serialized is less than `2 ^ 32` bytes. -/
theorem serializeMessage_small {message : Message} (ready : Ready serializer)
    (done : serializeMessage bigEndian serializer message = some after) :
    after.2.length < 2 ^ 32 := by
  unfold serializeMessage at done
  rw [Option.map_eq_some_iff] at done
  obtain ⟨last, visited, rfl⟩ := done
  rw [visitAll_eq] at visited
  exact (ready.start.appendAll _ (allPieces_within bigEndian message) visited).small

theorem ready_serializeMessages {messages : List Message} {after : MessageSerializer}
    (ready : Ready serializer) (done : serializeMessages bigEndian serializer messages = some after) :
    Ready after := by
  induction messages generalizing serializer with
  | nil =>
    cases done
    exact ready
  | cons message rest ih =>
    rw [serializeMessages, Option.bind_eq_some_iff] at done
    obtain ⟨result, first, done⟩ := done
    exact ih (ready.serializeMessage first) done

/-- A message is serialized if and only if it fits. -/
theorem serializeMessage_iff (ready : Ready serializer) (message : Message) (bytes : List UInt8) :
    (∃ after, serializeMessage bigEndian serializer message = some (after, bytes)) ↔
      bytes = encoded (allPieces bigEndian message) ∧ serializer.Fits message := by
  have puts := appendAll_iff (allPieces bigEndian message) (allPieces_within bigEndian message)
    ready.start bytes
  rw [allExtents_eq, start_written, nil_append] at puts
  apply Iff.trans _ puts
  unfold serializeMessage
  rw [visitAll_eq]
  constructor
  · rintro ⟨after, done⟩
    rw [Option.map_eq_some_iff] at done
    obtain ⟨last, visited, same⟩ := done
    cases same
    exact ⟨after, visited, rfl⟩
  · rintro ⟨after, visited, rfl⟩
    exact ⟨after, by rw [visited]; rfl⟩

end Messages

end OpenLighting.Messaging.MessageSerializer
