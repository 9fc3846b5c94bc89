import OpenLighting.RdmCommand

namespace OpenLighting.Rdm

def maxParamDataLength : Nat := 231

def requiredSize (command : Command) : Nat :=
  if maxParamDataLength < command.paramData.length then 0
  else headerSize + command.paramData.length + checksumLength

/-- The two bytes of a 16-bit field, high byte first. -/
def split (value : UInt16) : UInt8 × UInt8 :=
  (UInt8.ofNat (value.toNat / 2 ^ 8), UInt8.ofNat value.toNat)

/-- `PopulateHeader`; the lengths are narrowed to a byte. -/
def populateHeader (command : Command) (packetLength : Nat) (source : UID)
    (transactionNumber portId : UInt8) : CommandHeader where
  subStartCode := subStartCode
  messageLength := UInt8.ofNat (packetLength - checksumLength + 1)
  destinationUid := command.destination.pack
  sourceUid := source.pack
  transactionNumber := transactionNumber
  portId := portId
  messageCount := command.messageCount
  subDevice := split command.subDevice
  commandClass := command.commandClass.value
  paramId := split command.paramId
  paramDataLength := UInt8.ofNat command.paramData.length

/-- `memcpy` into a buffer. -/
def store (buffer : List UInt8) (offset : Nat) (bytes : List UInt8) : List UInt8 :=
  buffer.take offset ++ bytes ++ buffer.drop (offset + bytes.length)

/-- The 16-bit checksum that `PackWithParams` and `WriteToStack` accumulate. -/
def checksum16 (bytes : List UInt8) : UInt16 :=
  bytes.foldl (fun sum byte => sum + byte.toUInt16) startCode.toUInt16

/-- `PackWithParams`: the buffer afterwards and the size, or `none` where it
returns false. `*size` is the length of the buffer. -/
def packWithParams (command : Command) (buffer : List UInt8) (source : UID)
    (transactionNumber portId : UInt8) : Option (List UInt8 × Nat) :=
  let packetLength := requiredSize command
  if packetLength = 0 ∨ buffer.length < packetLength then none
  else
    let header := populateHeader command packetLength source transactionNumber portId
    let buffer := store buffer 0 header.bytes
    let buffer := store buffer headerSize command.paramData
    let checksum := checksum16 (buffer.take (packetLength - checksumLength))
    let buffer := store buffer (packetLength - checksumLength) [(split checksum).1]
    let buffer := store buffer (packetLength - checksumLength + 1) [(split checksum).2]
    some (buffer, packetLength)

def pack (command : Command) (buffer : List UInt8) : Option (List UInt8 × Nat) :=
  packWithParams command buffer command.source command.transactionNumber command.portId

def Command.header (command : Command) : CommandHeader :=
  populateHeader command (requiredSize command) command.source command.transactionNumber
    command.portId

/-- The packet up to the checksum, and the whole of it. -/
def Command.body (command : Command) : List UInt8 := command.header.bytes ++ command.paramData

def Command.packet (command : Command) : List UInt8 :=
  command.body ++ [(split (checksum16 command.body)).1, (split (checksum16 command.body)).2]

theorem word_split (value : UInt16) : word (split value) = value := by
  have bound := value.toNat_lt
  apply UInt16.toNat_inj.mp
  simp only [word, split, UInt16.toNat_ofNat', UInt8.toNat_ofNat']
  omega

theorem unpack_pack (uid : UID) : UID.unpack uid.pack = uid := by
  have esta := uid.estaId.toNat_lt
  have device := uid.deviceId.toNat_lt
  apply UID.toNat_injective
  simp only [UID.unpack, UID.pack, UID.toNat, List.getD_cons_zero, List.getD_cons_succ,
    UInt16.toNat_ofNat', UInt32.toNat_ofNat', UInt8.toNat_ofNat']
  omega

theorem convert_value (commandClass : CommandClass) :
    convertCommandClass commandClass.value = commandClass := by
  cases commandClass <;> rfl

/-- The buffer starts with what has been written so far. -/
structure Filled (buffer written : List UInt8) (size : Nat) : Prop where
  length : buffer.length = size
  start : buffer.take written.length = written

theorem Filled.empty (buffer : List UInt8) : Filled buffer [] buffer.length := ⟨rfl, rfl⟩

theorem Filled.store {buffer written : List UInt8} {size : Nat}
    (filled : Filled buffer written size) (offset : Nat) (bytes : List UInt8)
    (next : offset = written.length)
    (fits : offset + bytes.length ≤ size) :
    Filled (store buffer offset bytes) (written ++ bytes) size := by
  have same : Rdm.store buffer offset bytes =
      written ++ bytes ++ buffer.drop (offset + bytes.length) := by
    rw [Rdm.store, next, filled.start]
  have length := filled.length
  constructor
  · simp only [same, List.length_append, List.length_drop]
    omega
  · rw [same]
    exact List.take_left

section Packing
variable {command : Command}

theorem header_length (command : Command) : command.header.bytes.length = headerSize := rfl

theorem body_length (command : Command) :
    command.body.length = headerSize + command.paramData.length := by
  rw [Command.body, List.length_append, header_length]

section

variable (small : command.paramData.length ≤ maxParamDataLength)
include small

theorem requiredSize_eq :
    requiredSize command = headerSize + command.paramData.length + checksumLength := by
  rw [requiredSize, if_neg (Nat.not_lt.mpr small)]

theorem packet_length : command.packet.length = requiredSize command := by
  rw [requiredSize_eq small, Command.packet, List.length_append, body_length]
  rfl

theorem pack_packet {buffer : List UInt8} (large : requiredSize command ≤ buffer.length) :
    ∃ packed, pack command buffer = some (packed, requiredSize command) ∧
      packed.take (requiredSize command) = command.packet ∧ packed.length = buffer.length := by
  have size := requiredSize_eq small
  have succeeds : ¬ (requiredSize command = 0 ∨ buffer.length < requiredSize command) := by
    unfold headerSize checksumLength at size
    omega
  have bodySize : requiredSize command - checksumLength = command.body.length := by
    rw [body_length, size]
    omega
  have room : command.body.length + 2 = requiredSize command := by
    rw [body_length, size]
    rfl
  have header : Filled (store buffer 0 command.header.bytes) command.header.bytes
      buffer.length := by
    apply (Filled.empty buffer).store 0 command.header.bytes rfl
    rw [header_length]
    omega
  have body := header.store headerSize command.paramData (header_length command).symm (by omega)
  change Filled _ command.body _ at body
  have high := body.store (requiredSize command - checksumLength)
    [(split (checksum16 command.body)).1] bodySize (by simp only [List.length_singleton]; omega)
  have low := high.store (requiredSize command - checksumLength + 1)
    [(split (checksum16 command.body)).2] (by rw [List.length_append, bodySize]; rfl)
    (by simp only [List.length_singleton]; omega)
  rw [List.append_assoc] at low
  refine ⟨_, ?_, ?_, low.length⟩
  · have summed := body.start
    rw [← bodySize] at summed
    simp only [Command.header] at summed
    simp only [pack, packWithParams, succeeds, ↓reduceIte, summed]
    rfl
  · have start := low.start
    change List.take command.packet.length _ = command.packet at start
    rwa [packet_length small] at start

end

/-- `PackWithParams` sums 16-bit wide, `CalculateChecksum` 32-bit wide. -/
theorem checksum_wide (bytes : List UInt8) (wide : UInt32) :
    (bytes.foldl (fun sum byte => sum + byte.toUInt32) wide).toUInt16 =
      bytes.foldl (fun sum byte => sum + byte.toUInt16) wide.toUInt16 := by
  induction bytes generalizing wide with
  | nil => rfl
  | cons byte rest ih =>
    rw [List.foldl_cons, List.foldl_cons, ih]
    simp

theorem ofBytes_append (command : Command) (rest : List UInt8) :
    CommandHeader.ofBytes (command.header.bytes ++ rest) = some command.header := rfl

end Packing

end OpenLighting.Rdm
