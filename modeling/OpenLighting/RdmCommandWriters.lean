import OpenLighting.IoQueue
import OpenLighting.IoStack
import OpenLighting.RdmCommandSerializer

namespace OpenLighting.Rdm

open OpenLighting.Io

inductive ByteOrder where
  | littleEndian
  | bigEndian
  deriving DecidableEq, Repr

variable (order : ByteOrder)

/-- A 16-bit value as it lies in memory, which is what `OutputStream` writes. -/
def ByteOrder.memory (value : UInt16) : List UInt8 :=
  match order with
  | .littleEndian => [(split value).2, (split value).1]
  | .bigEndian => [(split value).1, (split value).2]

def ByteOrder.hostToNetwork (value : UInt16) : UInt16 :=
  match order with
  | .littleEndian => word ((split value).2, (split value).1)
  | .bigEndian => value

/-- The header that `RDMCommand::Write` fills in by itself. -/
def Command.message (command : Command) : CommandHeader :=
  let packetLength := headerSize + command.paramData.length
  { subStartCode := subStartCode
    messageLength := UInt8.ofNat (packetLength + 1)
    destinationUid := command.destination.pack
    sourceUid := command.source.pack
    transactionNumber := command.transactionNumber
    portId := command.portId
    messageCount := command.messageCount
    subDevice := split command.subDevice
    commandClass := command.commandClass.value
    paramId := split command.paramId
    paramDataLength := UInt8.ofNat command.paramData.length }

/-- `RDMCommand::Write` to an `OutputStream` over a queue. -/
def Command.write (order : ByteOrder) (command : Command) (queue : IOQueue) : Option IOQueue := do
  let message := command.message
  let checksumValue :=
    message.bytes.foldl (fun sum byte => sum + byte.toUInt32) startCode.toUInt32
  let queue ← queue.write message.bytes
  let checksumValue := command.paramData.foldl (fun sum byte => sum + byte.toUInt32) checksumValue
  let queue ← queue.write command.paramData
  queue.write (order.memory (order.hostToNetwork checksumValue.toUInt16))

/-- `WriteToStack`; `none` where it returns false. -/
def writeToStack (command : Command) (stack : IOStack) (source : UID)
    (transactionNumber portId : UInt8) : Option IOStack :=
  let packetLength := requiredSize command
  if packetLength = 0 then none
  else do
    let header := populateHeader command packetLength source transactionNumber portId
    let checksum :=
      header.bytes.foldl (fun sum byte => sum + byte.toUInt16) startCode.toUInt16
    let checksum := command.paramData.foldl (fun sum byte => sum + byte.toUInt16) checksum
    -- the parts go onto the stack back to front
    let stack ← stack.write (order.memory (order.hostToNetwork checksum))
    let stack ← stack.write command.paramData
    stack.write header.bytes

/-- `RDMCommandSerializer::Write`. -/
def write (command : Command) (stack : IOStack) : Option IOStack :=
  writeToStack order command stack command.source command.transactionNumber command.portId

/-- All three encoders succeed and produce the same bytes. -/
def EncodersAgree (command : Command) (buffer : List UInt8) (queue : IOQueue)
    (stack : IOStack) : Prop :=
  ∃ packed size queueAfter stackAfter,
    pack command buffer = some (packed, size) ∧
    command.write order queue = some queueAfter ∧
    write order command stack = some stackAfter ∧
    queueAfter.peek queueAfter.size = packed.take size ∧
    (stackAfter.read stackAfter.size).2 = packed.take size

/-- A GET request without data. -/
def exampleRequest : Command :=
  ⟨⟨1, 2⟩, ⟨3, 4⟩, 0, 1, 0, 10, .getCommand, 296, []⟩

section Encoders
variable {command : Command} {order : ByteOrder}

theorem split_word (bytes : UInt8 × UInt8) : split (word bytes) = bytes := by
  have high := bytes.1.toNat_lt
  have low := bytes.2.toNat_lt
  apply Prod.ext
  · apply UInt8.toNat_inj.mp
    simp only [split, word, UInt8.toNat_ofNat', UInt16.toNat_ofNat']
    omega
  · apply UInt8.toNat_inj.mp
    simp only [split, word, UInt8.toNat_ofNat', UInt16.toNat_ofNat']
    omega

/-- Both streams end up with the high byte first, on any host. -/
theorem memory_hostToNetwork (value : UInt16) :
    order.memory (order.hostToNetwork value) = [(split value).1, (split value).2] := by
  cases order with
  | littleEndian => simp only [ByteOrder.memory, ByteOrder.hostToNetwork, split_word]
  | bigEndian => rfl

/-- The two header routines fill in the same header. -/
theorem message_eq (small : command.paramData.length ≤ maxParamDataLength) :
    command.message = command.header := by
  have size : requiredSize command - checksumLength = headerSize + command.paramData.length := by
    rw [requiredSize_eq small]
    omega
  rw [Command.header, populateHeader, size]
  rfl

/-- The sum that runs over the header and then over the data. -/
theorem checksum_parts (command : Command) :
    command.paramData.foldl (fun sum byte => sum + byte.toUInt16)
      (command.header.bytes.foldl (fun sum byte => sum + byte.toUInt16) startCode.toUInt16) =
      checksum16 command.body := by
  rw [checksum16, Command.body, List.foldl_append]

section

variable (small : command.paramData.length ≤ maxParamDataLength)
include small

theorem write_eq (queue : IOQueue) :
    command.write order queue = (do
      let queue ← queue.write command.header.bytes
      let queue ← queue.write command.paramData
      queue.write [(split (checksum16 command.body)).1, (split (checksum16 command.body)).2]) := by
  have wide : (startCode.toUInt32).toUInt16 = startCode.toUInt16 := rfl
  unfold Command.write
  simp only [message_eq small, memory_hostToNetwork, checksum_wide, wide, checksum_parts]

theorem write_queue (queue : IOQueue) :
    ∃ after, command.write order queue = some after ∧
      IOQueue.Appended queue command.packet after := by
  obtain ⟨first, writesHeader⟩ := queue.write_returns command.header.bytes
  obtain ⟨second, writesData⟩ := first.write_returns command.paramData
  obtain ⟨after, writesChecksum⟩ := second.write_returns
    [(split (checksum16 command.body)).1, (split (checksum16 command.body)).2]
  refine ⟨after, ?_, ?_⟩
  · rw [write_eq small, writesHeader]
    show (first.write command.paramData).bind _ = _
    rw [writesData]
    exact writesChecksum
  · have body := (IOQueue.write_appended writesHeader).trans (IOQueue.write_appended writesData)
    exact body.trans (IOQueue.write_appended writesChecksum)

/-- `Write` to a stack puts the packet in front, whatever the pool gave out. -/
theorem write_stack (stack : IOStack) :
    ∃ after, write order command stack = some after ∧
      bytes after.blocks = command.packet ++ bytes stack.blocks := by
  obtain ⟨first, writesChecksum, checksum⟩ := stack.write_bytes
    [(split (checksum16 command.body)).1, (split (checksum16 command.body)).2]
  obtain ⟨second, writesData, data⟩ := first.write_bytes command.paramData
  obtain ⟨after, writesHeader, header⟩ := second.write_bytes command.header.bytes
  have sized : ¬ requiredSize command = 0 := by
    rw [requiredSize_eq small, headerSize]
    omega
  refine ⟨after, ?_, ?_⟩
  · unfold write writeToStack
    rw [if_neg sized]
    have summed := checksum_parts command
    unfold Command.header at summed
    simp only [memory_hostToNetwork, summed, writesChecksum, Option.bind_eq_bind,
      Option.bind_some, writesData]
    exact writesHeader
  · rw [header, data, checksum, Command.packet, Command.body]
    simp

end

end Encoders

/-- The three encoders produce the same bytes exactly when no block that the queue
takes from its pool for the packet still holds data. -/
theorem encoders_agree_iff (order : ByteOrder) (command : Command) (buffer : List UInt8)
    (queue : IOQueue) (stack : IOStack)
    (small : command.paramData.length ≤ maxParamDataLength)
    (large : requiredSize command ≤ buffer.length)
    (queueEmpty : queue.size = 0) (stackEmpty : stack.size = 0) :
    EncodersAgree order command buffer queue stack ↔
      ∀ block ∈ queue.taken (requiredSize command), block.empty := by
  obtain ⟨packed, packs, start, -⟩ := pack_packet small large
  obtain ⟨queueAfter, writesQueue, wrote⟩ := @write_queue command order small queue
  obtain ⟨stackAfter, writesStack, stacked⟩ := @write_stack command order small stack
  have nothing : bytes queue.blocks = [] := by
    apply List.eq_nil_of_length_eq_zero
    rw [← size_eq]
    exact queueEmpty
  have clear : bytes stack.blocks = [] := by
    apply List.eq_nil_of_length_eq_zero
    rw [← size_eq]
    exact stackEmpty
  rw [← packet_length small, ← wrote.bytes_iff, nothing, List.nil_append]
  rw [clear, List.append_nil] at stacked
  constructor
  · rintro ⟨packed', size, queueAfter', stackAfter', packs', writesQueue', -, same, -⟩
    rw [packs] at packs'
    rw [writesQueue] at writesQueue'
    cases packs'
    cases writesQueue'
    rw [IOQueue.peek, IOQueue.size, peek_size, start] at same
    exact same
  · intro same
    refine ⟨packed, _, queueAfter, stackAfter, packs, writesQueue, writesStack, ?_, ?_⟩
    · rw [IOQueue.peek, IOQueue.size, peek_size, start, same]
    · rw [IOStack.read_size, start, stacked]

/-- A queue that has never been used. -/
theorem encoders_agree_fresh :
    EncodersAgree .littleEndian exampleRequest (List.replicate 25 0) .new .new :=
  (encoders_agree_iff .littleEndian exampleRequest (List.replicate 25 0) .new .new
    (by decide) (by decide) (by decide) (by decide)).mpr (by decide)

/-- The pool of a queue that one byte was written to before it was cleared. -/
def clearedQueue : IOQueue :=
  ⟨⟨1024, [⟨1024, 0, [0xff], Nat.le_of_ble_eq_true rfl⟩], 1, Nat.le_of_ble_eq_true rfl⟩, []⟩

theorem encoders_differ_after_clear :
    (IOQueue.new.write [0xff]).map IOQueue.clear = some clearedQueue ∧ clearedQueue.size = 0 ∧
      ¬ EncodersAgree .littleEndian exampleRequest (List.replicate 25 0) clearedQueue .new := by
  have packedLength : (pack exampleRequest (List.replicate 25 0)).map
      (fun result => (result.1.take result.2).length) = some 25 := by decide
  have queueLength : (exampleRequest.write .littleEndian clearedQueue).map
      (fun after => (after.peek after.size).length) = some 26 := by decide
  refine ⟨by decide, by decide, ?_⟩
  rintro ⟨packed, size, after, -, packs, writes, -, same, -⟩
  rw [packs] at packedLength
  rw [writes] at queueLength
  simp only [Option.map_some, same] at packedLength queueLength
  rw [packedLength] at queueLength
  cases queueLength

end OpenLighting.Rdm
