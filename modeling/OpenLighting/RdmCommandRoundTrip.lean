import OpenLighting.RdmCommandSerializer

namespace OpenLighting.Rdm

variable (command : Command)

section Verify
variable {command : Command}

theorem messageLength_toNat (small : command.paramData.length ≤ maxParamDataLength) :
    command.header.messageLength.toNat = headerSize + command.paramData.length + 1 := by
  have size := requiredSize_eq small
  unfold maxParamDataLength at small
  simp only [Command.header, populateHeader, size, UInt8.toNat_ofNat', checksumLength, headerSize]
  omega

theorem paramDataLength_toNat (small : command.paramData.length ≤ maxParamDataLength) :
    command.header.paramDataLength.toNat = command.paramData.length := by
  unfold maxParamDataLength at small
  simp only [Command.header, populateHeader, UInt8.toNat_ofNat']
  omega

theorem calculateChecksum_packet :
    calculateChecksum command.packet command.body.length = .ok (checksum16 command.body) := by
  have within : command.body.length ≤ command.packet.length := by
    rw [Command.packet, List.length_append]
    omega
  rw [calculateChecksum, if_pos within, Command.packet, List.take_left, checksum_wide]
  rfl

theorem readByte_high :
    readByte command.packet command.body.length = .ok (split (checksum16 command.body)).1 := by
  simp [readByte, Command.packet]

theorem readByte_low : readByte command.packet (command.body.length + 1) =
      .ok (split (checksum16 command.body)).2 := by
  simp [readByte, Command.packet]

theorem verifyData_packet (small : command.paramData.length ≤ maxParamDataLength) :
    verifyData command.packet = .ok (.ok command.header) := by
  have found : CommandHeader.ofBytes command.packet = some command.header := by
    exact ofBytes_append command _
  have messageLength : command.header.messageLength.toNat = command.body.length + 1 := by
    rw [messageLength_toNat small, body_length]
  have length : command.packet.length = command.body.length + 2 := by
    rw [Command.packet, List.length_append]
    rfl
  have bound : command.body.length < 2 ^ 32 := by
    unfold maxParamDataLength at small
    rw [body_length, headerSize]
    omega
  have summed : (command.body.length + 1 + 2 ^ 32 - 1) % 2 ^ 32 = command.body.length := by
    omega
  have blockSize : (command.packet.length + 2 ^ 32 - headerSize - 2) % 2 ^ 32 =
      command.paramData.length := by
    rw [length, body_length] at *
    omega
  unfold verifyData
  simp only [found, messageLength, summed, blockSize, calculateChecksum_packet, readByte_high,
    readByte_low, paramDataLength_toNat small]
  have started : ¬ command.header.subStartCode ≠ subStartCode := fun wrong => wrong rfl
  have complete : ¬ command.packet.length < command.body.length + 1 + 1 := by omega
  rw [if_neg started, if_neg complete]
  show (if word (split (checksum16 command.body)) ≠ checksum16 command.body then
      Except.ok (Except.error ResponseCode.checksumIncorrect)
    else if command.paramData.length < command.paramData.length then
      Except.ok (Except.error ResponseCode.paramLengthMismatch)
    else Except.ok (Except.ok command.header)) = _
  rw [if_neg (fun wrong => wrong (word_split _)), if_neg (Nat.lt_irrefl _)]

/-- The constructors give back the command. -/
theorem construct_packet (small : command.paramData.length ≤ maxParamDataLength) :
    command.header.construct command.commandClass command.transactionNumber command.packet =
      .ok command := by
  have data : (command.packet.drop headerSize).take command.paramData.length =
      command.paramData := by
    rw [Command.packet, Command.body, List.append_assoc, ← header_length command, List.drop_left,
      List.take_left]
  have within : headerSize + command.paramData.length ≤ command.packet.length := by
    rw [← body_length, Command.packet, List.length_append]
    exact Nat.le_add_right _ _
  rw [CommandHeader.construct, paramDataLength_toNat small, if_pos within, data]
  simp only [Command.header, populateHeader, unpack_pack, word_split]

end Verify

section Inflate
variable {command : Command}

theorem convert_header : convertCommandClass command.header.commandClass = command.commandClass :=
  convert_value command.commandClass

section

variable (small : command.paramData.length ≤ maxParamDataLength)
include small

theorem inflateRequest_packet (request : command.commandClass.messageType = .request) :
    inflateRequest command.packet = .ok (some command) := by
  have built := construct_packet small
  unfold inflateRequest
  rw [verifyData_packet small]
  simp only [bind, Except.bind, convert_header]
  cases commandClass : command.commandClass <;> rw [commandClass] at request built <;>
    first
    | (show some <$> CommandHeader.construct _ _ command.transactionNumber _ = _
       rw [built]
       rfl)
    | cases request

theorem inflateResponse_packet (response : command.commandClass.messageType = .response)
    (known : command.portId ≤ ackOverflow) :
    inflateResponse command.packet none 0 = .ok (.completedOk, some command) := by
  have built := construct_packet small
  have typed : ¬ ackOverflow < command.header.portId := UInt8.not_lt.mpr known
  unfold inflateResponse
  rw [verifyData_packet small]
  simp only [bind, Except.bind, convert_header, ne_eq, not_true_eq_false, ↓reduceIte,
    Option.isSome_none, Bool.false_eq_true, if_neg typed]
  cases commandClass : command.commandClass <;> rw [commandClass] at response built <;>
    first
    | (show Except.bind (CommandHeader.construct _ _ command.transactionNumber _) _ = _
       rw [built]
       rfl)
    | cases response

theorem inflateDiscovery_packet :
    inflateDiscovery command.commandClass command.packet = .ok (some command) := by
  unfold inflateDiscovery
  rw [verifyData_packet small]
  simp only [bind, Except.bind, convert_header, ↓reduceIte]
  show some <$> CommandHeader.construct _ _ command.transactionNumber _ = _
  rw [construct_packet small]
  rfl

end

theorem guessMessageType_packet (valid : command.commandClass ≠ .invalidCommand) :
    guessMessageType command.packet =
      some (command.commandClass.messageType, command.commandClass) := by
  have value : command.packet[19]? = some command.commandClass.value := rfl
  unfold guessMessageType
  rw [value]
  simp only [convert_value]

theorem inflate_packet (small : command.paramData.length ≤ maxParamDataLength)
    (valid : command.commandClass ≠ .invalidCommand)
    (known : command.commandClass.messageType = .response → command.portId ≤ ackOverflow) :
    inflate command.packet = .ok (some command) := by
  have long : ¬ command.packet.length < 21 := by
    rw [packet_length small, requiredSize_eq small, headerSize]
    omega
  unfold inflate
  rw [if_neg long, guessMessageType_packet valid]
  have discovery := inflateDiscovery_packet small
  cases commandClass : command.commandClass with
  | discoverCommand | discoverCommandResponse =>
    rw [commandClass] at discovery
    exact discovery
  | getCommand | setCommand =>
    apply inflateRequest_packet small
    rw [commandClass]
    rfl
  | getCommandResponse | setCommandResponse =>
    have response : command.commandClass.messageType = .response := by
      rw [commandClass]
      rfl
    rw [inflateResponse_packet small response (known response)]
    rfl
  | invalidCommand => exact absurd commandClass valid

end Inflate

/-- What `Pack` writes, `Inflate` reads back, whatever buffer it was written to. -/
theorem inflate_pack (command : Command) (buffer : List UInt8)
    (small : command.paramData.length ≤ maxParamDataLength)
    (valid : command.commandClass ≠ .invalidCommand)
    (known : command.commandClass.messageType = .response → command.portId ≤ ackOverflow)
    (large : requiredSize command ≤ buffer.length) :
    ∃ packed size, pack command buffer = some (packed, size) ∧
      size = headerSize + command.paramData.length + checksumLength ∧
      packed.length = buffer.length ∧ inflate (packed.take size) = .ok (some command) := by
  obtain ⟨packed, packs, start, length⟩ := pack_packet small large
  refine ⟨packed, _, packs, requiredSize_eq small, length, ?_⟩
  rw [start]
  exact inflate_packet small valid known

/-- A response with one byte of data. -/
def exampleResponse : Command :=
  ⟨⟨3, 10⟩, ⟨1, 2⟩, 0, 3, 0, 10, .getCommandResponse, 296, [0xa5]⟩

theorem inflate_pack_response :
    ∃ packed size, pack exampleResponse (List.replicate 26 0) = some (packed, size) ∧
      size = headerSize + exampleResponse.paramData.length + checksumLength ∧
      packed.length = 26 ∧ inflate (packed.take size) = .ok (some exampleResponse) :=
  inflate_pack exampleResponse (List.replicate 26 0) (by decide) (by decide) (by decide)
    (by decide)

end OpenLighting.Rdm
