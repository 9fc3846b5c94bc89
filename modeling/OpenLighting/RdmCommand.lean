import OpenLighting.Uid

namespace OpenLighting

def UID.pack (uid : UID) : List UInt8 :=
  [UInt8.ofNat (uid.estaId.toNat / 2 ^ 8), UInt8.ofNat uid.estaId.toNat,
    UInt8.ofNat (uid.deviceId.toNat / 2 ^ 24), UInt8.ofNat (uid.deviceId.toNat / 2 ^ 16),
    UInt8.ofNat (uid.deviceId.toNat / 2 ^ 8), UInt8.ofNat uid.deviceId.toNat]

/-- The constructor `UID(const uint8_t*)`. -/
def UID.unpack (data : List UInt8) : UID :=
  let byte (index : Nat) : Nat := (data.getD index 0).toNat
  ⟨UInt16.ofNat (byte 0 * 2 ^ 8 + byte 1),
    UInt32.ofNat (byte 2 * 2 ^ 24 + byte 3 * 2 ^ 16 + byte 4 * 2 ^ 8 + byte 5)⟩

namespace Rdm

def startCode : UInt8 := 0xcc
def subStartCode : UInt8 := 0x01
def checksumLength : Nat := 2
def headerSize : Nat := 23
def ackOverflow : UInt8 := 3
def allRdmSubdevices : UInt16 := 0xffff
def pidQueuedMessage : UInt16 := 0x0020

inductive CommandClass where
  | discoverCommand
  | discoverCommandResponse
  | getCommand
  | getCommandResponse
  | setCommand
  | setCommandResponse
  | invalidCommand
  deriving DecidableEq, Repr

def CommandClass.value : CommandClass → UInt8
  | .discoverCommand => 0x10
  | .discoverCommandResponse => 0x11
  | .getCommand => 0x20
  | .getCommandResponse => 0x21
  | .setCommand => 0x30
  | .setCommandResponse => 0x31
  | .invalidCommand => 0xff

/-- `ConvertCommandClass`; `GuessMessageType` has the same table. -/
def convertCommandClass (value : UInt8) : CommandClass :=
  if value = 0x10 then .discoverCommand
  else if value = 0x11 then .discoverCommandResponse
  else if value = 0x20 then .getCommand
  else if value = 0x21 then .getCommandResponse
  else if value = 0x30 then .setCommand
  else if value = 0x31 then .setCommandResponse
  else .invalidCommand

/-- `rdm_message_type`. -/
inductive MessageType where
  | request
  | response
  | invalid
  deriving DecidableEq, Repr

def CommandClass.messageType : CommandClass → MessageType
  | .discoverCommand | .getCommand | .setCommand => .request
  | .discoverCommandResponse | .getCommandResponse | .setCommandResponse => .response
  | .invalidCommand => .invalid

inductive ResponseCode where
  | completedOk
  | wasBroadcast
  | failedToSend
  | timeout
  | invalidResponse
  | unknownUid
  | checksumIncorrect
  | transactionMismatch
  | subDeviceMismatch
  | srcUidMismatch
  | destUidMismatch
  | wrongSubStartCode
  | packetTooShort
  | packetLengthMismatch
  | paramLengthMismatch
  | invalidCommandClass
  | commandClassMismatch
  | invalidResponseType
  | pluginDiscoveryNotSupported
  | dubResponse
  deriving DecidableEq, Repr

/-- The members of `RDMCommand` and its subclasses. `portId` doubles as the
response type. -/
structure Command where
  source : UID
  destination : UID
  transactionNumber : UInt8
  portId : UInt8
  messageCount : UInt8
  subDevice : UInt16
  commandClass : CommandClass
  paramId : UInt16
  paramData : List UInt8
  deriving DecidableEq, Repr

/-- `RDMCommandHeader`; the two UIDs are six bytes each. -/
structure CommandHeader where
  subStartCode : UInt8
  messageLength : UInt8
  destinationUid : List UInt8
  sourceUid : List UInt8
  transactionNumber : UInt8
  portId : UInt8
  messageCount : UInt8
  subDevice : UInt8 × UInt8
  commandClass : UInt8
  paramId : UInt8 × UInt8
  paramDataLength : UInt8
  deriving DecidableEq, Repr

/-- The header as it lies in memory. -/
def CommandHeader.bytes (header : CommandHeader) : List UInt8 :=
  [header.subStartCode, header.messageLength] ++ header.destinationUid ++ header.sourceUid ++
    [header.transactionNumber, header.portId, header.messageCount, header.subDevice.1,
      header.subDevice.2, header.commandClass, header.paramId.1, header.paramId.2,
      header.paramDataLength]

/-- `memcpy` of the start of the data into a header. -/
def CommandHeader.ofBytes : List UInt8 → Option CommandHeader
  | start :: length :: d0 :: d1 :: d2 :: d3 :: d4 :: d5 :: s0 :: s1 :: s2 :: s3 :: s4 :: s5 ::
      transaction :: port :: count :: sub0 :: sub1 :: commandClass :: pid0 :: pid1 :: size :: _ =>
      some ⟨start, length, [d0, d1, d2, d3, d4, d5], [s0, s1, s2, s3, s4, s5], transaction, port,
        count, (sub0, sub1), commandClass, (pid0, pid1), size⟩
  | _ => none

/-- The bytes of a 16-bit field put together. -/
def word (bytes : UInt8 × UInt8) : UInt16 :=
  UInt16.ofNat (bytes.1.toNat * 2 ^ 8 + bytes.2.toNat)

/-- A read beyond the end of the data. -/
inductive Overread where
  | overread
  deriving DecidableEq, Repr

/-- `CalculateChecksum`: the sum is an `unsigned int` that is narrowed at the end. -/
def calculateChecksum (data : List UInt8) (packetLength : Nat) : Except Overread UInt16 :=
  if packetLength ≤ data.length then
    .ok ((data.take packetLength).foldl (fun sum byte => sum + byte.toUInt32)
      startCode.toUInt32).toUInt16
  else .error .overread

def readByte (data : List UInt8) (index : Nat) : Except Overread UInt8 :=
  match data[index]? with
  | some byte => .ok byte
  | none => .error .overread

/-- `VerifyData`. The lengths are `unsigned int`, so the differences wrap. -/
def verifyData (data : List UInt8) : Except Overread (Except ResponseCode CommandHeader) :=
  match CommandHeader.ofBytes data with
  | none => .ok (.error .packetTooShort)
  | some header =>
    if header.subStartCode ≠ subStartCode then .ok (.error .wrongSubStartCode)
    else if data.length < header.messageLength.toNat + 1 then
      .ok (.error .packetLengthMismatch)
    else do
      let packetLength := (header.messageLength.toNat + 2 ^ 32 - 1) % 2 ^ 32
      let checksum ← calculateChecksum data packetLength
      let high ← readByte data packetLength
      let low ← readByte data header.messageLength.toNat
      if word (high, low) ≠ checksum then .ok (.error .checksumIncorrect)
      else
        let blockSize := (data.length + 2 ^ 32 - headerSize - 2) % 2 ^ 32
        if blockSize < header.paramDataLength.toNat then .ok (.error .paramLengthMismatch)
        else .ok (.ok header)

/-- The constructors of the six command classes, called with the fields of a
header; `SetParamData` copies the parameter data out of the packet. -/
def CommandHeader.construct (header : CommandHeader) (commandClass : CommandClass)
    (transactionNumber : UInt8) (data : List UInt8) : Except Overread Command :=
  if headerSize + header.paramDataLength.toNat ≤ data.length then
    .ok ⟨UID.unpack header.sourceUid, UID.unpack header.destinationUid, transactionNumber,
      header.portId, header.messageCount, word header.subDevice, commandClass,
      word header.paramId, (data.drop headerSize).take header.paramDataLength.toNat⟩
  else .error .overread

/-- `RDMRequest::InflateFromData`; `none` is NULL. -/
def inflateRequest (data : List UInt8) : Except Overread (Option Command) := do
  match ← verifyData data with
  | .error _ => .ok none
  | .ok header =>
    match convertCommandClass header.commandClass with
    | .discoverCommand =>
      some <$> header.construct .discoverCommand header.transactionNumber data
    | .getCommand => some <$> header.construct .getCommand header.transactionNumber data
    | .setCommand => some <$> header.construct .setCommand header.transactionNumber data
    | _ => .ok none

/-- The checks of `RDMResponse::InflateFromData` against the request. -/
def matchRequest (header : CommandHeader) (request : Command) (transactionNumber : UInt8) :
    ResponseCode :=
  let commandClass := convertCommandClass header.commandClass
  if request.source ≠ UID.unpack header.destinationUid then .destUidMismatch
  else if request.destination ≠ UID.unpack header.sourceUid then .srcUidMismatch
  else if header.transactionNumber ≠ transactionNumber then .transactionMismatch
  else if word header.subDevice ≠ request.subDevice ∧ request.subDevice ≠ allRdmSubdevices ∧
      request.paramId ≠ pidQueuedMessage then .subDeviceMismatch
  else if request.commandClass = .getCommand ∧ commandClass ≠ .getCommandResponse ∧
      request.paramId ≠ pidQueuedMessage then .commandClassMismatch
  else if request.commandClass = .setCommand ∧ commandClass ≠ .setCommandResponse then
    .commandClassMismatch
  else if request.commandClass = .discoverCommand ∧ commandClass ≠ .discoverCommandResponse then
    .commandClassMismatch
  else .completedOk

/-- `RDMResponse::InflateFromData` with all five parameters. -/
def inflateResponse (data : List UInt8) (request : Option Command) (transactionNumber : UInt8) :
    Except Overread (ResponseCode × Option Command) := do
  match ← verifyData data with
  | .error code => .ok (code, none)
  | .ok header =>
    let matched :=
      match request with
      | some request => matchRequest header request transactionNumber
      | none => .completedOk
    if matched ≠ .completedOk then .ok (matched, none)
    else if ackOverflow < header.portId then .ok (.invalidResponseType, none)
    else
      let returned :=
        if request.isSome then transactionNumber else header.transactionNumber
      match convertCommandClass header.commandClass with
      | .discoverCommandResponse => do
        let command ← header.construct .discoverCommandResponse returned data
        .ok (.completedOk, some command)
      | .getCommandResponse => do
        let command ← header.construct .getCommandResponse returned data
        .ok (.completedOk, some command)
      | .setCommandResponse => do
        let command ← header.construct .setCommandResponse returned data
        .ok (.completedOk, some command)
      | _ => .ok (.invalidCommandClass, none)

/-- `RDMResponse::InflateFromData` with the transaction number of the request. -/
def inflateFromData (data : List UInt8) (request : Option Command) :
    Except Overread (ResponseCode × Option Command) :=
  match request with
  | some request => inflateResponse data (some request) request.transactionNumber
  | none => inflateResponse data none 0

/-- `RDMDiscoveryRequest::InflateFromData` and `RDMDiscoveryResponse::InflateFromData`
take one command class each. -/
def inflateDiscovery (expected : CommandClass) (data : List UInt8) :
    Except Overread (Option Command) := do
  match ← verifyData data with
  | .error _ => .ok none
  | .ok header =>
    if convertCommandClass header.commandClass = expected then
      some <$> header.construct expected header.transactionNumber data
    else .ok none

def inflateDiscoveryRequest : List UInt8 → Except Overread (Option Command) :=
  inflateDiscovery .discoverCommand

def inflateDiscoveryResponse : List UInt8 → Except Overread (Option Command) :=
  inflateDiscovery .discoverCommandResponse

/-- `GuessMessageType`; `none` where it returns false. -/
def guessMessageType (data : List UInt8) : Option (MessageType × CommandClass) :=
  match data[19]? with
  | none => none
  | some value =>
    match convertCommandClass value with
    | .invalidCommand => none
    | commandClass => some (commandClass.messageType, commandClass)

def inflate (data : List UInt8) : Except Overread (Option Command) :=
  if data.length < 21 then .ok none
  else
    match guessMessageType data with
    | none => .ok none
    | some (_, commandClass) =>
      match commandClass with
      | .getCommand | .setCommand => inflateRequest data
      | .getCommandResponse | .setCommandResponse =>
        Prod.snd <$> inflateResponse data none 0
      | .discoverCommand => inflateDiscoveryRequest data
      | .discoverCommandResponse => inflateDiscoveryResponse data
      | .invalidCommand => .ok none

def pidDiscUniqueBranch : UInt16 := 0x0001

/-- `IsDUBRequest` of the widgets. -/
def isDUBRequest (request : Command) : Bool :=
  decide (request.commandClass = .discoverCommand) && request.paramId == pidDiscUniqueBranch

/-- `rdm_response_type`. -/
def rdmAck : UInt8 := 0
def rdmAckTimer : UInt8 := 1
def nackReasonType : UInt8 := 2

/-- `rdm_nack_reason`, up to the reasons that widgets report. -/
inductive NackReason where
  | unknownPid
  | formatError
  | hardwareFault
  | proxyReject
  | writeProtect
  | unsupportedCommandClass
  | dataOutOfRange
  | bufferFull
  | packetSizeUnsupported
  | subDeviceOutOfRange
  | proxyBufferFull
  deriving DecidableEq

def NackReason.value : NackReason → UInt16
  | .unknownPid => 0x0000
  | .formatError => 0x0001
  | .hardwareFault => 0x0002
  | .proxyReject => 0x0003
  | .writeProtect => 0x0004
  | .unsupportedCommandClass => 0x0005
  | .dataOutOfRange => 0x0006
  | .bufferFull => 0x0007
  | .packetSizeUnsupported => 0x0008
  | .subDeviceOutOfRange => 0x0009
  | .proxyBufferFull => 0x000a

/-- A response to a request, which goes the other way. -/
def respond (request : Command) (commandClass : CommandClass) (pid : UInt16) (data : List UInt8)
    (type outstandingMessages : UInt8) : Command :=
  ⟨request.destination, request.source, request.transactionNumber, type, outstandingMessages,
    request.subDevice, commandClass, pid, data⟩

/-- `NackWithReason`. The reason is in network byte order. -/
def nackWithReason (request : Command) (reason : UInt16) (outstandingMessages : UInt8) : Command where
  source := request.destination
  destination := request.source
  transactionNumber := request.transactionNumber
  portId := nackReasonType
  messageCount := outstandingMessages
  subDevice := request.subDevice
  commandClass :=
    if request.commandClass = .getCommand then .getCommandResponse else .setCommandResponse
  paramId := request.paramId
  paramData := [UInt8.ofNat (reason.toNat / 2 ^ 8), UInt8.ofNat reason.toNat]

def getResponseWithPid (request : Command) (pid : UInt16) (data : List UInt8)
    (type outstandingMessages : UInt8) : Option Command :=
  match request.commandClass with
  | .getCommand => some (respond request .getCommandResponse pid data type outstandingMessages)
  | .setCommand => some (respond request .setCommandResponse pid data type outstandingMessages)
  | .discoverCommand =>
    some (respond request .discoverCommandResponse pid data type outstandingMessages)
  | _ => none

end Rdm

end OpenLighting
