import OpenLighting.DmxBuffer
import OpenLighting.OperationLedger
import OpenLighting.RdmCommandSerializer
import Mathlib.Data.List.AList

/- The requests, the discovery and the DMX frames of a `DmxTriWidgetImpl`, which share one command
at a time. -/
namespace OpenLighting.DmxTri

open OpenLighting.Rdm OperationLedger TransitionSystem

/-- `TriCommandId`. `RESERVED_COMMAND_ID` stands for no command. -/
inductive TriCommandId where
  | singleTx
  | discoverAuto
  | discoverStatus
  | remoteUid
  | rawRdm
  | remoteGet
  | remoteSet
  | queuedGet
  | setFilter
  deriving DecidableEq

def TriCommandId.value : TriCommandId → UInt8
  | .singleTx => 0x21
  | .discoverAuto => 0x33
  | .discoverStatus => 0x34
  | .remoteUid => 0x35
  | .rawRdm => 0x37
  | .remoteGet => 0x38
  | .remoteSet => 0x39
  | .queuedGet => 0x3a
  | .setFilter => 0x3d

def TriCommandId.ofByte (value : UInt8) : Option TriCommandId :=
  match value.toNat with
  | 0x21 => some .singleTx
  | 0x33 => some .discoverAuto
  | 0x34 => some .discoverStatus
  | 0x35 => some .remoteUid
  | 0x37 => some .rawRdm
  | 0x38 => some .remoteGet
  | 0x39 => some .remoteSet
  | 0x3a => some .queuedGet
  | 0x3d => some .setFilter
  | _ => none

inductive TriDiscoveryState where
  | noDiscoveryAction
  | discoverAutoRequired
  | discoverStatusRequired
  | fetchUidRequired
  deriving DecidableEq

/-- `dmx_tri_error_codes`, as far as the widget tells them apart. -/
inductive ErrorCode where
  | noError
  | constraint
  | unknownCommand
  | responseTime
  | responseWait
  | responseMore
  | responseTransaction
  | responseSubDevice
  | responseFormat
  | responseChecksum
  | responseNone
  | responseIdentity
  | responseMute
  | responseDiscovery
  | responseUnexpected
  | unknownPid
  | formatError
  | hardwareFault
  | proxyReject
  | writeProtect
  | unsupportedCommandClass
  | outOfRange
  | bufferFull
  | frameOverflow
  | subDeviceUnknown
  | proxyBufferFull
  | other
  deriving DecidableEq

def ErrorCode.ofByte (code : UInt8) : ErrorCode :=
  match code.toNat with
  | 0x00 => .noError
  | 0x01 => .constraint
  | 0x02 => .unknownCommand
  | 0x10 => .responseTime
  | 0x11 => .responseWait
  | 0x12 => .responseMore
  | 0x13 => .responseTransaction
  | 0x14 => .responseSubDevice
  | 0x15 => .responseFormat
  | 0x16 => .responseChecksum
  | 0x18 => .responseNone
  | 0x1a => .responseIdentity
  | 0x1b => .responseMute
  | 0x1c => .responseDiscovery
  | 0x1d => .responseUnexpected
  | 0x20 => .unknownPid
  | 0x21 => .formatError
  | 0x22 => .hardwareFault
  | 0x23 => .proxyReject
  | 0x24 => .writeProtect
  | 0x25 => .unsupportedCommandClass
  | 0x26 => .outOfRange
  | 0x27 => .bufferFull
  | 0x28 => .frameOverflow
  | 0x29 => .subDeviceUnknown
  | 0x2a => .proxyBufferFull
  | _ => .other

def triToOlaReturnCode : ErrorCode → Option ResponseCode
  | .responseTransaction => some .transactionMismatch
  | .responseSubDevice => some .subDeviceMismatch
  | .responseFormat => some .invalidResponse
  | .responseChecksum => some .checksumIncorrect
  | .responseNone => some .timeout
  | .responseIdentity => some .srcUidMismatch
  | _ => none

def returnCodeToNackReason : ErrorCode → Option NackReason
  | .unknownPid => some .unknownPid
  | .formatError => some .formatError
  | .hardwareFault => some .hardwareFault
  | .proxyReject => some .proxyReject
  | .writeProtect => some .writeProtect
  | .unsupportedCommandClass => some .unsupportedCommandClass
  | .outOfRange => some .dataOutOfRange
  | .bufferFull => some .bufferFull
  | .frameOverflow => some .packetSizeUnsupported
  | .subDeviceUnknown => some .subDeviceOutOfRange
  | .proxyBufferFull => some .proxyBufferFull
  | _ => none

/-- An operation that is asked for. `RunFullDiscovery` is `RunIncrementalDiscovery`. -/
inductive Operation where
  | sendRDMRequest (request : Command)
  | runIncrementalDiscovery
  deriving DecidableEq

inductive Kind where
  | request
  | discovery
  deriving DecidableEq

/-- A callback: which operation it is for, and what is asked for one behind the other from here. -/
structure Callback where
  id : Nat
  next : List Operation

/-- What a callback is run with. -/
inductive Result where
  | completed (code : ResponseCode) (response : Option Command) (packets : List (List UInt8))
  | discovered (uids : UIDSet)
  deriving DecidableEq

/-- A timer that is registered with the scheduler, with the discovery it checks on. -/
structure Timer where
  id : Nat
  discovery : Nat
  deriving DecidableEq

/-- A `DmxTriWidgetImpl` with the timers and the operations it has had. `written` are the commands
that were handed to `SendMessage`; `overrun` is set once memory is used that is behind a message
or a buffer. -/
structure Widget where
  uidIndexMap : AList (fun _ : UID => UInt8)
  uidCount : UInt8
  lastEstaId : UInt16
  useRawRdm : Bool
  outgoingDmx : DmxBuffer
  discStatTimeout : Option Nat
  discoveryCallback : Option Callback
  discoveryState : TriDiscoveryState
  rdmRequestCallback : Option Callback
  pendingRdmRequest : Option Command
  transactionNumber : UInt8
  lastCommand : Option TriCommandId
  expectedCommand : Option TriCommandId
  timers : List Timer
  registered : Nat
  discovering : Nat
  written : List (List UInt8)
  issued : Nat
  trace : List (Entry Kind Result)
  overrun : Bool

def allManufacturers : UInt16 := 0xffff

variable (widget : Widget) (request : Command) (callback : Callback)

namespace Widget

def new (useRawRdm : Bool) : Widget :=
  ⟨∅, 0, allManufacturers, useRawRdm, .new, none, none, .noDiscoveryAction, none, none, 0, none,
    none, [], 0, 0, [], 0, [], false⟩

def record (entry : Entry Kind Result) : Widget :=
  { widget with trace := widget.trace ++ [entry] }

/-- A new operation. -/
def issue (kind : Kind) : Widget :=
  { widget with
    issued := widget.issued + 1
    trace := widget.trace ++ [.started widget.issued kind] }

/-- The set that `RunDiscoveryCallback` puts together. -/
def uids : UIDSet := widget.uidIndexMap.keys.toFinset

/-- Where `SendRDMRequest` runs the callback at once. -/
def refusal : Option Result :=
  if isDUBRequest request ∧ ¬ widget.useRawRdm then
    some (.completed .pluginDiscoveryNotSupported none [])
  else if widget.rdmRequestCallback.isSome then some (.completed .failedToSend none [])
  else none

/-- A request is stored. -/
def hold : Widget :=
  { widget with
    pendingRdmRequest := some request
    rdmRequestCallback := some callback }

/-- `SendRDMRequest` and `RunIncrementalDiscovery`, and whether they go on to call
`MaybeSendNextRequest`. A callback that is run at once asks for the next operation. -/
def ask (widget : Widget) : List Operation → Widget × Bool
  | [] => (widget, false)
  | .sendRDMRequest request :: next =>
    match widget.refusal request with
    | some result => ((widget.issue .request).record (.ran widget.issued result)).ask next
    | none => ((widget.issue .request).hold request ⟨widget.issued, next⟩, true)
  | .runIncrementalDiscovery :: next =>
    if widget.discoveryCallback.isSome then
      ((widget.issue .discovery).record (.ran widget.issued (.discovered widget.uids))).ask next
    else
      ({ widget.issue .discovery with
          discoveryCallback := some ⟨widget.issued, next⟩
          discoveryState := .discoverAutoRequired
          discovering := widget.issued }, true)

/-- A callback is run, and whether `MaybeSendNextRequest` is called from it. Nothing is done behind
a callback but to return, and to go on with the loop of a `MaybeSendNextRequest` that it was run
from, which has found nothing more to do then. -/
def finish (result : Result) : Widget × Bool :=
  (widget.record (.ran callback.id result)).ask callback.next

/-- `SendRDMRequest` for a callback there is already. -/
def resubmit : Widget × Bool :=
  match widget.refusal request with
  | some result => widget.finish callback result
  | none => (widget.hold request callback, true)

def handleRDMError (code : ResponseCode) : Widget × Bool :=
  let cleared := { widget with pendingRdmRequest := none, rdmRequestCallback := none }
  match widget.rdmRequestCallback with
  | some callback => cleared.finish callback (.completed code none [])
  | none => (cleared, false)

/-- The callback of the discovery is reset and run with `RunDiscoveryCallback`. -/
def completeDiscovery : Widget × Bool :=
  match widget.discoveryCallback with
  | some callback =>
    { widget with discoveryCallback := none }.finish callback (.discovered widget.uids)
  | none => (widget, false)

def stopDiscovery : Widget :=
  match widget.discStatTimeout with
  | some timeout =>
    { widget with
      timers := widget.timers.filter fun timer => timer.id ≠ timeout
      discStatTimeout := none }
  | none => widget

section Sending
variable (link : Nat → TriCommandId → Bool) (widget : Widget) (command : TriCommandId)

/-- `SendCommandToTRI`; the link tells whether the message is written. -/
def sendCommandToTRI (arguments : List UInt8) : Widget × Bool :=
  let sent := link widget.written.length command
  let widget := { widget with written := widget.written ++ [command.value :: arguments] }
  (if sent then { widget with expectedCommand := some command } else widget, sent)

/-- `SendDMXBuffer`. The two bytes in front of the frame are the options and the start code. -/
def sendDMXBuffer : Widget :=
  ({ widget with outgoingDmx := widget.outgoingDmx.reset }.sendCommandToTRI link .singleTx
    ([0, 0] ++ widget.outgoingDmx.slots)).1

variable (request : Command)

/-- The command for a request once the filter is set: that of `DispatchQueuedGet`, or that of
`DispatchRequest`; or the error where there is none. -/
def message : Except ResponseCode (TriCommandId × List UInt8) :=
  if request.paramId = pidQueuedMessage ∧ request.commandClass = .getCommand then
    match request.paramData with
    | [] => .error .failedToSend
    | first :: _ =>
      match widget.uidIndexMap.lookup request.destination with
      | none => .error .failedToSend
      | some index => .ok (.queuedGet, [index, first])
  else
    let arguments (index : UInt8) : List UInt8 :=
      [index, (split request.subDevice).1, (split request.subDevice).2, (split request.paramId).1,
        (split request.paramId).2] ++ request.paramData
    let command : Option TriCommandId :=
      match request.commandClass with
      | .getCommand => some .remoteGet
      | .setCommand => some .remoteSet
      | _ => none
    match command with
    | none => .error .failedToSend
    | some command =>
      if request.destination.isBroadcast then .ok (command, arguments 0)
      else
        match widget.uidIndexMap.lookup request.destination with
        | none => .error .unknownUid
        | some index => .ok (command, arguments index)

/-- A command is sent for the request, which fails if that does. -/
def sendForRequest (arguments : List UInt8) : Widget × Bool :=
  let (sent, done) := widget.sendCommandToTRI link command arguments
  if done then (sent, false) else sent.handleRDMError .failedToSend

/-- The parameter data is copied into an array of 231 bytes; `DispatchQueuedGet` does without. -/
def copyParamData (request : Command) : Widget :=
  { widget with
    overrun := widget.overrun || (decide (command ≠ .queuedGet) &&
      decide (maxParamDataLength < request.paramData.length)) }

def dispatchRequest : Widget × Bool :=
  match widget.message request with
  | .error code => widget.handleRDMError code
  | .ok (command, arguments) =>
    (widget.copyParamData command request).sendForRequest link command arguments

def sendRawRDMRequest : Widget × Bool :=
  let request := { request with transactionNumber := widget.transactionNumber, portId := 1 }
  let widget := { widget with pendingRdmRequest := some request }
  match pack request (List.replicate (requiredSize request) 0) with
  | none => widget.handleRDMError .failedToSend
  | some (packet, _) =>
    let (sent, done) := widget.sendCommandToTRI link .rawRdm
      ((if isDUBRequest request then 2 else 0) :: packet)
    if done then ({ sent with transactionNumber := sent.transactionNumber + 1 }, false)
    else sent.handleRDMError .failedToSend

def sendQueuedRDMCommand : Widget × Bool :=
  if ¬ request.destination.isBroadcast ∧ request.destination ∉ widget.uidIndexMap then
    widget.handleRDMError .unknownUid
  else if widget.useRawRdm then widget.sendRawRDMRequest link request
  else if request.destination.isBroadcast ∧ request.destination.estaId ≠ widget.lastEstaId then
    widget.sendForRequest link .setFilter
      [(split request.destination.estaId).1, (split request.destination.estaId).2]
  else widget.dispatchRequest link request

def sendDiscoveryStart : Widget × Bool :=
  let (sent, done) := { widget with
    discoveryState := .noDiscoveryAction }.sendCommandToTRI link .discoverAuto []
  if done then
    ({ sent with
        discStatTimeout := some sent.registered
        timers := sent.timers ++ [⟨sent.registered, sent.discovering⟩]
        registered := sent.registered + 1 }, false)
  else sent.completeDiscovery

def sendDiscoveryStat : Widget × Bool :=
  let (sent, done) := { widget with
    discoveryState := .noDiscoveryAction }.sendCommandToTRI link .discoverStatus []
  if done then (sent, false) else sent.completeDiscovery

def fetchNextUID : Widget :=
  let widget := { widget with discoveryState := .noDiscoveryAction }
  if widget.uidCount = 0 then widget
  else (widget.sendCommandToTRI link .remoteUid [widget.uidCount]).1

/-- `MaybeSendNextRequest` has nothing to send, or has to wait. -/
def resting : Bool :=
  widget.expectedCommand.isSome ||
    (widget.outgoingDmx.size == 0 && widget.pendingRdmRequest.isNone &&
      widget.discoveryState == .noDiscoveryAction)

/-- The body of the loop of `MaybeSendNextRequest`. -/
def pass : Widget :=
  if widget.expectedCommand.isSome then widget
  else if widget.outgoingDmx.size ≠ 0 ∧ widget.lastCommand ≠ some .singleTx then
    widget.sendDMXBuffer link
  else
    match widget.pendingRdmRequest with
    | some request => (widget.sendQueuedRDMCommand link request).1
    | none =>
      match widget.discoveryState with
      | .discoverAutoRequired => (widget.sendDiscoveryStart link).1
      | .discoverStatusRequired => (widget.sendDiscoveryStat link).1
      | .fetchUidRequired => widget.fetchNextUID link
      | .noDiscoveryAction =>
        if widget.outgoingDmx.size ≠ 0 then widget.sendDMXBuffer link else widget

/-- What is asked for in a callback, as far as it may keep `MaybeSendNextRequest` busy. -/
def chain (callback : Option Callback) : Nat :=
  match callback with
  | some callback => 2 * callback.next.length
  | none => 0

/-- So many passes are enough. -/
def load : Nat :=
  (if widget.outgoingDmx.size ≠ 0 then 1 else 0) +
    (if widget.pendingRdmRequest.isSome then 1 else 0) +
    (if widget.discoveryState ≠ .noDiscoveryAction then 1 else 0) +
    chain widget.rdmRequestCallback + chain widget.discoveryCallback

def maybeSendNextRequest : Widget := (pass link)^[widget.load] widget

/-- The end of a function: it calls `MaybeSendNextRequest`, or does not. -/
def settle (result : Widget × Bool) : Widget :=
  if result.2 then result.1.maybeSendNextRequest link else result.1

end Sending

section Handling
variable (widget : Widget) (returnCode : UInt8)

def handleDiscoveryAutoResponse : Widget × Bool :=
  if ErrorCode.ofByte returnCode ≠ .noError then widget.stopDiscovery.completeDiscovery
  else (widget, false)

variable (data : List UInt8)

/-- `HandleDiscoverStatResponse`. The second byte of the data is read without a check; if there is
none that is the byte behind the message. -/
def handleDiscoverStatResponse (behind : UInt8) : Widget × Bool :=
  if ErrorCode.ofByte returnCode = .noError ∨
      ErrorCode.ofByte returnCode = .responseUnexpected then
    match data with
    | [] => (widget, false)
    | count :: rest =>
      if rest.headD behind = 0 then
        let widget := { widget.stopDiscovery with uidCount := count, uidIndexMap := ∅ }
        if count ≠ 0 then ({ widget with discoveryState := .fetchUidRequired }, true)
        else widget.completeDiscovery
      else (widget, false)
  else { widget with uidIndexMap := ∅ }.stopDiscovery.completeDiscovery

def uidSize : Nat := 6

def fetched : AList (fun _ : UID => UInt8) :=
  if ErrorCode.ofByte returnCode = .noError ∧ uidSize ≤ data.length then
    widget.uidIndexMap.insert (UID.unpack data) widget.uidCount
  else widget.uidIndexMap

def handleRemoteUIDResponse : Widget × Bool :=
  if widget.uidCount = 0 then (widget, false)
  else
    let widget :=
      { widget with
        uidIndexMap := widget.fetched returnCode data
        uidCount := widget.uidCount - 1 }
    if widget.uidCount ≠ 0 then ({ widget with discoveryState := .fetchUidRequired }, true)
    else widget.completeDiscovery

def handleRawRDMResponse : Widget × Bool :=
  let cleared := { widget with pendingRdmRequest := none, rdmRequestCallback := none }
  match widget.rdmRequestCallback, widget.pendingRdmRequest with
  | some callback, some request =>
    let code := ErrorCode.ofByte returnCode
    if code = .unknownCommand then
      { cleared with useRawRdm := false }.resubmit request callback
    else if isDUBRequest request then
      if code = .responseNone then
        cleared.finish callback (.completed .timeout none [data])
      else if code = .noError ∨ code = .responseDiscovery then
        cleared.finish callback (.completed .dubResponse none [data])
      else (cleared, false)
    else if request.destination.isBroadcast then
      cleared.finish callback (.completed .wasBroadcast none [data])
    else if code = .responseNone then
      cleared.finish callback (.completed .timeout none [data])
    else
      match inflateFromData data (some request) with
      | .error _ => ({ cleared with overrun := true }, false)
      | .ok (code, response) => cleared.finish callback (.completed code response [data])
  | _, _ => (cleared, false)

/-- What `HandleGenericRDMResponse` makes of an answer. -/
def genericResponse (request : Command) (code : ErrorCode) (pid : UInt16) (data : List UInt8) :
    ResponseCode × Option Command :=
  match returnCodeToNackReason code with
  | some reason => (.completedOk, some (nackWithReason request reason.value 0))
  | none =>
  match code with
  | .noError =>
    if request.destination.isBroadcast then (.wasBroadcast, none)
    else (.completedOk, getResponseWithPid request pid data rdmAck 0)
  | .responseTime => (.completedOk, getResponseWithPid request pid data rdmAckTimer 0)
  | .responseWait => (.completedOk, getResponseWithPid request pid data rdmAck 1)
  | .responseMore => (.completedOk, getResponseWithPid request pid data ackOverflow 0)
  | code => ((triToOlaReturnCode code).getD .invalidResponse, none)

def handleGenericRDMResponse (pid : UInt16) (data : List UInt8) : Widget × Bool :=
  let cleared := { widget with pendingRdmRequest := none, rdmRequestCallback := none }
  match widget.rdmRequestCallback, widget.pendingRdmRequest with
  | some callback, some request =>
    let (code, response) := genericResponse request (ErrorCode.ofByte returnCode) pid data
    cleared.finish callback (.completed code response [])
  | _, _ => (cleared, false)

def handleRemoteRDMResponse : Widget × Bool :=
  match widget.pendingRdmRequest with
  | none => (widget, false)
  | some request => widget.handleGenericRDMResponse returnCode request.paramId data

def handleQueuedGetResponse : Widget × Bool :=
  match data with
  | high :: low :: data => widget.handleGenericRDMResponse returnCode (word (high, low)) data
  | _ => widget.handleRDMError .invalidResponse

variable (link : Nat → TriCommandId → Bool)

def handleSetFilterResponse (returnCode : UInt8) : Widget × Bool :=
  match widget.pendingRdmRequest with
  | none => (widget, false)
  | some request =>
    if ErrorCode.ofByte returnCode = .noError then
      { widget with lastEstaId := request.destination.estaId }.dispatchRequest link request
    else widget.handleRDMError .failedToSend

def extendedCommandLabel : UInt8 := 88

/-- The switch of `HandleMessage`. -/
def handleCommand (command : Option TriCommandId)
    (returnCode : UInt8) (data : List UInt8) (behind : UInt8) : Widget × Bool :=
  match command with
  | some .singleTx => (widget, true)
  | some .discoverAuto => widget.handleDiscoveryAutoResponse returnCode
  | some .discoverStatus => widget.handleDiscoverStatResponse returnCode data behind
  | some .remoteUid => widget.handleRemoteUIDResponse returnCode data
  | some .rawRdm => widget.handleRawRDMResponse returnCode data
  | some .remoteGet => widget.handleRemoteRDMResponse returnCode data
  | some .remoteSet => widget.handleRemoteRDMResponse returnCode data
  | some .queuedGet => widget.handleQueuedGetResponse returnCode data
  | some .setFilter => widget.handleSetFilterResponse link returnCode
  | none => (widget, false)

/-- `HandleMessage`. `behind` is the byte of the receive buffer that is behind the message. -/
def handleMessage (label : UInt8) (message : List UInt8) (behind : UInt8) : Widget :=
  if label = extendedCommandLabel then
    match message with
    | command :: returnCode :: data =>
      settle link ({ widget with
        lastCommand := widget.expectedCommand
        expectedCommand := none }.handleCommand link (TriCommandId.ofByte command) returnCode
          data behind)
    | _ => widget
  else widget

def sendDMX (buffer : DmxBuffer) : Widget :=
  { widget with outgoingDmx := buffer }.maybeSendNextRequest link

def checkDiscoveryStatus : Widget :=
  { widget with discoveryState := .discoverStatusRequired }.maybeSendNextRequest link

end Handling

end Widget

/-- What happens to a widget. The operations of one event are asked for by the callback of the one
before; the command that is outstanding is answered. -/
inductive Event where
  | ask (operations : List Operation)
  | sendDMX (buffer : DmxBuffer)
  | useRawRDM (useRawRdm : Bool)
  | answer (returnCode : UInt8) (data : List UInt8) (behind : UInt8)
  | tick (timer : Nat)

/-- A widget that has used memory it should not have is not followed any further. -/
def step (link : Nat → TriCommandId → Bool) (widget : Widget) (event : Event) : Widget :=
  if widget.overrun then widget
  else
    match event with
    | .ask operations => Widget.settle link (widget.ask operations)
    | .sendDMX buffer => widget.sendDMX link buffer
    | .useRawRDM useRawRdm => { widget with useRawRdm := useRawRdm }
    | .answer returnCode data behind =>
      match widget.expectedCommand with
      | some command =>
        widget.handleMessage link Widget.extendedCommandLabel
          (command.value :: returnCode :: data) behind
      | none => widget
    | .tick timer =>
      if timer ∈ widget.timers.map Timer.id then widget.checkDiscoveryStatus link else widget

end OpenLighting.DmxTri
