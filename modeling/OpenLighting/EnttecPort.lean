import OpenLighting.DmxBuffer
import OpenLighting.RdmCommand
import OpenLighting.TransitionSystem

/- The discovery operations and requests of an `EnttecPortImpl`, and the messages of its widget. -/
namespace OpenLighting.Enttec

open OpenLighting.Rdm TransitionSystem

/-- The operations. -/
inductive Kind where
  | mute
  | unmuteAll
  | branch
  | request
  deriving DecidableEq

/-- An operation that is started, with whether its message gets to the widget, and whether a
request can be packed. -/
inductive Operation where
  | muteDevice (sends : Bool)
  | unMuteAll (sends : Bool)
  | branch (sends : Bool)
  | sendRDMRequest (request : Command) (packs sends : Bool)

/-- A callback: which operation it is for, and what is started one behind the other from here. -/
structure Callback where
  id : Nat
  next : List Operation

/-- What a callback is run with. -/
inductive Result where
  | muted (success : Bool)
  | unmuted
  | branched (response : Option (List UInt8))
  | completed (code : ResponseCode) (response : Option Command) (packets : List (List UInt8))
  deriving DecidableEq

/-- What has happened: an operation was started, a good frame or a timeout message came from the
widget, a callback was run, or the port was stopped. -/
inductive Entry where
  | started (id : Nat) (kind : Kind)
  | frame (data : List UInt8)
  | timeout
  | ran (id : Nat) (result : Result)
  | stopped
  deriving DecidableEq

structure EnttecPort where
  uid : UID
  inputBuffer : DmxBuffer
  transactionNumber : UInt8
  rdmRequestCallback : Option Callback
  pendingRequest : Option Command
  muteCallback : Option Callback
  unmuteCallback : Option Callback
  branchCallback : Option Callback
  discoveryResponse : Option (List UInt8)
  issued : Nat
  trace : List Entry

variable (port : EnttecPort)

namespace EnttecPort

def record (entry : Entry) : EnttecPort :=
  { port with trace := port.trace ++ [entry] }

/-- A new operation. -/
def issue (kind : Kind) : EnttecPort :=
  { port with
    transactionNumber := port.transactionNumber + 1
    issued := port.issued + 1
    trace := port.trace ++ [.started port.issued kind] }

/-- `DuplicateWithControllerParams`. -/
def ownRequest (request : Command) : Command :=
  { request with source := port.uid, transactionNumber := port.transactionNumber, portId := 1 }

/-- `MuteDevice`, `UnMuteAll`, `Branch` and `SendRDMRequest`. An operation that fails runs its
callback, which starts the next one. -/
def start (port : EnttecPort) : List Operation → EnttecPort
  | [] => port
  | .muteDevice sends :: next =>
    let started := port.issue .mute
    if sends then { started with muteCallback := some ⟨port.issued, next⟩ }
    else (started.record (.ran port.issued (.muted false))).start next
  | .unMuteAll sends :: next =>
    let started := port.issue .unmuteAll
    if sends then { started with unmuteCallback := some ⟨port.issued, next⟩ }
    else (started.record (.ran port.issued .unmuted)).start next
  | .branch sends :: next =>
    let started := port.issue .branch
    if sends then { started with branchCallback := some ⟨port.issued, next⟩ }
    else (started.record (.ran port.issued (.branched none))).start next
  | .sendRDMRequest request packs sends :: next =>
    let failed : Entry := .ran port.issued (.completed .failedToSend none [])
    let started := port.issue .request
    if port.rdmRequestCallback.isSome then
      ({ started with transactionNumber := port.transactionNumber }.record failed).start next
    else if ¬ packs then (started.record failed).start next
    else if sends then
      { started with
        rdmRequestCallback := some ⟨port.issued, next⟩
        pendingRequest := some (port.ownRequest request) }
    else
      ({ started with rdmRequestCallback := none, pendingRequest := none }.record failed).start
        next

/-- A callback is run. -/
def finish (callback : Callback) (result : Result) : EnttecPort :=
  (port.record (.ran callback.id result)).start callback.next

def handleRDMTimeout : EnttecPort :=
  match port.unmuteCallback with
  | some callback => { port with unmuteCallback := none }.finish callback .unmuted
  | none =>
  match port.muteCallback with
  | some callback => { port with muteCallback := none }.finish callback (.muted false)
  | none =>
  match port.branchCallback with
  | some callback =>
    let port := { port with branchCallback := none }.finish callback
      (.branched port.discoveryResponse)
    { port with discoveryResponse := none }
  | none =>
  match port.rdmRequestCallback, port.pendingRequest with
  | some callback, some request =>
    let code : ResponseCode :=
      if isDUBRequest request then .timeout
      else if request.destination.isBroadcast then .wasBroadcast
      else .timeout
    { port with rdmRequestCallback := none, pendingRequest := none }.finish callback
      (.completed code none [])
  | _, _ => port

def handleDMX (data : List UInt8) : EnttecPort :=
  match data with
  | status :: startCode :: dmx =>
    if status ≠ 0 then port
    else if startCode = 0 ∧ dmx ≠ [] then
      { port with inputBuffer := (port.inputBuffer.set (some dmx)).1 }
    else port
  | _ => port

/-- The port waits for the answer to a discovery message. -/
def waitingForDub : Bool :=
  port.branchCallback.isSome ||
    (port.rdmRequestCallback.isSome && (port.pendingRequest.map isDUBRequest).getD false)

/-- `HandleIncommingDataMessage`, or `none` where it reads behind the message. The data of an
empty message is NULL. -/
def handleIncommingDataMessage (data : List UInt8) : Option EnttecPort :=
  if ¬ port.waitingForDub ∧ 2 ≤ data.length ∧ data.getD 1 0 ≠ startCode then
    some (port.handleDMX data)
  else
    match data with
    | [] => none
    | status :: data =>
    if status ≠ 0 then some port
    else
    match port.branchCallback with
    | some _ =>
      if port.discoveryResponse.isSome then some port
      else some { port with discoveryResponse := some data }
    | none =>
    match port.muteCallback with
    | some callback => some ({ port with muteCallback := none }.finish callback (.muted true))
    | none =>
    match port.rdmRequestCallback with
    | some callback =>
      let cleared := { port with rdmRequestCallback := none, pendingRequest := none }
      if port.waitingForDub then
        some (cleared.finish callback (.completed .dubResponse none [data]))
      else
        match data with
        | [] => none
        | _ :: packet =>
          match inflateFromData packet port.pendingRequest with
          | .error _ => none
          | .ok (code, response) =>
            some (cleared.finish callback (.completed code response [packet]))
    | none => some port

/-- `Stop`, as far as the operations go: nothing is done about them. -/
def stop : EnttecPort := port

/-- A port that waits for nothing. -/
def new (uid : UID) : EnttecPort :=
  ⟨uid, DmxBuffer.new, 0, none, none, none, none, none, none, 0, []⟩

end EnttecPort

/-- What happens to a port. The operations of one event are started by the callback of the one
before. -/
inductive Event where
  | start (operations : List Operation)
  | data (message : List UInt8)
  | timeout
  | stop

def goodFrame : List UInt8 → Option (List UInt8)
  | status :: data => if status = 0 then some data else none
  | [] => none

/-- The port after an event, or `none` once it has read behind a message. -/
def step (world : Option EnttecPort) (event : Event) : Option EnttecPort := do
  let port ← world
  match event with
  | .start operations => some (port.start operations)
  | .data message =>
    match goodFrame message with
    | some data => (port.record (.frame data)).handleIncommingDataMessage message
    | none => port.handleIncommingDataMessage message
  | .timeout => some (port.record .timeout).handleRDMTimeout
  | .stop => some (port.stop.record .stopped)

/-- A callback has not been run yet. -/
def EnttecPort.waits : Bool :=
  port.muteCallback.isSome || port.unmuteCallback.isSome || port.branchCallback.isSome ||
    port.rdmRequestCallback.isSome

/-- There is one operation at a time. -/
def Alone : Option EnttecPort → Event → Prop
  | some port, .start _ => port.waits = false
  | _, _ => True

/-- What is inflated as the answer to a request, with the start code in front of it. -/
def EnttecPort.answer (message : List UInt8) : Option (List UInt8) :=
  if port.branchCallback.isNone ∧ port.muteCallback.isNone ∧ port.rdmRequestCallback.isSome ∧
      ¬ port.waitingForDub then
    (goodFrame message).filter (fun data => data.getD 0 startCode = startCode)
  else none

/-- The events that the port gets right. A message has a status, and the answer to a request a
start code behind which there is something that can be inflated; the port is not stopped while it
waits. -/
def Sound : Option EnttecPort → Event → Prop
  | some port, .data message => message ≠ [] ∧ ∀ data ∈ port.answer message,
      data ≠ [] ∧ (inflateFromData data.tail port.pendingRequest).isOk = true
  | some port, .stop => port.waits = false
  | _, _ => True

instance : ∀ world event, Decidable (Alone world event)
  | some _, .start _ => inferInstanceAs (Decidable (_ = _))
  | some _, .data _ => .isTrue trivial
  | some _, .timeout => .isTrue trivial
  | some _, .stop => .isTrue trivial
  | none, _ => .isTrue trivial

instance : ∀ world event, Decidable (Sound world event)
  | some _, .start _ => .isTrue trivial
  | some _, .data _ => inferInstanceAs (Decidable (_ ∧ ∀ data ∈ _, _ ∧ _))
  | some _, .timeout => .isTrue trivial
  | some _, .stop => inferInstanceAs (Decidable (_ = _))
  | none, _ => .isTrue trivial

end OpenLighting.Enttec
