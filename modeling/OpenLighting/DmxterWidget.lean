import OpenLighting.QueueingControllerAttribution

/- The requests of a `DmxterWidgetImpl` under a `QueueingRDMController`. -/
namespace OpenLighting.Dmxter

open OpenLighting.Rdm TransitionSystem
open OpenLighting.QueueingController (Reply OutstandingRequest Complete Underway account)

/-- `response_code`. -/
inductive WidgetCode where
  | checksumError
  | framingError
  | framingError2
  | badStartcode
  | badSubStartcode
  | wrongPdl
  | badPdl
  | packetTooShort
  | packetTooLong
  | physicalLengthMismatch
  | pdlLengthMismatch
  | transactionMismatch
  | badResponseType
  | goodResponse
  | ackTimer
  | ackOverflow
  | timedOut
  | idleLevel
  | goodLevel
  | badLevel
  | broadcast
  | vendorcast
  | nack
  | nackUnknownPid
  | nackFormatError
  | nackHardwareFault
  | nackProxyReject
  | nackWriteProect
  | nackCommandClass
  | nackDataRange
  | nackBufferFull
  | nackPacketSize
  | nackSubDeviceRange
  | nackProxyQueueBufferFull
  | destUidMismatch
  | srcUidMismatch
  | subdeviceMismatch
  | commandClassMismatch
  | paramIdMismatch
  deriving DecidableEq

def WidgetCode.ofByte (code : UInt8) : Option WidgetCode :=
  match code.toNat with
  | 1 => some .checksumError
  | 2 => some .framingError
  | 3 => some .framingError2
  | 4 => some .badStartcode
  | 5 => some .badSubStartcode
  | 6 => some .wrongPdl
  | 7 => some .badPdl
  | 8 => some .packetTooShort
  | 9 => some .packetTooLong
  | 10 => some .physicalLengthMismatch
  | 11 => some .pdlLengthMismatch
  | 12 => some .transactionMismatch
  | 13 => some .badResponseType
  | 14 => some .goodResponse
  | 15 => some .ackTimer
  | 16 => some .ackOverflow
  | 17 => some .timedOut
  | 18 => some .idleLevel
  | 19 => some .goodLevel
  | 20 => some .badLevel
  | 21 => some .broadcast
  | 22 => some .vendorcast
  | 23 => some .nack
  | 24 => some .nackUnknownPid
  | 25 => some .nackFormatError
  | 26 => some .nackHardwareFault
  | 27 => some .nackProxyReject
  | 28 => some .nackWriteProect
  | 29 => some .nackCommandClass
  | 30 => some .nackDataRange
  | 31 => some .nackBufferFull
  | 32 => some .nackPacketSize
  | 33 => some .nackSubDeviceRange
  | 34 => some .nackProxyQueueBufferFull
  | 40 => some .destUidMismatch
  | 41 => some .srcUidMismatch
  | 42 => some .subdeviceMismatch
  | 43 => some .commandClassMismatch
  | 44 => some .paramIdMismatch
  | _ => none

def responseCode (code : Option WidgetCode) (waitingForDub : Bool) : ResponseCode :=
  match code with
  | some .checksumError => .checksumIncorrect
  | some .framingError | some .framingError2 | some .badStartcode => .invalidResponse
  | some .badSubStartcode => .wrongSubStartCode
  | some .wrongPdl | some .badPdl => .invalidResponse
  | some .packetTooShort => .packetTooShort
  | some .packetTooLong => .invalidResponse
  | some .physicalLengthMismatch => .packetLengthMismatch
  | some .pdlLengthMismatch => .paramLengthMismatch
  | some .transactionMismatch => .transactionMismatch
  | some .badResponseType => .invalidResponseType
  | some .goodLevel => if waitingForDub then .dubResponse else .invalidResponse
  | some .badLevel | some .broadcast | some .vendorcast => .invalidResponse
  | some .goodResponse | some .ackTimer | some .ackOverflow | some .nack | some .nackUnknownPid
  | some .nackFormatError | some .nackHardwareFault | some .nackProxyReject
  | some .nackWriteProect | some .nackCommandClass | some .nackDataRange | some .nackBufferFull
  | some .nackPacketSize | some .nackSubDeviceRange | some .nackProxyQueueBufferFull =>
    .completedOk
  | some .idleLevel | some .timedOut => .timeout
  | some .subdeviceMismatch => .subDeviceMismatch
  | some .srcUidMismatch => .srcUidMismatch
  | some .destUidMismatch => .destUidMismatch
  | some .commandClassMismatch => .commandClassMismatch
  | some .paramIdMismatch => .completedOk
  | none => .invalidResponse

def rdmRequestLabel : UInt8 := 0x80
def rdmBcastRequestLabel : UInt8 := 0x81
def discoveryBranchLabel : UInt8 := 0x83

/-- What `HandleRDMResponse` runs the callback with, where the packet is inflated for this
request. -/
def rdmReply (request : Option Command) (waitingForDub isDub : Bool) (data : List UInt8) :
    Except Overread Reply :=
  match data with
  | version :: code :: _ =>
    if version ≠ 0 then .ok ⟨.invalidResponse, none, []⟩
    else
      let packet := data.drop (if isDub then 2 else 3)
      let packets := if packet = [] then [] else [packet]
      let code := responseCode (WidgetCode.ofByte code) waitingForDub
      if code = .completedOk then
        match inflateFromData packet request with
        | .error reason => .error reason
        | .ok (_, some response) => .ok ⟨.completedOk, some response, packets⟩
        | .ok (_, none) => .ok ⟨.invalidResponse, none, packets⟩
      else .ok ⟨code, none, packets⟩
  | _ => .ok ⟨.invalidResponse, none, []⟩

def failedToSend : Reply := ⟨.failedToSend, none, []⟩
def wasBroadcast : Reply := ⟨.wasBroadcast, none, []⟩

/-- The members of `DmxterWidgetImpl` that have to do with requests. The callback is always that of
the queueing controller. -/
structure Widget where
  uid : UID
  pendingRequest : Option Command
  rdmRequestCallback : Bool
  transactionNumber : UInt8

def Widget.packed (widget : Widget) (request : Command) : Command :=
  { request with
    source := widget.uid
    transactionNumber := widget.transactionNumber
    portId := 1 }

/-- What became of a request that was handed to the widget: it was dropped because of the one
before, could not be sent, or was answered. -/
inductive Answer where
  | dropped
  | unsent
  | message (label : UInt8) (data : List UInt8)
  deriving DecidableEq

/-- A request that was handed to the widget, as it was packed, and what its callback was run
with. -/
structure Exchange where
  ticket : Nat
  request : Command
  answer : Answer
  reply : Reply

/-- The queueing controller and the widget. `calling` is set while the controller is inside
`DmxterWidgetImpl::SendRDMRequest`, `broadcasting` while the widget is inside
`HandleBroadcastRDMResponse`; `sent` is the request that the device has. -/
structure World where
  controller : QueueingController.World
  widget : Widget
  calling : Bool
  broadcasting : Bool
  sent : Option (Nat × Command)
  exchanges : List Exchange

namespace World

def new (uid : UID) (maxQueueSize : Nat) : World :=
  ⟨.initial .queueing maxQueueSize, ⟨uid, none, false, 0⟩, false, false, none, []⟩

/-- `HandleBroadcastRDMResponse` resets the callback when it gets control back. -/
def settle (world : World) : World :=
  if world.broadcasting && !world.calling && world.controller.frames.isEmpty then
    { world with
      widget := { world.widget with rdmRequestCallback := false }
      broadcasting := false }
  else world

/-- The controller goes on, with so many operations outstanding. If there are more behind that it
has called the widget. -/
def follow (world : World) (outstanding : Nat) (controller : QueueingController.World) : World :=
  { world with
    controller := controller
    calling := decide (outstanding < controller.outstanding.length) }.settle

/-- The callback is run for the operation at `index`. -/
def complete (world : World) (index : Nat) (exchange : Exchange) : World :=
  { world with exchanges := world.exchanges ++ [exchange] }.follow
    (world.controller.outstanding.length - 1)
    (world.controller.step (.answer index exchange.reply))

/-- `SendRDMRequest`; `delivered` is whether the request can be packed and sent. -/
def sendRDMRequest (world : World) (delivered : Bool) : World :=
  let last := world.controller.outstanding.length - 1
  match world.controller.pendingRequests with
  | [] => world
  | front :: _ =>
    let packed := world.widget.packed front.request
    if world.widget.rdmRequestCallback then
      world.complete last ⟨front.ticket, packed, .dropped, failedToSend⟩
    else
      let widget :=
        { world.widget with transactionNumber := world.widget.transactionNumber + 1 }
      if delivered then
        { world with
          widget :=
            { widget with
              rdmRequestCallback := true
              pendingRequest := some front.request }
          calling := false
          sent := some (front.ticket, packed) }
      else
        { world with
          widget :=
            { widget with
              rdmRequestCallback := false
              pendingRequest := none } }.complete last
          ⟨front.ticket, packed, .unsent, failedToSend⟩

/-- `HandleRDMResponse`. The request is inflated for `m_pending_request`, which has been reset. -/
def handleRDMResponse (world : World) (label : UInt8) (data : List UInt8) (isDub : Bool) : World :=
  match world.sent with
  | some (ticket, packed) =>
    let waitingForDub := (world.widget.pendingRequest.map isDUBRequest).getD false
    let widget := { world.widget with rdmRequestCallback := false, pendingRequest := none }
    match rdmReply widget.pendingRequest waitingForDub isDub data with
    | .error _ => { world with controller := { world.controller with fault := true } }
    | .ok reply =>
      { world with widget := widget, sent := none }.complete 0
        ⟨ticket, packed, .message label data, reply⟩
  | none => world

def handleBroadcastRDMResponse (world : World) (data : List UInt8) : World :=
  match world.sent with
  | some (ticket, packed) =>
    { world with broadcasting := true, sent := none }.complete 0
      ⟨ticket, packed, .message rdmBcastRequestLabel data, wasBroadcast⟩
  | none => world

/-- `HandleMessage`, as far as requests go. -/
def handleMessage (world : World) (label : UInt8) (data : List UInt8) : World :=
  if ¬ world.widget.rdmRequestCallback then world
  else if label = discoveryBranchLabel then world.handleRDMResponse label data true
  else if label = rdmRequestLabel then world.handleRDMResponse label data false
  else if label = rdmBcastRequestLabel then world.handleBroadcastRDMResponse data
  else world

/-- The event loop is in control. -/
def outside (world : World) : Bool := !world.calling && world.controller.frames.isEmpty

end World

/-- A client submits a request, from wherever it is; the widget takes the request it is called
with; a message arrives; or the callback of a client returns. -/
inductive Input where
  | sendRDMRequest (request : Command) (onComplete : Bool)
  | handed (delivered : Bool)
  | message (label : UInt8) (data : List UInt8)
  | callbackReturns
  deriving DecidableEq

/-- Nothing else happens while the controller is inside the widget, and a message is only looked at
by the event loop. -/
def step (world : World) (input : Input) : World :=
  if world.controller.fault then world
  else
    match input with
    | .handed delivered => if world.calling then world.sendRDMRequest delivered else world
    | .message label data => if world.outside then world.handleMessage label data else world
    | .sendRDMRequest request onComplete =>
      if world.calling then world
      else world.follow world.controller.outstanding.length
        (world.controller.step (.sendRDMRequest request onComplete))
    | .callbackReturns =>
      if world.calling then world
      else world.follow world.controller.outstanding.length
        (world.controller.step .callbackReturns)

/-- What a request should come to with its answer: a packet is inflated for the request it
answers. -/
def Exchange.outcome (exchange : Exchange) : Except Overread Reply :=
  match exchange.answer with
  | .dropped | .unsent => .ok failedToSend
  | .message label data =>
    if label = rdmBcastRequestLabel then .ok wasBroadcast
    else rdmReply (some exchange.request) (isDUBRequest exchange.request)
      (label == discoveryBranchLabel) data

def answers (log : List QueueingController.Event) : List (Nat × Reply) :=
  log.filterMap fun
    | .answered ticket reply => some (ticket, reply)
    | _ => none

/-- The exchanges are what the controller was answered with; each is for a request that was
accepted, handed to the widget, and answered with what its own answer comes to. -/
structure Exchanged (uid : UID) (log : List QueueingController.Event) (exchanges : List Exchange) :
    Prop where
  handed : ∀ exchange ∈ exchanges, exchange.answer ≠ .dropped
  outcome : ∀ exchange ∈ exchanges, exchange.outcome = .ok exchange.reply
  request : ∀ exchange ∈ exchanges, ∃ request transactionNumber,
    .accepted request ∈ log ∧ exchange.ticket = request.ticket ∧
      exchange.request = { request.request with
        source := uid
        transactionNumber := transactionNumber
        portId := 1 }
  own : answers log = exchanges.map fun exchange => (exchange.ticket, exchange.reply)

/-- Each request is handed to the widget, and its callback run once with what its own answers come
to. -/
structure Proper (world : World) : Prop where
  sound : world.controller.fault = false
  exchanged : Exchanged world.widget.uid world.controller.log world.exchanges
  attributed : ∀ request, .accepted request ∈ world.controller.log →
    account request.ticket world.controller.log = [] ∨ Underway world.controller.log request ∨
      Complete world.controller.log request
  complete : world.outside = true → world.widget.rdmRequestCallback = false →
    ∀ request, .accepted request ∈ world.controller.log → Complete world.controller.log request

/-- A packet that is inflated without the request is also inflated for it, and without a read
behind it. -/
def fits (request : Command) (packet : List UInt8) : Bool :=
  match inflateFromData packet none, inflateFromData packet (some request) with
  | .ok (_, none), _ => true
  | .ok (_, some _), .ok (_, some _) => true
  | _, _ => false

def goodPacket (isDub : Bool) (data : List UInt8) : Option (List UInt8) :=
  match data with
  | version :: code :: _ =>
    if version = 0 ∧ responseCode (WidgetCode.ofByte code) false = .completedOk then
      some (data.drop (if isDub then 2 else 3))
    else none
  | _ => none

/-- The inputs that are handled well: a request is submitted outside of callbacks and of
ACK_OVERFLOW rounds; a broadcast is only answered while it is alone in the queue; and the packet of
an answer that is good fits its request. -/
def Safe (world : World) : Input → Prop
  | .sendRDMRequest request onComplete =>
    world.calling = false → QueueingController.Sequential world.controller
      (.sendRDMRequest request onComplete)
  | .message label data =>
    world.outside = true → ∀ sent ∈ world.sent,
      (label = rdmBcastRequestLabel → world.controller.pendingRequests.length = 1) ∧
      (label = rdmRequestLabel ∨ label = discoveryBranchLabel →
        ∀ packet ∈ goodPacket (label == discoveryBranchLabel) data, fits sent.2 packet = true)
  | .handed _ | .callbackReturns => True

instance (world : World) : ∀ input, Decidable (Safe world input)
  | .sendRDMRequest _ _ => inferInstanceAs (Decidable (_ → QueueingController.Sequential _ _))
  | .message _ _ => inferInstanceAs (Decidable (_ → ∀ sent ∈ world.sent, (_ → _) ∧ (_ → ∀ _ ∈ _, _)))
  | .handed _ | .callbackReturns => .isTrue trivial

end OpenLighting.Dmxter
