import OpenLighting.RdmCommand
import OpenLighting.TransitionSystem

namespace OpenLighting.Rdm

def ackType : UInt8 := 0
def maxOverflowSize : Nat := 4096

/-- `RDMResponse::CombineResponses`; `none` is NULL. -/
def combineResponses (response1 response2 : Command) : Option Command :=
  let combined : Command :=
    { response1 with
      portId := ackType
      messageCount := response2.messageCount
      paramData := response1.paramData ++ response2.paramData }
  if maxOverflowSize < response1.paramData.length + response2.paramData.length then none
  else if response1.source ≠ response2.source then none
  else if response1.commandClass = .getCommandResponse ∧
      response2.commandClass = .getCommandResponse then some combined
  else if response1.commandClass = .setCommandResponse ∧
      response2.commandClass = .setCommandResponse then some combined
  else none

end OpenLighting.Rdm

namespace OpenLighting.QueueingController

open OpenLighting.Rdm

/-- What an `RDMCallback` is run with. -/
structure Reply where
  status : ResponseCode
  response : Option Command
  packets : List (List UInt8)
  deriving DecidableEq

/-- `outstanding_rdm_request`. The requests a controller accepts are numbered;
`onComplete` is false where the callback is NULL. -/
structure OutstandingRequest where
  ticket : Nat
  request : Command
  onComplete : Bool
  deriving DecidableEq

/-- A discovery callback. They are numbered too. -/
structure DiscoveryCallback where
  number : Nat
  null : Bool
  deriving DecidableEq

/-- Which of the two classes the controller is. -/
inductive Kind where
  | queueing
  | discoverable
  deriving DecidableEq

/-- The members of `QueueingRDMController` and of
`DiscoverableQueueingRDMController`. -/
structure Controller where
  kind : Kind
  maxQueueSize : Nat
  pendingRequests : List OutstandingRequest
  rdmRequestPending : Bool
  active : Bool
  response : Option Command
  packets : List (List UInt8)
  discoveryCallbacks : List DiscoveryCallback
  pendingDiscoveryCallbacks : List (Bool × DiscoveryCallback)

/-- The constructors. -/
def Controller.new (kind : Kind) (maxQueueSize : Nat) : Controller :=
  ⟨kind, maxQueueSize, [], false, true, none, [], [], []⟩

/-- What the underlying controller has been asked for and has not completed. A
`continuation` is a request sent again after an ACK_OVERFLOW. -/
inductive Operation where
  | request (ticket : Nat) (continuation : Bool)
  | discovery (number : Nat)
  deriving DecidableEq

/-- An activation that is inside a callback of the client. -/
inductive Frame where
  | handleRDMResponse (request : OutstandingRequest)
  | discoveryComplete (number : Nat) (uids : UIDSet) (rest : List DiscoveryCallback)
  deriving DecidableEq

/-- What is seen from outside. -/
inductive Event where
  | accepted (request : OutstandingRequest)
  | dropped
  | dispatched (ticket : Nat)
  | answered (ticket : Nat) (reply : Reply)
  | ran (ticket : Nat) (outcome : Reply)
  | registered (callback : DiscoveryCallback) (full : Bool)
  | started (number : Nat) (full : Bool) (serves : List DiscoveryCallback)
  | completed (number : Nat) (uids : UIDSet)
  | served (callback : DiscoveryCallback) (number : Nat) (uids : UIDSet)
  deriving DecidableEq

/-- A controller between its clients and the controller below. `frames` is the
stack of activations, the innermost first; `fault` is set where the behaviour is
undefined. -/
structure World extends Controller where
  outstanding : List Operation
  frames : List Frame
  log : List Event
  tickets : Nat
  callbacks : Nat
  discoveries : Nat
  fault : Bool

def World.initial (kind : Kind) (maxQueueSize : Nat) : World :=
  ⟨.new kind maxQueueSize, [], [], [], 0, 0, 0, false⟩

/-- `CheckForBlockingCondition`, with its override. -/
def Controller.checkForBlockingCondition (controller : Controller) : Bool :=
  let blocked := !controller.active || controller.rdmRequestPending
  match controller.kind with
  | .queueing => blocked
  | .discoverable => blocked || !controller.discoveryCallbacks.isEmpty

variable (world : World)

namespace World

def dispatchNextRequest (continuation : Bool) : World :=
  match world.pendingRequests with
  | [] => { world with fault := true }
  | front :: _ =>
    { world with
      outstanding := world.outstanding ++ [.request front.ticket continuation]
      log := world.log ++ [.dispatched front.ticket] }

def maybeSendRDMRequest : World :=
  if world.pendingRequests.isEmpty then world
  else dispatchNextRequest { world with rdmRequestPending := true } false

def startRDMDiscovery : World :=
  let full := world.pendingDiscoveryCallbacks.any Prod.fst
  let callbacks :=
    world.discoveryCallbacks ++ world.pendingDiscoveryCallbacks.map Prod.snd
  { world with
    discoveryCallbacks := callbacks
    pendingDiscoveryCallbacks := []
    outstanding := world.outstanding ++ [.discovery world.discoveries]
    log := world.log ++ [.started world.discoveries full callbacks]
    discoveries := world.discoveries + 1 }

/-- `TakeNextAction`, with its override. -/
def takeNextAction : World :=
  if world.checkForBlockingCondition then world
  else
    match world.kind with
    | .queueing => world.maybeSendRDMRequest
    | .discoverable =>
      if world.pendingDiscoveryCallbacks.isEmpty then world.maybeSendRDMRequest
      else world.startRDMDiscovery

/-- `SendRDMRequest`. Nothing is left to do after the callback of a request that
is dropped. -/
def sendRDMRequest (request : Command) (onComplete : Bool) : World :=
  if world.maxQueueSize ≤ world.pendingRequests.length then
    { world with log := world.log ++ [.dropped] }
  else
    let outstandingRequest : OutstandingRequest := ⟨world.tickets, request, onComplete⟩
    takeNextAction
      { world with
        pendingRequests := world.pendingRequests ++ [outstandingRequest]
        log := world.log ++ [.accepted outstandingRequest]
        tickets := world.tickets + 1 }

/-- `Pause` and `Resume`. -/
def pause : World := { world with active := false }

def resume : World := maybeSendRDMRequest { world with active := true }

/-- The end of `HandleRDMResponse`, after the callback of `request`. Where that
request is no longer in front, a nested activation has deleted it already. -/
def finishRequest (request : OutstandingRequest) : World :=
  match world.pendingRequests with
  | [] => { world with fault := true }
  | front :: rest =>
    if front.ticket = request.ticket then
      takeNextAction { world with packets := [], response := none, pendingRequests := rest }
    else { world with fault := true }

/-- What `HandleRDMResponse` makes of a reply: the status and the new
`m_response`, and whether the request is to be sent again. -/
def receive (held : Option Command) (reply : Reply) : ResponseCode × Option Command × Bool :=
  if reply.status = .completedOk then
    match reply.response with
    | none => (.invalidResponse, held, false)
    | some response =>
      let combined :=
        match held with
        | some first => combineResponses first response
        | none => some response
      match combined with
      | some whole => (.completedOk, some whole, response.portId == ackOverflow)
      | none => (.invalidResponse, none, false)
  else (reply.status, none, false)

def handleRDMResponse (world : World) (reply : Reply) : World :=
  let world := { world with rdmRequestPending := false }
  match world.pendingRequests with
  | [] => world
  | front :: _ =>
    let packets := world.packets ++ reply.packets
    let (status, response, overflow) := receive world.response reply
    let world := { world with packets := packets, response := response }
    if overflow then world.dispatchNextRequest true
    else if front.onComplete then
      { world with
        log := world.log ++ [.ran front.ticket ⟨status, response, packets⟩]
        frames := .handleRDMResponse front :: world.frames }
    else world.finishRequest front

/-- `GenericDiscovery`, which only the discoverable class has. -/
def genericDiscovery (callback full : Bool) : World :=
  match world.kind with
  | .queueing => world
  | .discoverable =>
    let discoveryCallback : DiscoveryCallback := ⟨world.callbacks, !callback⟩
    takeNextAction
      { world with
        pendingDiscoveryCallbacks :=
          world.pendingDiscoveryCallbacks ++ [(full, discoveryCallback)]
        log := world.log ++ [.registered discoveryCallback full]
        callbacks := world.callbacks + 1 }

def runFullDiscovery (callback : Bool) : World :=
  world.genericDiscovery callback true

def runIncrementalDiscovery (callback : Bool) : World :=
  world.genericDiscovery callback false

/-- The loop of `DiscoveryComplete`, up to the next callback of the client. The
vector it runs over does not change: it grows in `StartRDMDiscovery` only, which
needs it to be empty. -/
def runCallbacks (world : World) (number : Nat) (uids : UIDSet) : List DiscoveryCallback → World
  | [] => takeNextAction { world with discoveryCallbacks := [] }
  | callback :: rest =>
    if callback.null then world.runCallbacks number uids rest
    else
      { world with
        log := world.log ++ [.served callback number uids]
        frames := .discoveryComplete number uids rest :: world.frames }

def discoveryComplete (number : Nat) (uids : UIDSet) : World :=
  world.runCallbacks number uids world.discoveryCallbacks

end World

/-- The calls of the clients, the completions of the controller below, and the
return of the innermost callback. Calls that are made with frames on the stack
come from inside a callback; a completion may come from inside the call that
started the operation, since every activation ends with that call. -/
inductive Input where
  | sendRDMRequest (request : Command) (onComplete : Bool)
  | pause
  | resume
  | runFullDiscovery (callback : Bool)
  | runIncrementalDiscovery (callback : Bool)
  | answer (index : Nat) (reply : Reply)
  | discovered (index : Nat) (uids : UIDSet)
  | callbackReturns
  deriving DecidableEq

/-- What is outstanding before and after the operation that is completed. -/
theorem eraseIdx_split {α : Type*} {outstanding : List α} {index : Nat} {operation : α}
    (found : outstanding[index]? = some operation) :
    ∃ before after, outstanding = before ++ operation :: after ∧
      outstanding.eraseIdx index = before ++ after := by
  obtain ⟨bound, rfl⟩ := List.getElem?_eq_some_iff.mp found
  refine ⟨outstanding.take index, outstanding.drop (index + 1), ?_, ?_⟩
  · rw [← List.drop_eq_getElem_cons bound, List.take_append_drop]
  · exact List.eraseIdx_eq_take_drop_succ _ _

namespace World

/-- The controller below completes the request at `index`. -/
def answer (index : Nat) (reply : Reply) : World :=
  match world.outstanding[index]? with
  | some (.request ticket _) =>
    handleRDMResponse
      { world with
        outstanding := world.outstanding.eraseIdx index
        log := world.log ++ [.answered ticket reply] } reply
  | _ => world

/-- The controller below completes the discovery at `index`. -/
def discovered (index : Nat) (uids : UIDSet) : World :=
  match world.outstanding[index]? with
  | some (.discovery number) =>
    discoveryComplete
      { world with
        outstanding := world.outstanding.eraseIdx index
        log := world.log ++ [.completed number uids] } number uids
  | _ => world

def callbackReturns : World :=
  match world.frames with
  | [] => world
  | .handleRDMResponse request :: frames => finishRequest { world with frames := frames } request
  | .discoveryComplete number uids rest :: frames =>
    runCallbacks { world with frames := frames } number uids rest

def step (input : Input) : World :=
  if world.fault then world
  else
    match input with
    | .sendRDMRequest request onComplete => world.sendRDMRequest request onComplete
    | .pause => world.pause
    | .resume => world.resume
    | .runFullDiscovery callback => world.runFullDiscovery callback
    | .runIncrementalDiscovery callback => world.runIncrementalDiscovery callback
    | .answer index reply => world.answer index reply
    | .discovered index uids => world.discovered index uids
    | .callbackReturns => world.callbackReturns

end World

end OpenLighting.QueueingController
