import OpenLighting.DATracker
import OpenLighting.SlpServer
import OpenLighting.SlpStore

namespace OpenLighting.Slp

open OpenLighting.Network TransitionSystem FiniteMap

/-- The times in milliseconds for which a server waits. -/
structure RetryTimes where
  configRetry : UInt32
  configRetryMax : UInt32

/-- `UnicastSrvRegOperation`, with the handler that its timer runs. -/
structure SrvRegOperation where
  number : Nat
  isRegistration : Bool
  xid : UInt16
  retryTime : UInt32
  totalTime : UInt32
  daUrl : List UInt8
  service : ServiceEntry

namespace SrvRegOperation

variable (op : SrvRegOperation)

def updateRetryTime : SrvRegOperation :=
  { op with
    totalTime := op.totalTime + op.retryTime
    retryTime := op.retryTime + op.retryTime }

/-- The seconds that `RegistrationTimeout` takes from the lifetime. -/
def elapsed : UInt16 := (op.retryTime / 1000).toUInt16

def ageLifetime (op : SrvRegOperation) : SrvRegOperation :=
  { op with service := { op.service with url := op.service.url.ageLifetime op.elapsed } }

/-- What `AgeLifetime` returns. -/
def expires : Bool := decide (op.service.url.lifetime ≤ op.elapsed)

end SrvRegOperation

/-- A `SrvReg` or a `SrvDeReg` on its way to an agent. -/
structure SrvRegMessage where
  isRegistration : Bool
  address : IPV4Address
  xid : UInt16
  scopes : ScopeSet
  service : ServiceEntry

/-- The part of a server that registers services with the agents. The operations are numbered in
the order in which they are made. A timer and a pending acknowledgement belong to an operation.
`pendingOps` is in the order of the insertions; the key of an operation is the URL of its
service. `newDATimers` has the URLs of the agents that `NewDACallback` waits for. -/
structure ServiceAgent where
  tracker : DATracker
  store : SLPStore
  nextXid : UInt16
  pendingOps : List SrvRegOperation
  pendingAcks : AList (fun _ : UInt16 => Nat)
  timers : Finset Nat
  operationCount : Nat
  newDATimers : List (List UInt8)
  sent : List SrvRegMessage

variable (state : ServiceAgent) (times : RetryTimes) (op : SrvRegOperation) (service : ServiceEntry)

namespace ServiceAgent

/-- A server that has not registered anything with an agent. -/
def initial (tracker : DATracker) (store : SLPStore) (nextXid : UInt16) : ServiceAgent :=
  ⟨tracker, store, nextXid, [], ∅, ∅, 0, [], []⟩

/-- `FreePendingDAOperation`, less the operation itself. -/
def freePendingDAOperation : ServiceAgent :=
  { state with
    timers := state.timers.erase op.number
    pendingAcks := state.pendingAcks.erase op.xid }

/-- The operations that are chosen are freed and leave the map. -/
def cancel (chosen : SrvRegOperation → Bool) : ServiceAgent :=
  { (state.pendingOps.filter chosen).foldl freePendingDAOperation state with
    pendingOps := state.pendingOps.filter (fun op => !chosen op) }

def cancelPendingDAOperationsForService (url : List UInt8) : ServiceAgent :=
  state.cancel (fun op => decide (op.service.url.url = url))

def cancelPendingDAOperationsForServiceAndDA (url daUrl : List UInt8) : ServiceAgent :=
  state.cancel (fun op => decide (op.service.url.url = url ∧ op.daUrl = daUrl))

def cancelPendingSrvAck (xid : UInt16) : ServiceAgent :=
  { state with pendingAcks := state.pendingAcks.erase xid }

/-- `AddPendingSrvAck`, which keeps an entry that is there. -/
def addPendingSrvAck (xid : UInt16) (number : Nat) : ServiceAgent :=
  match state.pendingAcks.lookup xid with
  | none => { state with pendingAcks := state.pendingAcks.insert xid number }
  | some _ => state

def send (agent : InternalDirectoryAgent) : ServiceAgent :=
  { state with
    sent := state.sent ++ [⟨op.isRegistration, agent.address, op.xid,
      agent.scopes.intersection op.service.scopes, op.service⟩] }

/-- What `RegisterWithDA` and `DeRegisterWithDA` do but for the message and the handler. -/
def startOperation (isRegistration : Bool) (service : ServiceEntry)
    (state : ServiceAgent) (agent : InternalDirectoryAgent) : ServiceAgent :=
  let op : SrvRegOperation := ⟨state.operationCount, isRegistration, state.nextXid,
    times.configRetry, 0, agent.url, service⟩
  let state :=
    { state with
      nextXid := state.nextXid + 1
      operationCount := state.operationCount + 1
      timers := insert op.number state.timers
      pendingOps := state.pendingOps ++ [op] }
  (state.send op agent).addPendingSrvAck op.xid op.number

def registerWithDA : ServiceAgent → InternalDirectoryAgent → ServiceAgent :=
  startOperation times true service

def deRegisterWithDA : ServiceAgent → InternalDirectoryAgent → ServiceAgent :=
  startOperation times false service

variable (state : ServiceAgent) (now : Int)

/-- `InternalRegisterService`. The result of `Insert` is not used. -/
def internalRegisterService (service : ServiceEntry) : ServiceAgent × SlpErrorCode :=
  match state.store.checkIfScopesMatch now service with
  | .scopeMismatch => (state, .scopeNotSupported)
  | _ =>
    let state := state.cancelPendingDAOperationsForService service.url.url
    let state := { state with store := (state.store.insert now service true).1 }
    ((state.tracker.getDAsForScopes service.scopes).foldl (registerWithDA times service) state,
      .slpOk)

def registerService (newService : ServiceEntry) : ServiceAgent × SlpErrorCode :=
  let service := { newService with isLocal := true }
  if service.url.lifetime = 0 then (state, .invalidRegistration)
  else state.internalRegisterService times now service

def deRegisterService (service : ServiceEntry) : ServiceAgent × SlpErrorCode :=
  match state.store.checkIfScopesMatch now service with
  | .scopeMismatch => (state, .scopeNotSupported)
  | .notFound => (state, .slpOk)
  | .ok =>
    let state := state.cancelPendingDAOperationsForService service.url.url
    let state :=
      (state.tracker.getDAsForScopes service.scopes).foldl (deRegisterWithDA times service) state
    ({ state with store := (state.store.remove service).1 }, .slpOk)

variable (op : SrvRegOperation)

/-- `ReceivedAck`. A busy agent is left to the timeout. -/
def receivedAck (errorCode : UInt16) : ServiceAgent :=
  if errorCode = daBusyNow then state
  else state.cancelPendingDAOperationsForServiceAndDA op.service.url.url op.daUrl

def findOperation (number : Nat) : Option SrvRegOperation :=
  state.pendingOps.find? (fun op => op.number = number)

/-- `HandleServiceAck`. The entry is erased before the callback runs. -/
def handleServiceAck (xid errorCode : UInt16) : ServiceAgent :=
  match state.pendingAcks.lookup xid with
  | none => state
  | some number =>
    let state := state.cancelPendingSrvAck xid
    match state.findOperation number with
    | none => state
    | some op => state.receivedAck op errorCode

/-- What the destructor of a `UnicastOperationDeleter` does. -/
def deleteOperation : ServiceAgent :=
  state.cancelPendingDAOperationsForServiceAndDA op.service.url.url op.daUrl

/-- A message that is sent again, with a new timer. -/
def resend (agent : InternalDirectoryAgent) : ServiceAgent :=
  { state.send op agent with
    pendingOps := state.pendingOps.map (fun other => if other.number = op.number then op else other)
    timers := insert op.number state.timers }

def registrationTimeout : ServiceAgent :=
  match state.pendingAcks.lookup op.xid with
  | none => state.deleteOperation op
  | some _ =>
    if op.expires then (state.cancelPendingSrvAck op.xid).deleteOperation op
    else
      let op := op.ageLifetime.updateRetryTime
      if times.configRetryMax < op.totalTime + op.retryTime then
        let state := { state with tracker := state.tracker.markAsBad op.daUrl }
        (state.cancelPendingSrvAck op.xid).deleteOperation op
      else
        match state.tracker.lookupDA op.daUrl with
        | none => (state.cancelPendingSrvAck op.xid).deleteOperation op
        | some agent =>
          if (agent.scopes.intersection op.service.scopes).scopes = ∅ then
            (state.cancelPendingSrvAck op.xid).deleteOperation op
          else state.resend op agent

/-- `DeRegistrationTimeout`. The lifetime and the scopes of the agent do not matter, and the time
that is left must be more than nothing. -/
def deRegistrationTimeout : ServiceAgent :=
  match state.pendingAcks.lookup op.xid with
  | none => state.deleteOperation op
  | some _ =>
    let op := op.updateRetryTime
    if times.configRetryMax ≤ op.totalTime + op.retryTime then
      let state := { state with tracker := state.tracker.markAsBad op.daUrl }
      (state.cancelPendingSrvAck op.xid).deleteOperation op
    else
      match state.tracker.lookupDA op.daUrl with
      | none => (state.cancelPendingSrvAck op.xid).deleteOperation op
      | some agent => state.resend op agent

/-- The timer of an operation runs out. -/
def timeout (number : Nat) : ServiceAgent :=
  if number ∈ state.timers then
    let state := { state with timers := state.timers.erase number }
    match state.findOperation number with
    | none => state
    | some op =>
      if op.isRegistration then state.registrationTimeout times op
      else state.deRegistrationTimeout times op
  else state

/-- An advert of an agent, and the timers that `NewDACallback` starts. -/
def daAdvert (advert : DAAdvert) : ServiceAgent :=
  let tracker := state.tracker.newDAAdvert advert
  { state with
    tracker := tracker
    newDATimers := state.newDATimers ++
      (tracker.ran.drop state.tracker.ran.length).map InternalDirectoryAgent.url }

/-- `RegisterServicesWithNewDA`. Operations that are pending are left alone. -/
def registerServicesWithNewDA (daUrl : List UInt8) : ServiceAgent :=
  match state.tracker.lookupDA daUrl with
  | none => state
  | some agent =>
    (state.store.getLocalServices now agent.scopes).foldl
      (fun state service => state.registerWithDA times service agent) state

/-- The timer of a new agent runs out. -/
def newDATimeout (daUrl : List UInt8) : ServiceAgent :=
  if daUrl ∈ state.newDATimers then
    { state with newDATimers := state.newDATimers.erase daUrl }.registerServicesWithNewDA times now
      daUrl
  else state

/-- What can happen to a server. The rest of it marks agents as bad, takes xids and calls the
store. -/
inductive Event where
  | register (now : Int) (service : ServiceEntry)
  | deRegister (now : Int) (service : ServiceEntry)
  | ack (xid errorCode : UInt16)
  | timeout (number : Nat)
  | daAdvert (advert : DAAdvert)
  | newDATimeout (now : Int) (daUrl : List UInt8)
  | markAsBad (daUrl : List UInt8)
  | takeXid
  | callStore (op : SLPStore.Op)

def step (times : RetryTimes) (state : ServiceAgent) : Event → ServiceAgent
  | .register now service => (state.registerService times now service).1
  | .deRegister now service => (state.deRegisterService times now service).1
  | .ack xid errorCode => state.handleServiceAck xid errorCode
  | .timeout number => state.timeout times number
  | .daAdvert advert => state.daAdvert advert
  | .newDATimeout now daUrl => state.newDATimeout times now daUrl
  | .markAsBad daUrl => { state with tracker := state.tracker.markAsBad daUrl }
  | .takeXid => { state with nextXid := state.nextXid + 1 }
  | .callStore op => { state with store := state.store.step op }

end ServiceAgent

end OpenLighting.Slp
