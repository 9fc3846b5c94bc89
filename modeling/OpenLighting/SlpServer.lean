import Mathlib.Data.Finset.Card
import Mathlib.Data.List.Sort
import OpenLighting.FiniteMap
import OpenLighting.TransitionSystem

namespace OpenLighting.Slp

/- Scopes are canonical strings, ordered by nothing but equality here; the URLs of the
directory agents are the ordered keys of a map. -/
variable {Scope Url Entry : Type} [DecidableEq Scope] [LinearOrder Url]

def slpOk : UInt16 := 0
def daBusyNow : UInt16 := 11
def maxPrListSize : Nat := 88

structure DirectoryAgent (Scope Url : Type) where
  url : Url
  scopes : Finset Scope
  bootTime : UInt32

/-- The options that a server keeps, with the times in milliseconds. -/
structure Options (Scope : Type) where
  enableDa : Bool
  configuredScopes : Finset Scope
  configRetry : UInt32
  configRetryMax : UInt32
  configMcMax : UInt32

/-- What a `UnicastSrvRqstOperation` and a `MulicastSrvRqstOperation` have of their own. -/
inductive Kind (Url : Type) where
  | unicast (daUrl : Url) (daBusy : Bool)
  | multicast (prList : Finset UInt32) (prListChanged : Bool)

structure Operation (Scope Url : Type) where
  xid : UInt16
  retryTime : UInt32
  totalTime : UInt32
  attemptNumber : UInt8
  scopes : Finset Scope
  parent : Nat
  kind : Kind Url

def Operation.updateRetryTime (operation : Operation Scope Url) : Operation Scope Url :=
  { operation with
    attemptNumber := operation.attemptNumber + 1
    totalTime := operation.totalTime + operation.retryTime
    retryTime := operation.retryTime + operation.retryTime }

/-- `PendingSrvRqst`. `pending` has the scopes that are not marked `COMPLETE`. -/
structure PendingSrvRqst (Scope Entry : Type) where
  pending : Finset Scope
  urls : List Entry

/-- The part of a server that finds services. Calls of `FindService` and operations are
numbered in the order in which they are made. A timer and a pending reply belong to an
operation; `misused` has the operations and requests that were used after they were deleted. -/
structure Server (Scope Url Entry : Type) where
  agents : List (DirectoryAgent Scope Url)
  nextXid : UInt16
  requests : AList (fun _ : Nat => PendingSrvRqst Scope Entry)
  operations : AList (fun _ : Nat => Operation Scope Url)
  timers : Finset Nat
  pendingReplies : AList (fun _ : UInt16 => Nat)
  operationCount : Nat
  requestCount : Nat
  completed : List (Nat × List Entry)
  misused : List Nat

/-- The agent that covers the most scopes, the first of those. One that covers them all is
taken at once in the source, and is the first with the largest count. -/
def largest (scopes : Finset Scope) :
    List (DirectoryAgent Scope Url) → Option (DirectoryAgent Scope Url × Nat)
  | [] => none
  | agent :: rest =>
    let count := (agent.scopes ∩ scopes).card
    match largest scopes rest with
    | some (other, more) => if count < more then some (other, more) else some (agent, count)
    | none => if 0 < count then some (agent, count) else none

/-- The loop of `GetMinimalCoveringList`. Each round covers a scope, so that there are no more
rounds than scopes. -/
def coveringLoop (agents : List (DirectoryAgent Scope Url)) :
    Nat → Finset Scope → List (DirectoryAgent Scope Url)
  | 0, _ => []
  | rounds + 1, scopes =>
    match largest scopes agents with
    | none => []
    | some (agent, _) => agent :: coveringLoop agents rounds (scopes \ agent.scopes)

variable (state : Server Scope Url Entry) (options : Options Scope)

namespace Server

/-- A server that knows some agents, before the first call. -/
def initial (agents : List (DirectoryAgent Scope Url)) (nextXid : UInt16) :
    Server Scope Url Entry :=
  ⟨agents, nextXid, ∅, ∅, ∅, ∅, 0, 0, [], []⟩

def getMinimalCoveringList (scopes : Finset Scope) : List (DirectoryAgent Scope Url) :=
  coveringLoop state.agents scopes.card scopes

def lookupDA (url : Url) : Option (DirectoryAgent Scope Url) :=
  state.agents.find? (fun agent => agent.url = url)

def markAsBad (url : Url) : Server Scope Url Entry :=
  { state with agents := state.agents.filter (fun agent => agent.url ≠ url) }

/-- `m_pending_replies.insert`, which keeps an entry that is there. -/
def addReply (xid : UInt16) (number : Nat) : Server Scope Url Entry :=
  match state.pendingReplies.lookup xid with
  | none => { state with pendingReplies := state.pendingReplies.insert xid number }
  | some _ => state

/-- A new operation with its timer and its callback. -/
def startOperation (state : Server Scope Url Entry)
    (scopes : Finset Scope) (parent : Nat) (kind : Kind Url) : Server Scope Url Entry :=
  { state with
    nextXid := state.nextXid + 1
    operationCount := state.operationCount + 1
    operations := state.operations.insert state.operationCount
      ⟨state.nextXid, options.configRetry, 0, 1, scopes, parent, kind⟩
    timers := insert state.operationCount state.timers }.addReply state.nextXid state.operationCount

/-- The loop over the agents in `FindServiceInScopes`, with the scopes that remain. -/
def askAgents (options : Options Scope) (parent : Nat) :
    List (DirectoryAgent Scope Url) → Server Scope Url Entry → Finset Scope →
      Server Scope Url Entry × Finset Scope
  | [], state, remaining => (state, remaining)
  | agent :: rest, state, remaining =>
    let these := remaining ∩ agent.scopes
    if these = ∅ then askAgents options parent rest state remaining
    else
      askAgents options parent rest
        (state.startOperation options these parent (.unicast agent.url false))
        (remaining \ agent.scopes)

def findServiceInScopes (state : Server Scope Url Entry) (parent : Nat)
    (scopes : Finset Scope) : Server Scope Url Entry :=
  let (state, remaining) :=
    askAgents options parent (state.getMinimalCoveringList scopes) state scopes
  if remaining = ∅ then state
  else state.startOperation options remaining parent (.multicast ∅ false)

/-- `FindService`; `found` is what the local store has. -/
def findService (state : Server Scope Url Entry) (scopes : Finset Scope)
    (found : List Entry) : Server Scope Url Entry :=
  let number := state.requestCount
  let state := { state with requestCount := number + 1 }
  let scopes := if options.enableDa then scopes \ options.configuredScopes else scopes
  if options.enableDa = true ∧ scopes = ∅ then
    { state with completed := state.completed ++ [(number, found)] }
  else
    findServiceInScopes options
      { state with requests := state.requests.insert number ⟨scopes, found⟩ } number scopes

def deleteOperation (number : Nat) : Server Scope Url Entry :=
  { state with operations := state.operations.erase number }

/-- A change of the request that an operation belongs to. -/
def onRequest (parent : Nat)
    (change : PendingSrvRqst Scope Entry → PendingSrvRqst Scope Entry) : Server Scope Url Entry :=
  match state.requests.lookup parent with
  | none => { state with misused := state.misused ++ [parent] }
  | some request => { state with requests := state.requests.insert parent (change request) }

/-- `MarkScopeAsDone` for all the scopes of an operation. -/
def markScopesAsDone (operation : Operation Scope Url) : Server Scope Url Entry :=
  state.onRequest operation.parent (fun request =>
    { request with pending := request.pending \ operation.scopes })

def addUrls (parent : Nat) (urls : List Entry) : Server Scope Url Entry :=
  state.onRequest parent (fun request => { request with urls := request.urls ++ urls })

def checkIfFindSrvComplete (parent : Nat) : Server Scope Url Entry :=
  match state.requests.lookup parent with
  | none => { state with misused := state.misused ++ [parent] }
  | some request =>
    if request.pending = ∅ then
      { state with
        completed := state.completed ++ [(parent, request.urls)]
        requests := state.requests.erase parent }
    else state

def removeTimeout (number : Nat) : Server Scope Url Entry :=
  { state with timers := state.timers.erase number }

def eraseReply (xid : UInt16) : Server Scope Url Entry :=
  { state with pendingReplies := state.pendingReplies.erase xid }

/-- The operation is given up, with its agent if that is bad. -/
def abandon (number : Nat) (xid : UInt16) (bad : Option Url) : Server Scope Url Entry :=
  let state := ((state.eraseReply xid).removeTimeout number).deleteOperation number
  match bad with
  | some url => state.markAsBad url
  | none => state

def receivedDASrvReply (state : Server Scope Url Entry) (number : Nat)
    (operation : Operation Scope Url) (daUrl : Url) (errorCode : UInt16) (urls : List Entry) :
    Server Scope Url Entry :=
  if errorCode = slpOk then
    let state := state.eraseReply operation.xid
    let state := (state.addUrls operation.parent urls).markScopesAsDone operation
    ((state.checkIfFindSrvComplete operation.parent).removeTimeout number).deleteOperation number
  else if errorCode = daBusyNow then
    let state := state.eraseReply operation.xid
    { state with
      operations := state.operations.insert number { operation with kind := .unicast daUrl true } }
  else
    findServiceInScopes options (state.abandon number operation.xid (some daUrl))
      operation.parent operation.scopes

def receivedSASrvReply (number : Nat)
    (operation : Operation Scope Url) (prList : Finset UInt32) (source : UInt32)
    (errorCode : UInt16) (urls : List Entry) : Server Scope Url Entry :=
  if errorCode = slpOk then
    let state := state.addUrls operation.parent urls
    { state with
      operations := state.operations.insert number
        { operation with kind := .multicast (insert source prList) (decide (source ∉ prList)) } }
  else state

def handleServiceReply (state : Server Scope Url Entry) (xid : UInt16)
    (source : UInt32) (errorCode : UInt16) (urls : List Entry) : Server Scope Url Entry :=
  match state.pendingReplies.lookup xid with
  | none => state
  | some number =>
    match state.operations.lookup number with
    | none => { state with misused := state.misused ++ [number] }
    | some operation =>
      match operation.kind with
      | .unicast daUrl _ =>
        state.receivedDASrvReply options number operation daUrl errorCode urls
      | .multicast prList _ =>
        state.receivedSASrvReply number operation prList source errorCode urls

/-- `SendSrvRqstToDA` for an operation that is tried again. -/
def resend (number : Nat) (operation : Operation Scope Url)
    (daUrl : Url) : Server Scope Url Entry :=
  { state with
    operations := state.operations.insert number { operation with kind := .unicast daUrl false }
    timers := insert number state.timers }.addReply operation.xid number

/-- Whether the agent of an operation is still there with one of its scopes. -/
def stillServes (daUrl : Url) (scopes : Finset Scope) : Bool :=
  match state.lookupDA daUrl with
  | none => false
  | some agent => !decide (agent.scopes ∩ scopes = ∅)

def requestServiceDATimeout (state : Server Scope Url Entry)
    (number : Nat) (operation : Operation Scope Url) (daUrl : Url) : Server Scope Url Entry :=
  match state.pendingReplies.lookup operation.xid with
  | none => state.deleteOperation number
  | some _ =>
    let operation := operation.updateRetryTime
    if options.configRetryMax < operation.totalTime + operation.retryTime then
      findServiceInScopes options (state.abandon number operation.xid (some daUrl))
        operation.parent operation.scopes
    else if state.stillServes daUrl operation.scopes then state.resend number operation daUrl
    else
      findServiceInScopes options (state.abandon number operation.xid none)
        operation.parent operation.scopes

/-- The multicast operation is sent once more. With new responders it gets a new xid. -/
def repeatMulticast (number : Nat)
    (operation : Operation Scope Url) (prList : Finset UInt32) (prListChanged : Bool) :
    Server Scope Url Entry :=
  if prListChanged then
    { state.eraseReply operation.xid with
      nextXid := state.nextXid + 1
      operations := state.operations.insert number
        { operation with xid := state.nextXid, kind := .multicast prList false }
      timers := insert number state.timers }.addReply state.nextXid number
  else
    { state with
      operations := state.operations.insert number operation
      timers := insert number state.timers }

/-- A multicast operation ends without new responders, with too many, or when its time is up. -/
def multicastDone (operation : Operation Scope Url)
    (prList : Finset UInt32) (prListChanged : Bool) : Prop :=
  (prListChanged = false ∧ operation.attemptNumber ≠ 1) ∨ maxPrListSize < prList.card ∨
    options.configMcMax ≤ operation.updateRetryTime.totalTime

instance (options : Options Scope) (operation : Operation Scope Url) (prList : Finset UInt32)
    (prListChanged : Bool) : Decidable (multicastDone options operation prList prListChanged) :=
  inferInstanceAs (Decidable (_ ∨ _))

def requestServiceMulticastTimeout (state : Server Scope Url Entry)
    (number : Nat) (operation : Operation Scope Url) (prList : Finset UInt32)
    (prListChanged : Bool) : Server Scope Url Entry :=
  match state.pendingReplies.lookup operation.xid with
  | none => { state with operations := state.operations.insert number operation.updateRetryTime }
  | some _ =>
    if multicastDone options operation prList prListChanged then
      let state := (state.eraseReply operation.xid).markScopesAsDone operation
      (state.checkIfFindSrvComplete operation.parent).deleteOperation number
    else state.repeatMulticast number operation.updateRetryTime prList prListChanged

/-- The timer of an operation fires. -/
def timeout (state : Server Scope Url Entry) (number : Nat) : Server Scope Url Entry :=
  if number ∈ state.timers then
    let state := state.removeTimeout number
    match state.operations.lookup number with
    | none => { state with misused := state.misused ++ [number] }
    | some operation =>
      match operation.kind with
      | .unicast daUrl _ => state.requestServiceDATimeout options number operation daUrl
      | .multicast prList prListChanged =>
        state.requestServiceMulticastTimeout options number operation prList prListChanged
  else state

/-- `NewDAAdvert` of the tracker; `addressed` says whether the URL has an address. -/
def newDAAdvert (url : Url) (scopes : Finset Scope)
    (bootTimestamp : UInt32) (errorCode : UInt16) (addressed : Bool) : Server Scope Url Entry :=
  if errorCode ≠ 0 then state
  else if bootTimestamp = 0 then state.markAsBad url
  else
    match state.lookupDA url with
    | none =>
      if addressed then
        { state with
          agents := state.agents.orderedInsert (fun one two => one.url ≤ two.url)
            ⟨url, scopes, bootTimestamp⟩ }
      else state
    | some agent =>
      if bootTimestamp < agent.bootTime then state
      else
        { state with
          agents := state.agents.map (fun other =>
            if other.url = url then
              if agent.bootTime < bootTimestamp then { other with bootTime := bootTimestamp }
              else { other with scopes := scopes }
            else other) }

end Server

/-- What happens to the finding of services. -/
inductive Event (Scope Url Entry : Type) where
  | findService (scopes : Finset Scope) (found : List Entry)
  | serviceReply (xid : UInt16) (source : UInt32) (errorCode : UInt16) (urls : List Entry)
  | timeout (number : Nat)
  | newDAAdvert (url : Url) (scopes : Finset Scope) (bootTimestamp : UInt32) (errorCode : UInt16)
      (addressed : Bool)

def Server.step (options : Options Scope) (state : Server Scope Url Entry) :
    Event Scope Url Entry → Server Scope Url Entry
  | .findService scopes found => state.findService options scopes found
  | .serviceReply xid source errorCode urls =>
    state.handleServiceReply options xid source errorCode urls
  | .timeout number => state.timeout options number
  | .newDAAdvert url scopes bootTimestamp errorCode addressed =>
    state.newDAAdvert url scopes bootTimestamp errorCode addressed

end OpenLighting.Slp
