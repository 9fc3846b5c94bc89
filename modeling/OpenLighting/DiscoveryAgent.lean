import OpenLighting.Uid

namespace OpenLighting.DiscoveryAgent

/-- The modulus of `unsigned int`. -/
abbrev unsignedInt : Nat := 2 ^ 32

def maxDubResponseSize : Nat := 24
def minDubResponseSize : Nat := 17
def maxEmptyBranchAttempts : Nat := 5
def maxBranchFailures : Nat := 5
def maxMuteAttempts : Nat := 5

/-- A branch of the UID tree. `parent` is the position, counted from the bottom
of the stack, of the range the source's pointer refers to: a range is only
freed after everything above it, so the position names the same range for as
long as the pointer is used. The counters are `unsigned int`. -/
structure UIDRange where
  lower : UID
  upper : UID
  parent : Option Nat
  attempt : Nat
  failures : Nat
  uidsDiscovered : Nat
  branchCorrupt : Bool
  deriving DecidableEq, Repr

def UIDRange.new (lower upper : UID) (parent : Option Nat) : UIDRange :=
  ⟨lower, upper, parent, 0, 0, 0, false⟩

def UIDRange.addDiscovered (count : Nat) (range : UIDRange) : UIDRange :=
  { range with uidsDiscovered := (range.uidsDiscovered + count) % unsignedInt }

def UIDRange.addFailure (range : UIDRange) : UIDRange :=
  { range with failures := (range.failures + 1) % unsignedInt }

def UIDRange.corrupt (range : UIDRange) : UIDRange := { range with branchCorrupt := true }

/-- `SendDiscovery` counts an attempt only while nothing has been discovered. -/
def UIDRange.visit (range : UIDRange) : UIDRange :=
  if range.uidsDiscovered = 0 then
    { range with attempt := (range.attempt + 1) % unsignedInt }
  else range

/-- The limits are tested for equality. -/
def UIDRange.LimitReached (range : UIDRange) : Prop :=
  range.failures = maxBranchFailures ∨ range.attempt = maxEmptyBranchAttempts ∨
    range.branchCorrupt = true

instance (range : UIDRange) : Decidable range.LimitReached :=
  inferInstanceAs (Decidable (_ ∨ _))

/-- Update the range at a position counted from the bottom of the stack. -/
def modifyRange (position : Nat) (update : UIDRange → UIDRange) : List UIDRange → List UIDRange
  | [] => []
  | range :: rest =>
    if rest.length = position then update range :: rest
    else range :: modifyRange position update rest

/-- The members of `DiscoveryAgent`. The head of `uidRanges` is the top of the
stack, the head of `uidsToMute` the front of the queue, and `onComplete` names
the callback (`none` for NULL). -/
structure Agent where
  uids : UIDSet
  badUids : UIDSet
  onComplete : Option Nat
  uidsToMute : List UID
  uidRanges : List UIDRange
  mutingUid : UID
  muteAttempts : Nat
  treeCorrupt : Bool
  deriving DecidableEq

/-- The constructor; `m_tree_corrupt` is left uninitialised, so it can be anything. -/
def Agent.new (treeCorrupt : Bool) : Agent := ⟨∅, ∅, none, [], [], ⟨0, 0⟩, 0, treeCorrupt⟩

/-- Which of the two mute callbacks a request carries. -/
inductive MuteCallback where
  | incrementalMute
  | branchMute
  deriving DecidableEq, Repr

/-- What the agent hands to its `DiscoveryTargetInterface`. -/
inductive Request where
  | unMuteAll
  | muteDevice (target : UID) (callback : MuteCallback)
  | branch (lower upper : UID)
  deriving DecidableEq, Repr

/-- Undefined behaviour the code can run into. -/
inductive Fault where
  | emptyStack
  | nullParent
  deriving DecidableEq, Repr

/-- How a member function ends. Every call to `SendDiscovery`, to the target
and to a completion callback is the last thing its caller does, except that
`SendDiscovery` clears `m_on_complete` after the callback has returned.
`fail` runs a callback with status false and no UIDs. -/
inductive Next where
  | request (request : Request)
  | sendDiscovery
  | complete (callback : Nat) (status : Bool) (uids : UIDSet)
  | fail (callback : Nat)
  | finished
  | fault (reason : Fault)
  deriving DecidableEq

variable (agent : Agent)

def freeCurrentRange : Except Fault Agent :=
  match agent.uidRanges with
  | [] => .error .emptyStack
  | [range] =>
    .ok { agent with treeCorrupt := agent.treeCorrupt || range.branchCorrupt, uidRanges := [] }
  | range :: rest =>
    match range.parent with
    | none => .error .nullParent
    | some parent =>
      .ok { agent with
        uidRanges := modifyRange parent (UIDRange.addDiscovered range.uidsDiscovered) rest }

/-- The loop in `InitDiscovery` that frees whatever is left on the stack. -/
def freeRanges : Nat → Agent → Except Fault Agent
  | 0, agent => .ok agent
  | count + 1, agent =>
    match freeCurrentRange agent with
    | .ok agent => freeRanges count agent
    | .error reason => .error reason

def initDiscovery (callback : Nat) (incremental : Bool) : Agent × Next :=
  match agent.onComplete with
  | some _ => (agent, .fail callback)
  | none =>
    let agent := { agent with onComplete := some callback, uidsToMute := [] }
    match freeRanges agent.uidRanges.length agent with
    | .error reason => (agent, .fault reason)
    | .ok agent =>
      let agent :=
        if incremental then { agent with uidsToMute := UIDSet.ascending agent.uids }
        else { agent with uids := ∅ }
      ({ agent with
          badUids := ∅
          treeCorrupt := false
          uidRanges := UIDRange.new ⟨0, 0⟩ UID.allDevices none :: agent.uidRanges },
        .request .unMuteAll)

/-- `Abort`; the callback, if there is one, is run with no UIDs. -/
def abort : Agent × Next :=
  ({ agent with uidRanges := [], onComplete := none },
    match agent.onComplete with
    | some callback => .fail callback
    | none => .finished)

def maybeMuteNextDevice : Agent × Next :=
  match agent.uidsToMute with
  | [] => (agent, .sendDiscovery)
  | uid :: rest =>
    ({ agent with mutingUid := uid, uidsToMute := rest },
      .request (.muteDevice uid .incrementalMute))

def unMuteComplete : Agent × Next := maybeMuteNextDevice agent

def incrementalMuteComplete (status : Bool) : Agent × Next :=
  maybeMuteNextDevice
    (if status then agent else { agent with uids := agent.uids.erase agent.mutingUid })

/-- The limit branch of `SendDiscovery`: tell the parent and move on. -/
def abandonRange (range : UIDRange) (rest : List UIDRange) : Agent × Next :=
  let below :=
    match range.parent with
    | some parent => modifyRange parent UIDRange.corrupt rest
    | none => rest
  match freeCurrentRange { agent with uidRanges := range :: below } with
  | .ok agent => (agent, .sendDiscovery)
  | .error reason => (agent, .fault reason)

/-- One activation of `SendDiscovery`. -/
def sendDiscovery : Agent × Next :=
  match agent.uidRanges with
  | [] =>
    match agent.onComplete with
    | some callback => (agent, .complete callback (!agent.treeCorrupt) agent.uids)
    | none => (agent, .finished)
  | range :: rest =>
    if range.visit.LimitReached then abandonRange agent range.visit rest
    else
      ({ agent with uidRanges := range.visit :: rest },
        .request (.branch range.lower range.upper))

/-- What `SendDiscovery` does once the completion callback has returned. -/
def completeReturned : Agent := { agent with onComplete := none }

def handleCollision : Agent × Next :=
  match agent.uidRanges with
  | [] => (agent, .fault .emptyStack)
  | range :: rest =>
    if range.lower = range.upper then
      ({ agent with uidRanges := range.addFailure :: rest }, .sendDiscovery)
    else
      let mid := (range.lower.toNat + range.upper.toNat) / 2
      ({ agent with
          uidRanges :=
            UIDRange.new (UID.ofNat (mid + 1)) range.upper (some rest.length) ::
            UIDRange.new range.lower (UID.ofNat mid) (some rest.length) ::
            { range with uidsDiscovered := 0 } :: rest },
        .sendDiscovery)

/-- The UID in a DUB response, or `none` where `BranchComplete` calls
`HandleCollision`. The bytes are those after the start code. -/
def locatedUid (data : List UInt8) : Option UID :=
  if data.length < minDubResponseSize ∨ maxDubResponseSize < data.length then none
  else
    let preambleSize := data.length - minDubResponseSize
    if (data.take preambleSize).any (· ≠ 0xfe) then none
    else if data.getD preambleSize 0 ≠ 0xaa then none
    else
      let response := data.drop (preambleSize + 1)
      let pair (index : Nat) : Nat :=
        ((response.getD index 0) &&& (response.getD (index + 1) 0)).toNat
      let calculated := ((response.take 12).map UInt8.toNat).sum % 2 ^ 16
      let recovered := (pair 12 * 2 ^ 8 + pair 14) % 2 ^ 16
      if recovered ≠ calculated then none
      else
        some ⟨UInt16.ofNat (pair 0 * 2 ^ 8 + pair 2),
          UInt32.ofNat (pair 4 * 2 ^ 24 + pair 6 * 2 ^ 16 + pair 8 * 2 ^ 8 + pair 10)⟩

def branchComplete (data : List UInt8) : Agent × Next :=
  if data.length = 0 then
    match freeCurrentRange agent with
    | .ok agent => (agent, .sendDiscovery)
    | .error reason => (agent, .fault reason)
  else
    match locatedUid data with
    | none => handleCollision agent
    | some located =>
      match agent.uidRanges with
      | [] => (agent, .fault .emptyStack)
      | range :: rest =>
        if located ∈ agent.uids then
          ({ agent with uidRanges := range.addFailure :: rest }, .sendDiscovery)
        else if located ∈ agent.badUids then
          ({ agent with uidRanges := range.addFailure :: rest }, .sendDiscovery)
        else
          ({ agent with mutingUid := located, muteAttempts := 0 },
            .request (.muteDevice located .branchMute))

def branchMuteComplete (status : Bool) : Agent × Next :=
  let agent := { agent with muteAttempts := (agent.muteAttempts + 1) % unsignedInt }
  if status then
    match agent.uidRanges with
    | [] => ({ agent with uids := insert agent.mutingUid agent.uids }, .fault .emptyStack)
    | range :: rest =>
      ({ agent with
          uids := insert agent.mutingUid agent.uids
          uidRanges := range.addDiscovered 1 :: rest },
        .sendDiscovery)
  else if agent.muteAttempts < maxMuteAttempts then
    (agent, .request (.muteDevice agent.mutingUid .branchMute))
  else
    ({ agent with badUids := insert agent.mutingUid agent.badUids }, .sendDiscovery)

/-- What the target passes to a callback: a mute callback is given `status`, a
branch callback `data`, the unmute callback neither. -/
structure Reply where
  status : Bool
  data : List UInt8
  deriving DecidableEq, Repr

/-- The handler that a reply to a request is delivered to. -/
def deliver (agent : Agent) (reply : Reply) : Request → Agent × Next
  | .unMuteAll => unMuteComplete agent
  | .muteDevice _ .incrementalMute => incrementalMuteComplete agent reply.status
  | .muteDevice _ .branchMute => branchMuteComplete agent reply.status
  | .branch _ _ => branchComplete agent reply.data

end OpenLighting.DiscoveryAgent
