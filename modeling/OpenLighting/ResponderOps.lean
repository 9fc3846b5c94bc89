import Mathlib.Data.List.Dedup
import OpenLighting.QueueingController
import OpenLighting.ResponderHelper
import OpenLighting.SubDeviceDispatcher

namespace OpenLighting

def UID.directedToUID (uid target : UID) : Bool :=
  uid == target ||
    (uid.isBroadcast && (uid.estaId == 0xffff || uid.estaId == target.estaId))

end OpenLighting

/- `ResponderOps` finds the handler for a request. -/
namespace OpenLighting.Rdm

open QueueingController (Reply)

def pidSupportedParameters : UInt16 := 0x0050
def pidParameterDescription : UInt16 := 0x0051
def pidDeviceInfo : UInt16 := 0x0060
def pidSoftwareVersionLabel : UInt16 := 0x00c0
def pidDmxStartAddress : UInt16 := 0x00f0
def pidIdentifyDevice : UInt16 := 0x1000

variable {σ : Type*}

/-- `RDMHandler`: what it makes of the target, and the response. -/
abbrev RDMHandler (σ : Type*) := σ → Command → σ × Option Command

/-- `ParamHandler`. Either handler may be missing. -/
structure ParamHandler (σ : Type*) where
  pid : UInt16
  getHandler : Option (RDMHandler σ)
  setHandler : Option (RDMHandler σ)

/-- A `ResponderOps` with its table, of which later entries replace earlier ones. -/
structure ResponderOps (σ : Type*) where
  paramHandlers : List (ParamHandler σ)
  includeRequiredPids : Bool

namespace ResponderOps

/-- `STLFind` in `m_handlers`, which has a placeholder for what is handled internally. -/
def find (ops : ResponderOps σ) (pid : UInt16) : Option (ParamHandler σ) :=
  match ops.paramHandlers.reverse.find? fun handler => handler.pid == pid with
  | some handler => some handler
  | none => if pid = pidSupportedParameters then some ⟨pid, none, none⟩ else none

/-- The PIDs that never appear in the supported parameters. -/
def requiredPids : List UInt16 :=
  [pidSupportedParameters, pidParameterDescription, pidDeviceInfo, pidSoftwareVersionLabel,
    pidDmxStartAddress, pidIdentifyDevice]

def params (ops : ResponderOps σ) : List UInt16 :=
  ((pidSupportedParameters :: ops.paramHandlers.map (·.pid)).dedup.filter fun pid =>
    ops.includeRequiredPids || !requiredPids.contains pid).mergeSort fun left right => left ≤ right

def handleSupportedParams (ops : ResponderOps σ) (request : Command) : Option Command :=
  if request.paramData ≠ [] then nack request .formatError 0
  else getResponseFromData request (ops.params.flatMap wordBytes) rdmAck 0

/-- The response to a request that no handler gets: it is for another sub device or for all of
them, the PID is not known, or there is no handler for its class. -/
def internalResponse (ops : ResponderOps σ) (subDevice : UInt16) (request : Command) :
    Option Command :=
  if request.subDevice ≠ subDevice ∧ request.subDevice ≠ allRdmSubdevices then
    nack request .subDeviceOutOfRange 0
  else if request.subDevice = allRdmSubdevices ∧ request.commandClass = .getCommand then
    nack request .subDeviceOutOfRange 0
  else
    match ops.find request.paramId with
    | none => nack request .unknownPid 0
    | some _ =>
      match request.commandClass with
      | .getCommand =>
        if request.paramId = pidSupportedParameters then ops.handleSupportedParams request
        else nack request .unsupportedCommandClass 0
      | .setCommand => nack request .unsupportedCommandClass 0
      | _ => none

/-- The handler that gets a request, if one does. -/
def handlerFor (ops : ResponderOps σ) (subDevice : UInt16) (request : Command) :
    Option (RDMHandler σ) :=
  if request.subDevice ≠ subDevice ∧ request.subDevice ≠ allRdmSubdevices then none
  else if request.subDevice = allRdmSubdevices ∧ request.commandClass = .getCommand then none
  else
    match ops.find request.paramId, request.commandClass with
    | some handler, .getCommand => handler.getHandler
    | some handler, .setCommand => handler.setHandler
    | _, _ => none

/-- The response that is made, also where it is deleted since the request was broadcast. -/
def respond (ops : ResponderOps σ) (target : σ) (subDevice : UInt16) (request : Command) :
    σ × Option Command :=
  match ops.handlerFor subDevice request with
  | some handler => handler target request
  | none => (target, ops.internalResponse subDevice request)

/-- What the callback is run with before any response is made: the request is not for this UID,
a discovery request, or a broadcast GET. -/
def earlyCode (targetUid : UID) (request : Command) : Option ResponseCode :=
  if request.destination.directedToUID targetUid = false then
    some (if request.destination.isBroadcast then .wasBroadcast else .timeout)
  else if request.commandClass = .discoverCommand then some .pluginDiscoveryNotSupported
  else if request.commandClass = .getCommand ∧ request.destination.isBroadcast then
    some .wasBroadcast
  else none

/-- `HandleRDMRequest`, for a callback that is not NULL. -/
def handleRDMRequest (ops : ResponderOps σ) (target : σ) (targetUid : UID) (subDevice : UInt16)
    (request : Command) : σ × Reply :=
  match earlyCode targetUid request with
  | some code => (target, ⟨code, none, []⟩)
  | none =>
    let (target, response) := ops.respond target subDevice request
    if request.destination.isBroadcast then (target, ⟨.wasBroadcast, none, []⟩)
    else (target, ⟨.completedOk, response, []⟩)

section Internal
variable {ops : ResponderOps σ} {subDevice : UInt16} {request : Command}

variable {count : UInt8} {command : Command}

theorem nack_messageCount {reason : NackReason} (made : nack request reason count = some command) :
    command.messageCount = count := by
  cases made
  rfl

theorem getResponse_messageCount {data : List UInt8} {type : UInt8}
    (made : getResponseFromData request data type count = some command) :
    command.messageCount = count := by
  unfold getResponseFromData getResponseWithPid at made
  split at made <;> cases made <;> rfl

/-- The dispatcher knows of no queue: what it responds itself tells of no messages. -/
theorem internalResponse_messageCount (made : ops.internalResponse subDevice request = some command) :
    command.messageCount = 0 := by
  unfold internalResponse at made
  split at made
  · exact nack_messageCount made
  · split at made
    · exact nack_messageCount made
    · split at made
      · exact nack_messageCount made
      · split at made
        · split at made
          · unfold handleSupportedParams at made
            split at made
            · exact nack_messageCount made
            · exact getResponse_messageCount made
          · exact nack_messageCount made
        · exact nack_messageCount made
        · cases made

theorem nack_portId {reason : NackReason} (made : nack request reason count = some command) :
    command.portId = nackReasonType := by
  cases made
  rfl

theorem internalResponse_portId (made : ops.internalResponse subDevice request = some command) :
    command.portId ≠ rdmAckTimer := by
  have nacked : nackReasonType ≠ rdmAckTimer := by decide
  have acked : rdmAck ≠ rdmAckTimer := by decide
  unfold internalResponse at made
  split at made
  · exact nack_portId made ▸ nacked
  · split at made
    · exact nack_portId made ▸ nacked
    · split at made
      · exact nack_portId made ▸ nacked
      · split at made
        · split at made
          · unfold handleSupportedParams at made
            split at made
            · exact nack_portId made ▸ nacked
            · unfold getResponseFromData getResponseWithPid at made
              split at made <;> cases made <;> exact acked
          · exact nack_portId made ▸ nacked
        · exact nack_portId made ▸ nacked
        · cases made

theorem internalResponse_isSome
    (known : request.commandClass = .getCommand ∨ request.commandClass = .setCommand) :
    ∃ command, ops.internalResponse subDevice request = some command := by
  unfold internalResponse
  split
  · exact ⟨_, rfl⟩
  · split
    · exact ⟨_, rfl⟩
    · split
      · exact ⟨_, rfl⟩
      · split
        · rename_i get
          split
          · unfold handleSupportedParams getResponseFromData getResponseWithPid
            rw [get]
            split
            · exact ⟨_, rfl⟩
            · exact ⟨_, rfl⟩
          · exact ⟨_, rfl⟩
        · exact ⟨_, rfl⟩
        · rename_i notGet notSet
          rcases known with get | set
          · exact absurd get notGet
          · exact absurd set notSet

end Internal

end ResponderOps

end OpenLighting.Rdm
