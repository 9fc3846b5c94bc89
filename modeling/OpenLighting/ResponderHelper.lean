import OpenLighting.RdmCommandSerializer

/- What the RDM responders share: taking arguments out of requests, and the common responses. -/
namespace OpenLighting.Rdm

def textBytes (text : String) : List UInt8 := text.toUTF8.toList

/-- `HostToNetwork` for 16 bits. -/
def wordBytes (value : UInt16) : List UInt8 := [(split value).1, (split value).2]

variable (request : Command)

def extractUInt8 : Option UInt8 :=
  match request.paramData with
  | [value] => some value
  | _ => none

def extractUInt16 : Option UInt16 :=
  match request.paramData with
  | [high, low] => some (word (high, low))
  | _ => none

def getResponseFromData (data : List UInt8) (type outstandingMessages : UInt8) : Option Command :=
  getResponseWithPid request request.paramId data type outstandingMessages

/-- `NackWithReason`, for one of the reasons. -/
def nack (reason : NackReason) (outstandingMessages : UInt8) : Option Command :=
  some (nackWithReason request reason.value outstandingMessages)

def emptySetResponse (queuedMessageCount : UInt8) : Option Command :=
  some (respond request .setCommandResponse request.paramId [] rdmAck queuedMessageCount)

/-- The data that a GET without parameters asks for. -/
def getData (data : List UInt8) (queuedMessageCount : UInt8) : Option Command :=
  if request.paramData ≠ [] then nack request .formatError queuedMessageCount
  else getResponseFromData request data rdmAck queuedMessageCount

def getString (value : List UInt8) (queuedMessageCount : UInt8) : Option Command :=
  getData request value queuedMessageCount

def getBoolValue (value : Bool) (queuedMessageCount : UInt8) : Option Command :=
  getData request [if value then 1 else 0] queuedMessageCount

def getUInt16Value (value : UInt16) (queuedMessageCount : UInt8) : Option Command :=
  getData request (wordBytes value) queuedMessageCount

/-- A response of type `RDM_ACK`. -/
def Acknowledged (response : Option Command) : Prop :=
  ∃ command, response = some command ∧ command.portId = rdmAck

section Responses
variable (request : Command) (reason : NackReason) (count : UInt8)

theorem not_acknowledged_nack : ¬ Acknowledged (nack request reason count) := by
  rintro ⟨command, same, type⟩
  cases same
  have other : nackReasonType ≠ rdmAck := by decide
  exact other type

theorem acknowledged_emptySet : Acknowledged (emptySetResponse request count) := ⟨_, rfl, rfl⟩

theorem acknowledged_getResponse {request : Command} (get : request.commandClass = .getCommand)
    (data : List UInt8) : Acknowledged (getResponseFromData request data rdmAck count) := by
  unfold getResponseFromData getResponseWithPid
  rw [get]
  exact ⟨_, rfl, rfl⟩

end Responses

end OpenLighting.Rdm
