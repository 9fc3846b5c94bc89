import OpenLighting.ResponderOps
import OpenLighting.ResponderPersonality

/- A responder that answers some SETs later, with messages that are queued. Times are counted in
microseconds. -/
namespace OpenLighting.Rdm

def pidStatusMessages : UInt16 := 0x0030
def pidDeviceModelDescription : UInt16 := 0x0080
def pidManufacturerLabel : UInt16 := 0x0081
def pidDeviceLabel : UInt16 := 0x0082
def pidDmxPersonality : UInt16 := 0x00e0
def pidDmxPersonalityDescription : UInt16 := 0x00e1

def statusGetLastMessage : UInt8 := 1
def maxQueuedMessageCount : Nat := 255
def olaAckTimerModel : UInt16 := 6
def productCategoryTest : UInt16 := 0x7100

/-- What is to be returned to a GET of `QUEUED_MESSAGE`. -/
structure QueuedResponse where
  validAfter : Nat
  pid : UInt16
  commandClass : CommandClass
  paramData : List UInt8
  deriving DecidableEq

structure AckTimerResponder where
  uid : UID
  startAddress : UInt16
  identifyMode : Bool
  personalityManager : PersonalityManager
  queuedMessages : List QueuedResponse
  upcomingQueuedMessages : List QueuedResponse
  lastQueuedMessage : Option QueuedResponse

variable (responder : AckTimerResponder) (version : List UInt8) (request : Command) (now : Nat)

namespace AckTimerResponder

def ackTimerMs : Nat := 400

def ackTimerPersonalities : List Personality :=
  [⟨0, textBytes "Personality 1"⟩, ⟨5, textBytes "Personality 2"⟩,
    ⟨10, textBytes "Personality 3"⟩, ⟨20, textBytes "Personality 4"⟩]

def new (uid : UID) : AckTimerResponder where
  uid := uid
  startAddress := 1
  identifyMode := false
  personalityManager := ⟨ackTimerPersonalities, 1⟩
  queuedMessages := []
  upcomingQueuedMessages := []
  lastQueuedMessage := none

def footprint : UInt16 :=
  responder.personalityManager.activePersonalityFootprint

def queuedMessageCount : UInt8 :=
  let size := responder.queuedMessages.length
  if maxQueuedMessageCount < size then 255 else UInt8.ofNat size

/-- The messages that are valid move, in the order of the vector. -/
def queueAnyNewMessages : AckTimerResponder :=
  { responder with
    queuedMessages := responder.queuedMessages ++
      responder.upcomingQueuedMessages.filter fun message => message.validAfter ≤ now
    upcomingQueuedMessages :=
      responder.upcomingQueuedMessages.filter fun message => ¬ message.validAfter ≤ now }

def responseFromQueuedMessage (message : QueuedResponse) : Option Command :=
  match message.commandClass with
  | .getCommandResponse | .setCommandResponse =>
    some ⟨request.destination, request.source, request.transactionNumber, rdmAck,
      responder.queuedMessageCount, rootRdmDevice, message.commandClass, message.pid,
      message.paramData⟩
  | _ => none

def emptyStatusMessage : Option Command :=
  getResponseWithPid request pidStatusMessages [] rdmAck responder.queuedMessageCount

def getQueuedMessage : AckTimerResponder × Option Command :=
  match extractUInt8 request with
  | none => (responder, nack request .formatError responder.queuedMessageCount)
  | some statusType =>
    match responder.queuedMessages with
    | [] => (responder, responder.emptyStatusMessage request)
    | front :: rest =>
      if statusType = statusGetLastMessage then
        match responder.lastQueuedMessage with
        | some last => (responder, responder.responseFromQueuedMessage request last)
        | none => (responder, responder.emptyStatusMessage request)
      else
        let popped := { responder with queuedMessages := rest, lastQueuedMessage := some front }
        (popped, popped.responseFromQueuedMessage request front)

/-- A message about this PID becomes valid later, and the response tells how much later. -/
def ackTimer (pid : UInt16) : AckTimerResponder × Option Command :=
  let message : QueuedResponse := ⟨now + ackTimerMs * 1000, pid, .setCommandResponse, []⟩
  let queued :=
    { responder with upcomingQueuedMessages := responder.upcomingQueuedMessages ++ [message] }
  (queued, some (Rdm.respond request .setCommandResponse request.paramId
    (wordBytes (UInt16.ofNat (1 + ackTimerMs / 100))) rdmAckTimer queued.queuedMessageCount))

def setDmxStartAddress (responder : AckTimerResponder) (request : Command) :
    AckTimerResponder × Option Command :=
  match extractUInt16 request with
  | none => (responder, nack request .formatError responder.queuedMessageCount)
  | some address =>
    if address = 0 ∨ endAddress responder.footprint < address then
      (responder, nack request .dataOutOfRange responder.queuedMessageCount)
    else if responder.footprint = 0 then
      (responder, nack request .dataOutOfRange responder.queuedMessageCount)
    else ackTimer { responder with startAddress := address } request now pidDmxStartAddress

def setIdentify (responder : AckTimerResponder) (request : Command) :
    AckTimerResponder × Option Command :=
  match extractUInt8 request with
  | none => (responder, nack request .formatError responder.queuedMessageCount)
  | some arg =>
    if arg ≠ 0 ∧ arg ≠ 1 then
      (responder, nack request .dataOutOfRange responder.queuedMessageCount)
    else ackTimer { responder with identifyMode := arg = 1 } request now pidIdentifyDevice

def setPersonality (responder : AckTimerResponder) (request : Command) :
    AckTimerResponder × Option Command :=
  let (manager, response) := Rdm.setPersonality request responder.personalityManager
    responder.startAddress responder.queuedMessageCount
  ({ responder with personalityManager := manager }, response)

/-- A handler that only reads. -/
def reading (response : AckTimerResponder → Command → Option Command) :
    RDMHandler AckTimerResponder :=
  fun responder request => (responder, response responder request)

def getDeviceInfo (responder : AckTimerResponder) (request : Command) : Option Command :=
  Rdm.getDeviceInfo request olaAckTimerModel productCategoryTest 1 responder.personalityManager
    responder.startAddress 0 0 responder.queuedMessageCount

def getPersonality (responder : AckTimerResponder) (request : Command) : Option Command :=
  Rdm.getPersonality request responder.personalityManager responder.queuedMessageCount

def getPersonalityDescription (responder : AckTimerResponder) (request : Command) :
    Option Command :=
  Rdm.getPersonalityDescription request responder.personalityManager responder.queuedMessageCount

def getDmxStartAddress : Option Command :=
  getDmxAddress request responder.personalityManager responder.startAddress
    responder.queuedMessageCount

def getIdentify : Option Command :=
  getBoolValue request responder.identifyMode responder.queuedMessageCount

/-- The handlers that return a text. -/
def getText (text : List UInt8) (responder : AckTimerResponder) (request : Command) :
    Option Command :=
  getString request text responder.queuedMessageCount

def getDeviceModelDescription := getText (textBytes "OLA Ack Timer Responder")

def getManufacturerLabel := getText (textBytes "Open Lighting Project")

def getDeviceLabel := getText (textBytes "Ack Timer Responder")

/-- The version comes from the configuration of the build. -/
def getSoftwareVersionLabel := getText (textBytes "OLA Version " ++ version)

/-- `PARAM_HANDLERS`, for a build of some version, and a request that is handled at some time. -/
def paramHandlers : List (ParamHandler AckTimerResponder) :=
  [⟨pidQueuedMessage, some getQueuedMessage, none⟩,
    ⟨pidDeviceInfo, some (reading getDeviceInfo), none⟩,
    ⟨pidDeviceModelDescription, some (reading getDeviceModelDescription), none⟩,
    ⟨pidManufacturerLabel, some (reading getManufacturerLabel), none⟩,
    ⟨pidDeviceLabel, some (reading getDeviceLabel), none⟩,
    ⟨pidSoftwareVersionLabel, some (reading (getSoftwareVersionLabel version)), none⟩,
    ⟨pidDmxPersonality, some (reading getPersonality), some setPersonality⟩,
    ⟨pidDmxPersonalityDescription, some (reading getPersonalityDescription), none⟩,
    ⟨pidDmxStartAddress, some (reading getDmxStartAddress), some (setDmxStartAddress now)⟩,
    ⟨pidIdentifyDevice, some (reading getIdentify), some (setIdentify now)⟩]

def rdmOps : ResponderOps AckTimerResponder :=
  ⟨paramHandlers version now, false⟩

end AckTimerResponder

/-- A request as it comes in, with the times at which the clock is read for it: first for the
queue, and then by a handler. -/
structure Arrival where
  now : Nat
  handled : Nat
  request : Command
  inOrder : now ≤ handled
  isRequest : request.commandClass.messageType = .request

namespace AckTimerResponder

def sendRDMRequest (responder : AckTimerResponder) (arrival : Arrival) :
    AckTimerResponder × QueueingController.Reply :=
  (rdmOps version arrival.handled).handleRDMRequest (responder.queueAnyNewMessages arrival.now)
    responder.uid rootRdmDevice arrival.request

end AckTimerResponder

end OpenLighting.Rdm
