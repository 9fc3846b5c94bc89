import OpenLighting.SlpPacketBuilder

namespace OpenLighting.Slp

open OpenLighting.Network OpenLighting.StringUtils ByteCodec

/-- The base of all packets. -/
structure SLPPacket where
  xid : UInt16
  flags : UInt16
  language : List UInt8
  deriving DecidableEq

structure ServiceRequestPacket where
  header : SLPPacket
  prList : List IPV4Address
  serviceType : List UInt8
  scopeList : List UInt8
  predicate : List UInt8
  spi : List UInt8
  deriving DecidableEq

structure ServiceReplyPacket where
  header : SLPPacket
  errorCode : UInt16
  urlEntries : List URLEntry
  deriving DecidableEq

structure ServiceRegistrationPacket where
  header : SLPPacket
  url : URLEntry
  serviceType : List UInt8
  scopeList : List UInt8
  attrList : List UInt8
  deriving DecidableEq

structure ServiceDeRegistrationPacket where
  header : SLPPacket
  url : URLEntry
  scopeList : List UInt8
  tagList : List UInt8
  deriving DecidableEq

structure ServiceAckPacket where
  header : SLPPacket
  errorCode : UInt16
  deriving DecidableEq

/-- A packet with an error may end before the boot timestamp, which is then not set. -/
structure DAAdvertPacket where
  header : SLPPacket
  errorCode : UInt16
  bootTimestamp : Option UInt32
  url : List UInt8
  scopeList : List UInt8
  attrList : List UInt8
  deriving DecidableEq

variable (input : List UInt8)

/- After a failed read nothing else is read in any of these functions, so that a reader need
not say where it stopped. -/
namespace SLPPacketParser

def extractString (unescape : Bool) : Reader (List UInt8) := do
  let length ← uint16
  let result ← take length.toNat
  pure (if unescape then slpStringUnescape result else result)

/-- `ExtractHeader`, without the checks that only log. -/
def extractHeader : Reader SLPPacket := do
  let version ← uint8
  if version ≠ slpVersion then failure
  else do
    let _ ← uint8
    let _ ← uint16
    let _ ← uint8
    let flags ← uint16
    let _ ← uint8
    let _ ← uint16
    let xid ← uint16
    let language ← extractString true
    pure ⟨xid, flags, language⟩

/-- `ExtractAuthBlock`. The size is that of the string after it is unescaped. -/
def extractAuthBlock : Reader Unit := do
  let _ ← uint16
  let blockLength ← uint16
  let _ ← uint32
  let spiString ← extractString true
  let authBlockSize : Int := blockLength.toNat - (2 + 2 + 4 + 2 + spiString.length : Nat)
  if authBlockSize < 0 then failure
  else if authBlockSize = 0 then pure ()
  else do
    let _ ← take authBlockSize.toNat
    pure ()

def extractAuthBlocks : Nat → Reader Unit
  | 0 => pure ()
  | count + 1 => do
    extractAuthBlock
    extractAuthBlocks count

def extractURLEntry : Reader URLEntry := do
  let _ ← uint8
  let lifetime ← uint16
  let url ← extractString true
  let urlAuths ← uint8
  extractAuthBlocks urlAuths.toNat
  pure ⟨url, lifetime⟩

/-- The loop over the entries, which ends where one cannot be read. -/
def extractURLEntries : Nat → List UInt8 → List URLEntry
  | 0, _ => []
  | count + 1, input =>
    match extractURLEntry input with
    | none => []
    | some (entry, rest) => entry :: extractURLEntries count rest

def convertIPAddressList (list : List UInt8) : List IPV4Address :=
  if list = [] then [] else (stringSplit list [44]).filterMap IPV4Address.fromString

def serviceRequest : Reader ServiceRequestPacket := do
  let header ← extractHeader
  let prList ← extractString true
  let serviceType ← extractString true
  let scopeList ← extractString false
  let predicate ← extractString true
  let spi ← extractString true
  pure ⟨header, convertIPAddressList prList, serviceType, scopeList, predicate, spi⟩

def unpackServiceRequest : Option ServiceRequestPacket :=
  serviceRequest.run' input

/-- The header and the error code, with which a packet may end. -/
def errorHeader : Reader (SLPPacket × UInt16) := do
  let header ← extractHeader
  let errorCode ← uint16
  pure (header, errorCode)

def unpackServiceReply : Option ServiceReplyPacket :=
  match errorHeader input with
  | none => none
  | some ((header, errorCode), rest) =>
    match uint16 rest with
    | none => if errorCode = 0 then none else some ⟨header, errorCode, []⟩
    | some (urlEntryCount, rest) =>
      some ⟨header, errorCode, extractURLEntries urlEntryCount.toNat rest⟩

def serviceRegistration : Reader ServiceRegistrationPacket := do
  let header ← extractHeader
  let url ← extractURLEntry
  let serviceType ← extractString true
  let scopeList ← extractString false
  let attrList ← extractString true
  let urlAuths ← uint8
  extractAuthBlocks urlAuths.toNat
  pure ⟨header, url, serviceType, scopeList, attrList⟩

def unpackServiceRegistration : Option ServiceRegistrationPacket :=
  serviceRegistration.run' input

def unpackServiceAck : Option ServiceAckPacket :=
  match errorHeader input with
  | none => none
  | some ((header, errorCode), _) => some ⟨header, errorCode⟩

/-- What follows the boot timestamp of a `DAAdvert`. -/
def advertBody (header : SLPPacket) (errorCode : UInt16) (bootTimestamp : UInt32) :
    Reader DAAdvertPacket := do
  let url ← extractString true
  let scopeList ← extractString false
  let attrList ← extractString true
  let _ ← extractString true
  let urlAuths ← uint8
  extractAuthBlocks urlAuths.toNat
  pure ⟨header, errorCode, some bootTimestamp, url, scopeList, attrList⟩

def unpackDAAdvert : Option DAAdvertPacket :=
  match errorHeader input with
  | none => none
  | some ((header, errorCode), rest) =>
    match uint32 rest with
    | none => if errorCode = 0 then none else some ⟨header, errorCode, none, [], [], []⟩
    | some (bootTimestamp, rest) => (advertBody header errorCode bootTimestamp).run' rest

def serviceDeRegistration : Reader ServiceDeRegistrationPacket := do
  let header ← extractHeader
  let scopeList ← extractString false
  let url ← extractURLEntry
  let tagList ← extractString true
  pure ⟨header, url, scopeList, tagList⟩

def unpackServiceDeRegistration : Option ServiceDeRegistrationPacket :=
  serviceDeRegistration.run' input

end SLPPacketParser

end OpenLighting.Slp
