import OpenLighting.ByteCodec
import OpenLighting.IPV4Address
import OpenLighting.SlpScopeSet

namespace OpenLighting.Slp

open OpenLighting.Network OpenLighting.StringUtils ByteCodec

/-- A URL with its lifetime in seconds. -/
structure URLEntry where
  url : List UInt8
  lifetime : UInt16
  deriving DecidableEq

structure ServiceEntry where
  url : URLEntry
  serviceType : List UInt8
  scopes : ScopeSet
  isLocal : Bool
  deriving DecidableEq

inductive FunctionId where
  | serviceRequest
  | serviceReply
  | serviceRegistration
  | serviceDeregister
  | serviceAcknowledge
  | attributeRequest
  | attributeReply
  | daAdvertisement
  | serviceTypeRequest
  | serviceTypeReply
  | saAdvertisement
  deriving DecidableEq

def FunctionId.code : FunctionId → Nat
  | .serviceRequest => 1
  | .serviceReply => 2
  | .serviceRegistration => 3
  | .serviceDeregister => 4
  | .serviceAcknowledge => 5
  | .attributeRequest => 6
  | .attributeReply => 7
  | .daAdvertisement => 8
  | .serviceTypeRequest => 9
  | .serviceTypeReply => 10
  | .saAdvertisement => 11

def slpVersion : UInt8 := 2
def slpFresh : UInt16 := 0x4000
def slpRequestMcast : UInt16 := 0x2000

def enLanguageTag : List UInt8 := [101, 110]

variable (entry : URLEntry)

namespace URLEntry

def packedSize : Nat := 6 + entry.url.length

/-- `Write`. The first byte is reserved, the last one is the number of authentication blocks. -/
def write : List UInt8 :=
  bigEndian 1 0 ++ bigEndian 2 entry.lifetime.toNat ++ bigEndian 2 entry.url.length ++ entry.url ++
    bigEndian 1 0

end URLEntry

variable (xid : UInt16) (functionId : FunctionId)

/- What each function writes to the stream. -/
namespace SLPPacketBuilder

def writeString (data : List UInt8) : List UInt8 := bigEndian 2 data.length ++ data

/-- `BuildSLPHeader`; the length is that of what follows the header. -/
def buildSLPHeader (length : Nat) (flags xid : UInt16) (language : List UInt8) : List UInt8 :=
  let length := UInt32.ofNat length + UInt32.ofNat (14 + language.length)
  bigEndian 1 slpVersion.toNat ++ bigEndian 1 functionId.code ++
    bigEndian 2 (length >>> 8).toNat ++ bigEndian 1 length.toNat ++ bigEndian 2 flags.toNat ++
    bigEndian 1 0 ++ bigEndian 2 0 ++ bigEndian 2 xid.toNat ++ writeString language

def multicastFlags (multicast : Bool) : UInt16 := if multicast then slpRequestMcast else 0

/-- `BuildServiceRequest` with any string as the list of previous responders. -/
def buildServiceRequestString (multicast : Bool)
    (language prList serviceType : List UInt8) (scopes : ScopeSet) (predicate : List UInt8) :
    List UInt8 :=
  let joinedScopes := scopes.asEscapedString
  let length := 10 + prList.length + serviceType.length + joinedScopes.length
  buildSLPHeader .serviceRequest length (multicastFlags multicast) xid language ++
    (writeString prList ++ writeString serviceType ++ writeString joinedScopes ++
      writeString predicate ++ bigEndian 2 0)

def joinAddresses (addresses : List IPV4Address) : List UInt8 :=
  stringJoin [44] (addresses.map IPV4Address.toString)

/-- `BuildServiceRequest`; the addresses are in the order of the set. -/
def buildServiceRequest (multicast : Bool) (language : List UInt8)
    (prList : List IPV4Address) (serviceType : List UInt8) (scopes : ScopeSet)
    (predicate : List UInt8) : List UInt8 :=
  buildServiceRequestString xid multicast language (joinAddresses prList) serviceType scopes
    predicate

def buildServiceReply (language : List UInt8) (errorCode : UInt16)
    (urls : List URLEntry) : List UInt8 :=
  let length := urls.foldl (fun length entry => length + entry.packedSize) 4
  buildSLPHeader .serviceReply length 0 xid language ++
    (bigEndian 2 errorCode.toNat ++ bigEndian 2 urls.length ++ urls.flatMap URLEntry.write)

def buildServiceRegistration (fresh : Bool) (scopes : ScopeSet)
    (service : ServiceEntry) : List UInt8 :=
  let joinedScopes := scopes.asEscapedString
  let length := service.url.packedSize + 2 + service.serviceType.length + 2 +
    joinedScopes.length + 3
  buildSLPHeader .serviceRegistration length (if fresh then slpFresh else 0) xid enLanguageTag ++
    (service.url.write ++ writeString service.serviceType ++ writeString joinedScopes ++
      bigEndian 2 0 ++ bigEndian 1 0)

def buildServiceDeRegistration (scopes : ScopeSet) (service : ServiceEntry) : List UInt8 :=
  let joinedScopes := scopes.asEscapedString
  let length := 2 + joinedScopes.length + service.url.packedSize + 2
  buildSLPHeader .serviceDeregister length 0 xid enLanguageTag ++
    (writeString joinedScopes ++ service.url.write ++ bigEndian 2 0)

def buildServiceAck (language : List UInt8) (errorCode : UInt16) : List UInt8 :=
  buildSLPHeader .serviceAcknowledge 2 0 xid language ++ bigEndian 2 errorCode.toNat

def buildDAAdvert (multicast : Bool) (errorCode : UInt16) (bootTimestamp : UInt32)
    (url : List UInt8) (scopes : ScopeSet) : List UInt8 :=
  let joinedScopes := scopes.asEscapedString
  let length := 8 + url.length + joinedScopes.length + 7
  buildSLPHeader .daAdvertisement length (multicastFlags multicast) xid enLanguageTag ++
    (bigEndian 2 (if multicast then 0 else errorCode).toNat ++ bigEndian 4 bootTimestamp.toNat ++
      writeString url ++ writeString joinedScopes ++ bigEndian 2 0 ++ bigEndian 2 0 ++
      bigEndian 1 0)

def buildAllServiceTypeRequest (multicast : Bool) (prList : List IPV4Address)
    (scopes : ScopeSet) : List UInt8 :=
  let joinedPrList := joinAddresses prList
  let joinedScopes := scopes.asEscapedString
  let length := 6 + joinedPrList.length + joinedScopes.length
  buildSLPHeader .serviceTypeRequest length (multicastFlags multicast) xid enLanguageTag ++
    (writeString joinedPrList ++ bigEndian 2 0xffff ++ writeString joinedScopes)

def buildServiceTypeRequest (multicast : Bool) (prList : List IPV4Address)
    (namingAuth : List UInt8) (scopes : ScopeSet) : List UInt8 :=
  let joinedPrList := joinAddresses prList
  let joinedScopes := scopes.asEscapedString
  let length := 6 + joinedPrList.length + namingAuth.length + joinedScopes.length
  buildSLPHeader .serviceTypeRequest length (multicastFlags multicast) xid enLanguageTag ++
    (writeString joinedPrList ++ writeString namingAuth ++ writeString joinedScopes)

def buildServiceTypeReply (errorCode : UInt16) (serviceTypes : List (List UInt8)) : List UInt8 :=
  let joinedServiceTypes := stringJoin [44] (serviceTypes.map slpStringEscape)
  let length := 4 + joinedServiceTypes.length
  buildSLPHeader .serviceTypeReply length 0 xid enLanguageTag ++
    (bigEndian 2 errorCode.toNat ++ writeString joinedServiceTypes)

def buildSAAdvert (multicast : Bool) (url : List UInt8) (scopes : ScopeSet) : List UInt8 :=
  let joinedScopes := scopes.asEscapedString
  let length := 7 + url.length + joinedScopes.length
  buildSLPHeader .saAdvertisement length (multicastFlags multicast) xid enLanguageTag ++
    (writeString url ++ writeString joinedScopes ++ bigEndian 2 0 ++ bigEndian 1 0)

def buildError (xid : UInt16) (language : List UInt8) (errorCode : UInt16) : List UInt8 :=
  buildSLPHeader functionId 2 0 xid language ++ bigEndian 2 errorCode.toNat

/-- A call of one of the functions with its arguments. -/
inductive Call where
  | serviceRequestString (xid : UInt16) (multicast : Bool)
      (language prList serviceType : List UInt8) (scopes : ScopeSet) (predicate : List UInt8)
  | serviceRequest (xid : UInt16) (multicast : Bool) (language : List UInt8)
      (prList : List IPV4Address) (serviceType : List UInt8) (scopes : ScopeSet)
      (predicate : List UInt8)
  | serviceReply (xid : UInt16) (language : List UInt8) (errorCode : UInt16)
      (urls : List URLEntry)
  | serviceRegistration (xid : UInt16) (fresh : Bool) (scopes : ScopeSet) (service : ServiceEntry)
  | serviceDeRegistration (xid : UInt16) (scopes : ScopeSet) (service : ServiceEntry)
  | serviceAck (xid : UInt16) (language : List UInt8) (errorCode : UInt16)
  | daAdvert (xid : UInt16) (multicast : Bool) (errorCode : UInt16) (bootTimestamp : UInt32)
      (url : List UInt8) (scopes : ScopeSet)
  | allServiceTypeRequest (xid : UInt16) (multicast : Bool) (prList : List IPV4Address)
      (scopes : ScopeSet)
  | serviceTypeRequest (xid : UInt16) (multicast : Bool) (prList : List IPV4Address)
      (namingAuth : List UInt8) (scopes : ScopeSet)
  | serviceTypeReply (xid : UInt16) (errorCode : UInt16) (serviceTypes : List (List UInt8))
  | saAdvert (xid : UInt16) (multicast : Bool) (url : List UInt8) (scopes : ScopeSet)
  | error (functionId : FunctionId) (xid : UInt16) (language : List UInt8) (errorCode : UInt16)

def Call.packet : Call → List UInt8
  | .serviceRequestString xid multicast language prList serviceType scopes predicate =>
    buildServiceRequestString xid multicast language prList serviceType scopes predicate
  | .serviceRequest xid multicast language prList serviceType scopes predicate =>
    buildServiceRequest xid multicast language prList serviceType scopes predicate
  | .serviceReply xid language errorCode urls => buildServiceReply xid language errorCode urls
  | .serviceRegistration xid fresh scopes service =>
    buildServiceRegistration xid fresh scopes service
  | .serviceDeRegistration xid scopes service => buildServiceDeRegistration xid scopes service
  | .serviceAck xid language errorCode => buildServiceAck xid language errorCode
  | .daAdvert xid multicast errorCode bootTimestamp url scopes =>
    buildDAAdvert xid multicast errorCode bootTimestamp url scopes
  | .allServiceTypeRequest xid multicast prList scopes =>
    buildAllServiceTypeRequest xid multicast prList scopes
  | .serviceTypeRequest xid multicast prList namingAuth scopes =>
    buildServiceTypeRequest xid multicast prList namingAuth scopes
  | .serviceTypeReply xid errorCode serviceTypes =>
    buildServiceTypeReply xid errorCode serviceTypes
  | .saAdvert xid multicast url scopes => buildSAAdvert xid multicast url scopes
  | .error functionId xid language errorCode => buildError functionId xid language errorCode

/-- The predicate that a service request carries. -/
def Call.predicate : Call → List UInt8
  | .serviceRequestString _ _ _ _ _ _ predicate => predicate
  | .serviceRequest _ _ _ _ _ _ predicate => predicate
  | _ => []

def headerLength (packet : List UInt8) : Nat := number ((packet.drop 2).take 3)

@[simp] theorem length_writeString (data : List UInt8) :
    (writeString data).length = 2 + data.length := by
  simp [writeString]

@[simp] theorem length_buildSLPHeader (length : Nat) (flags xid : UInt16) (language : List UInt8) :
    (buildSLPHeader functionId length flags xid language).length = 14 + language.length := by
  simp [buildSLPHeader]
  omega

@[simp] theorem length_write : entry.write.length = entry.packedSize := by
  simp [URLEntry.write, URLEntry.packedSize]
  omega

theorem foldl_packedSize (urls : List URLEntry) (start : Nat) :
    urls.foldl (fun length entry => length + entry.packedSize) start =
      start + (urls.flatMap URLEntry.write).length := by
  induction urls generalizing start with
  | nil => rfl
  | cons entry rest ih =>
    rw [List.foldl_cons, ih, List.flatMap_cons, List.length_append, length_write]
    omega

/-- The low 24 bits of the length are written in two parts. -/
theorem number_length (length : UInt32) :
    number (bigEndian 2 (length >>> 8).toNat ++ bigEndian 1 length.toNat) =
      length.toNat % 2 ^ 24 := by
  have shifted : (length >>> 8).toNat = length.toNat / 256 := by
    rw [UInt32.toNat_shiftRight, Nat.shiftRight_eq_div_pow]
    rfl
  rw [number, List.foldl_append, foldl_bigEndian, foldl_bigEndian, shifted]
  omega

theorem headerLength_buildSLPHeader (length : Nat) (flags xid : UInt16)
    (language body : List UInt8) :
    headerLength (buildSLPHeader functionId length flags xid language ++ body) =
      (length + (14 + language.length)) % 2 ^ 24 := by
  have total : (UInt32.ofNat length + UInt32.ofNat (14 + language.length)).toNat % 2 ^ 24 =
      (length + (14 + language.length)) % 2 ^ 24 := by
    rw [UInt32.toNat_add, UInt32.toNat_ofNat', UInt32.toNat_ofNat']
    omega
  rw [← total, ← number_length]
  simp [headerLength, buildSLPHeader, bigEndian]

/-- The header has the right length if the sum that went into it has. -/
theorem headerLength_eq_iff {functionId : FunctionId} {length : Nat} {flags xid : UInt16}
    {language body : List UInt8} {missing : Nat}
    (fits : (buildSLPHeader functionId length flags xid language ++ body).length < 2 ^ 24)
    (sum : body.length = length + missing) :
    headerLength (buildSLPHeader functionId length flags xid language ++ body) =
        (buildSLPHeader functionId length flags xid language ++ body).length ↔
      missing = 0 := by
  rw [headerLength_buildSLPHeader]
  rw [List.length_append, length_buildSLPHeader] at fits ⊢
  omega

/-- Only the predicate of a service request is left out of the sum. -/
theorem header_length_iff (call : Call) (fits : call.packet.length < 2 ^ 24) :
    headerLength call.packet = call.packet.length ↔ call.predicate = [] := by
  rw [← List.length_eq_zero_iff]
  cases call with
  | serviceRequestString xid multicast language prList serviceType scopes predicate =>
    apply headerLength_eq_iff fits
    simp only [List.length_append, length_writeString, length_bigEndian, Call.predicate]
    omega
  | serviceRequest xid multicast language prList serviceType scopes predicate =>
    apply headerLength_eq_iff fits
    simp only [List.length_append, length_writeString, length_bigEndian, Call.predicate]
    omega
  | serviceReply xid language errorCode urls =>
    apply headerLength_eq_iff fits
    simp only [List.length_append, length_bigEndian, foldl_packedSize, Call.predicate,
      List.length_nil]
    omega
  | serviceRegistration xid fresh scopes service =>
    apply headerLength_eq_iff fits
    simp only [List.length_append, length_writeString, length_write, length_bigEndian,
      Call.predicate, List.length_nil]
    omega
  | serviceDeRegistration xid scopes service =>
    apply headerLength_eq_iff fits
    simp only [List.length_append, length_writeString, length_write, length_bigEndian,
      Call.predicate, List.length_nil]
  | serviceAck xid language errorCode =>
    apply headerLength_eq_iff fits
    simp only [length_bigEndian, Call.predicate, List.length_nil]
  | daAdvert xid multicast errorCode bootTimestamp url scopes =>
    apply headerLength_eq_iff fits
    simp only [List.length_append, length_writeString, length_bigEndian, Call.predicate,
      List.length_nil]
    omega
  | allServiceTypeRequest xid multicast prList scopes =>
    apply headerLength_eq_iff fits
    simp only [List.length_append, length_writeString, length_bigEndian, Call.predicate,
      List.length_nil]
    omega
  | serviceTypeRequest xid multicast prList namingAuth scopes =>
    apply headerLength_eq_iff fits
    simp only [List.length_append, length_writeString, Call.predicate, List.length_nil]
    omega
  | serviceTypeReply xid errorCode serviceTypes =>
    apply headerLength_eq_iff fits
    simp only [List.length_append, length_writeString, length_bigEndian, Call.predicate,
      List.length_nil]
    omega
  | saAdvert xid multicast url scopes =>
    apply headerLength_eq_iff fits
    simp only [List.length_append, length_writeString, length_bigEndian, Call.predicate,
      List.length_nil]
    omega
  | error functionId xid language errorCode =>
    apply headerLength_eq_iff fits
    simp only [length_bigEndian, Call.predicate, List.length_nil]

/-- A request for `a` in scope `b` with the predicate `(c=d)`. -/
def requestWithPredicate : Call :=
  .serviceRequest 1 false enLanguageTag [] [97] (.parse [98]) [40, 99, 61, 100, 41]

/-- The header of that request says 28, and 33 bytes are written. -/
theorem predicate_not_in_header_length :
    ¬ ∀ call : Call, call.packet.length < 2 ^ 24 →
      headerLength call.packet = call.packet.length := by
  intro each
  have size : requestWithPredicate.packet.length = 33 := by decide +kernel
  have header : headerLength requestWithPredicate.packet = 28 := by decide +kernel
  have same := each requestWithPredicate (by rw [size]; decide)
  rw [size, header] at same
  cases same

theorem header_length_without_predicate :
    headerLength (buildServiceAck 1 enLanguageTag 0) = 18 :=
  (header_length_iff (.serviceAck 1 enLanguageTag 0) (by decide +kernel)).mpr rfl

end SLPPacketBuilder

end OpenLighting.Slp
