import OpenLighting.SlpPacketParser

namespace OpenLighting.Slp

open OpenLighting.Network OpenLighting.StringUtils ByteCodec SLPPacketBuilder SLPPacketParser Reads List

/-- The parts of a string that an unescaped field leaves alone. -/
def Plain (text : List UInt8) : Prop := 92 ∉ text

/-- The length of a string fits in the field in front of it. -/
def Short (text : List UInt8) : Prop := text.length < 65536

instance (text : List UInt8) : Decidable (Plain text) := inferInstanceAs (Decidable (¬ _))
instance (text : List UInt8) : Decidable (Short text) := inferInstanceAs (Decidable (_ < _))

variable {text : List UInt8}

theorem reads_string (short : Short text) (unescape : Bool) :
    Reads (extractString unescape) (writeString text)
      (if unescape then slpStringUnescape text else text) := by
  have length : (UInt16.ofNat text.length).toNat = text.length := UInt16.toNat_ofNat_of_lt' short
  have rest : Reads (take (UInt16.ofNat text.length).toNat) text text := by
    rw [length]
    exact reads_take text
  apply bind (reads_uint16_ofNat text.length)
  exact rest.last (reads_pure _)

theorem reads_unescaped (short : Short text) (plain : Plain text) :
    Reads (extractString true) (writeString text) text := by
  have read := reads_string short true
  rwa [if_pos rfl, unescape_of_notMem plain] at read

theorem reads_raw (short : Short text) :
    Reads (extractString false) (writeString text) text := reads_string short false

/-- An empty string is only its length. -/
theorem reads_empty : Reads (extractString true) (bigEndian 2 0) [] :=
  @reads_unescaped [] (by decide) (by decide)

theorem reads_header {functionId : FunctionId} {length : Nat} {flags xid : UInt16}
    {language : List UInt8} (short : Short language) (plain : Plain language) :
    Reads extractHeader (buildSLPHeader functionId length flags xid language)
      ⟨xid, flags, language⟩ := by
  unfold extractHeader buildSLPHeader
  apply bind (reads_uint8 slpVersion)
  apply bind (reads_uint8_ofNat _)
  apply bind (reads_uint16_ofNat _)
  apply bind (reads_uint8_ofNat _)
  apply bind (reads_uint16 flags)
  apply bind (reads_uint8_ofNat _)
  apply bind (reads_uint16_ofNat _)
  apply bind (reads_uint16 xid)
  exact (reads_unescaped short plain).last (reads_pure _)

theorem reads_noAuths : Reads (extractAuthBlocks (UInt8.ofNat 0).toNat) [] () := reads_pure ()

theorem reads_urlEntry {entry : URLEntry} (short : Short entry.url) (plain : Plain entry.url) :
    Reads extractURLEntry entry.write entry := by
  unfold extractURLEntry URLEntry.write
  simp only [append_assoc]
  apply bind (reads_uint8_ofNat 0)
  apply bind (reads_uint16 entry.lifetime)
  apply bind (reads_unescaped short plain)
  apply last (reads_uint8_ofNat 0)
  exact reads_noAuths.last (reads_pure _)

theorem extractURLEntries_write {urls : List URLEntry}
    (short : ∀ entry ∈ urls, Short entry.url) (plain : ∀ entry ∈ urls, Plain entry.url)
    (rest : List UInt8) :
    extractURLEntries urls.length (urls.flatMap URLEntry.write ++ rest) = urls := by
  induction urls with
  | nil => rfl
  | cons entry urls ih =>
    have read := reads_urlEntry (short entry mem_cons_self) (plain entry mem_cons_self)
      (urls.flatMap URLEntry.write ++ rest)
    rw [flatMap_cons, append_assoc, length_cons, extractURLEntries, read]
    simp only
    rw [ih (fun other member => short other (mem_cons_of_mem entry member))
      (fun other member => plain other (mem_cons_of_mem entry member))]

theorem mem_stringJoin {byte : UInt8} {delimiter : List UInt8} {texts : List (List UInt8)}
    (member : byte ∈ stringJoin delimiter texts) :
    byte ∈ delimiter ∨ ∃ text ∈ texts, byte ∈ text := by
  induction texts with
  | nil => simp [stringJoin] at member
  | cons first rest ih =>
    cases rest with
    | nil =>
      right
      exact ⟨first, mem_cons_self, by simpa [stringJoin] using member⟩
    | cons second rest =>
      have shape : stringJoin delimiter (first :: second :: rest) =
          first ++ delimiter ++ stringJoin delimiter (second :: rest) := by
        simp [stringJoin, List.intercalate]
      rw [shape, mem_append, mem_append] at member
      rcases member with (inside | between) | behind
      · exact .inr ⟨first, mem_cons_self, inside⟩
      · exact .inl between
      · rcases ih behind with between | ⟨text, later, inside⟩
        · exact .inl between
        · exact .inr ⟨text, mem_cons_of_mem first later, inside⟩

theorem plain_joinAddresses (addresses : List IPV4Address) : Plain (joinAddresses addresses) := by
  intro member
  rcases mem_stringJoin member with comma | ⟨_, address, inside⟩
  · exact absurd comma (by decide)
  · obtain ⟨address, _, rfl⟩ := mem_map.mp address
    rcases mem_toString inside with dot | digit
    · exact absurd dot (by decide)
    · exact absurd digit (by decide)

/-- The previous responders are found again. -/
theorem convertIPAddressList_joinAddresses (addresses : List IPV4Address) :
    convertIPAddressList (joinAddresses addresses) = addresses := by
  cases addresses with
  | nil => rfl
  | cons first rest =>
    have apart : ∀ text ∈ (first :: rest).map IPV4Address.toString, 44 ∉ text := by
      intro text member inside
      obtain ⟨address, _, rfl⟩ := mem_map.mp member
      rcases mem_toString inside with dot | digit
      · exact absurd dot (by decide)
      · exact absurd digit (by decide)
    have parts : stringSplit (joinAddresses (first :: rest)) [44] =
        (first :: rest).map IPV4Address.toString :=
      stringSplit_stringJoin apart (by simp)
    have filled : joinAddresses (first :: rest) ≠ [] := by
      intro empty
      rw [empty] at parts
      exact toString_ne_nil first (List.cons.inj parts).1.symm
    have same : IPV4Address.fromString ∘ IPV4Address.toString = some :=
      funext fromString_toString
    rw [convertIPAddressList, if_neg filled, parts, filterMap_map, same,
      filterMap_some]

/-- A message that is built and unpacked, with what its builder gets. -/
inductive Message where
  | srvRqst (xid : UInt16) (multicast : Bool) (language : List UInt8) (prList : List IPV4Address)
      (serviceType : List UInt8) (scopes : ScopeSet) (predicate : List UInt8)
  | srvRply (xid : UInt16) (language : List UInt8) (errorCode : UInt16) (urls : List URLEntry)
  | srvReg (xid : UInt16) (fresh : Bool) (scopes : ScopeSet) (service : ServiceEntry)
  | srvDeReg (xid : UInt16) (scopes : ScopeSet) (service : ServiceEntry)
  | srvAck (xid : UInt16) (language : List UInt8) (errorCode : UInt16)
  | daAdvert (xid : UInt16) (multicast : Bool) (errorCode : UInt16) (bootTimestamp : UInt32)
      (url : List UInt8) (scopes : ScopeSet)

namespace Message

/-- The strings that are sent as they are. -/
def strings : Message → List (List UInt8)
  | .srvRqst _ _ language _ serviceType _ predicate => [language, serviceType, predicate]
  | .srvRply _ language _ urls => language :: urls.map URLEntry.url
  | .srvReg _ _ _ service => [service.url.url, service.serviceType]
  | .srvDeReg _ _ service => [service.url.url]
  | .srvAck _ language _ => [language]
  | .daAdvert _ _ _ _ url _ => [url]

def scopes : Message → Option ScopeSet
  | .srvRqst _ _ _ _ _ scopes _ => some scopes
  | .srvReg _ _ scopes _ => some scopes
  | .srvDeReg _ scopes _ => some scopes
  | .daAdvert _ _ _ _ _ scopes => some scopes
  | _ => none

/-- The number of entries and of bytes in the lists. -/
def counts : Message → List Nat
  | .srvRqst _ _ _ prList _ _ _ => [(joinAddresses prList).length]
  | .srvRply _ _ _ urls => [urls.length]
  | _ => []

/-- Everything fits in its 16-bit length field. -/
structure Fits (message : Message) : Prop where
  strings : ∀ text ∈ message.strings, Short text
  scopes : ∀ set ∈ message.scopes, Short set.asEscapedString
  counts : ∀ count ∈ message.counts, count < 65536

def NoBackslash (message : Message) : Prop := ∀ text ∈ message.strings, Plain text

/-- The matching `Unpack` function returns what went into the message. -/
def ReadBack : Message → Prop
  | .srvRqst xid multicast language prList serviceType scopes predicate =>
    ∃ packet, unpackServiceRequest (buildServiceRequest xid multicast language prList
        serviceType scopes predicate) = some packet ∧
      packet.header = ⟨xid, multicastFlags multicast, language⟩ ∧ packet.prList = prList ∧
      packet.serviceType = serviceType ∧ .parse packet.scopeList = scopes ∧
      packet.predicate = predicate ∧ packet.spi = []
  | .srvRply xid language errorCode urls =>
    unpackServiceReply (buildServiceReply xid language errorCode urls) =
      some ⟨⟨xid, 0, language⟩, errorCode, urls⟩
  | .srvReg xid fresh scopes service =>
    ∃ packet, unpackServiceRegistration (buildServiceRegistration xid fresh scopes service) =
        some packet ∧
      packet.header = ⟨xid, if fresh then slpFresh else 0, enLanguageTag⟩ ∧
      packet.url = service.url ∧ packet.serviceType = service.serviceType ∧
      .parse packet.scopeList = scopes ∧ packet.attrList = []
  | .srvDeReg xid scopes service =>
    ∃ packet, unpackServiceDeRegistration (buildServiceDeRegistration xid scopes service) =
        some packet ∧
      packet.header = ⟨xid, 0, enLanguageTag⟩ ∧ packet.url = service.url ∧
      .parse packet.scopeList = scopes ∧ packet.tagList = []
  | .srvAck xid language errorCode =>
    unpackServiceAck (buildServiceAck xid language errorCode) =
      some ⟨⟨xid, 0, language⟩, errorCode⟩
  | .daAdvert xid multicast errorCode bootTimestamp url scopes =>
    ∃ packet, unpackDAAdvert (buildDAAdvert xid multicast errorCode bootTimestamp url scopes) =
        some packet ∧
      packet.header = ⟨xid, multicastFlags multicast, enLanguageTag⟩ ∧
      packet.errorCode = errorCode ∧ packet.bootTimestamp = some bootTimestamp ∧
      packet.url = url ∧ .parse packet.scopeList = scopes ∧ packet.attrList = []

/-- A multicast `DAAdvert` has the error code 0, as its builder asks for. -/
def ErrorUsed : Message → Prop
  | .daAdvert _ multicast errorCode _ _ _ => multicast = true → errorCode = 0
  | _ => True

def NoEmptyScope (message : Message) : Prop := ∀ set ∈ message.scopes, [] ∉ set.scopes

section Packets

variable {xid errorCode : UInt16} {language : List UInt8} {scopes : ScopeSet}

theorem unpackServiceRequest_build {multicast : Bool} {serviceType predicate : List UInt8}
    {prList : List IPV4Address}
    (fits : (srvRqst xid multicast language prList serviceType scopes predicate).Fits)
    (plain : (srvRqst xid multicast language prList serviceType scopes predicate).NoBackslash) :
    unpackServiceRequest
        (buildServiceRequest xid multicast language prList serviceType scopes predicate) =
      some ⟨⟨xid, multicastFlags multicast, language⟩, prList, serviceType,
        scopes.asEscapedString, predicate, []⟩ := by
  have short := fits.strings
  simp only [strings, forall_mem_cons, NoBackslash] at short plain
  apply run'
  unfold serviceRequest buildServiceRequest buildServiceRequestString
  simp only [append_assoc]
  apply bind (reads_header short.1 plain.1)
  apply bind (reads_unescaped (fits.counts _ mem_cons_self) (plain_joinAddresses prList))
  apply bind (reads_unescaped short.2.1 plain.2.1)
  apply bind (reads_raw (fits.scopes _ rfl))
  apply bind (reads_unescaped short.2.2.1 plain.2.2.1)
  apply reads_empty.last
  rw [convertIPAddressList_joinAddresses]
  exact reads_pure _

theorem reads_errorHeader {functionId : FunctionId} {length : Nat} {flags : UInt16}
    (short : Short language) (plain : Plain language) (errorCode : UInt16) :
    Reads errorHeader (buildSLPHeader functionId length flags xid language ++
      bigEndian 2 errorCode.toNat) (⟨xid, flags, language⟩, errorCode) := by
  apply bind (reads_header short plain)
  exact (reads_uint16 errorCode).last (reads_pure _)

theorem unpackServiceReply_build {urls : List URLEntry}
    (fits : (srvRply xid language errorCode urls).Fits)
    (plain : (srvRply xid language errorCode urls).NoBackslash) :
    unpackServiceReply (buildServiceReply xid language errorCode urls) =
      some ⟨⟨xid, 0, language⟩, errorCode, urls⟩ := by
  have short := fits.strings
  simp only [strings, forall_mem_cons, forall_mem_map, NoBackslash] at short plain
  have count : (UInt16.ofNat urls.length).toNat = urls.length :=
    UInt16.toNat_ofNat_of_lt' (fits.counts _ mem_cons_self)
  have entries := extractURLEntries_write short.2 plain.2 []
  rw [append_nil] at entries
  unfold unpackServiceReply buildServiceReply
  rw [append_assoc, ← append_assoc (buildSLPHeader _ _ _ _ _),
    reads_errorHeader short.1 plain.1 errorCode]
  simp only
  rw [reads_uint16_ofNat urls.length]
  simp only
  rw [count, entries]

theorem unpackServiceRegistration_build {fresh : Bool} {service : ServiceEntry}
    (fits : (srvReg xid fresh scopes service).Fits)
    (plain : (srvReg xid fresh scopes service).NoBackslash) :
    unpackServiceRegistration (buildServiceRegistration xid fresh scopes service) =
      some ⟨⟨xid, if fresh then slpFresh else 0, enLanguageTag⟩, service.url,
        service.serviceType, scopes.asEscapedString, []⟩ := by
  have short := fits.strings
  simp only [strings, forall_mem_cons, NoBackslash] at short plain
  apply run'
  unfold serviceRegistration buildServiceRegistration
  simp only [append_assoc]
  apply Reads.bind (reads_header (by decide) (by decide))
  apply Reads.bind (reads_urlEntry short.1 plain.1)
  apply Reads.bind (reads_unescaped short.2.1 plain.2.1)
  apply bind (reads_raw (fits.scopes _ rfl))
  apply bind reads_empty
  apply last (reads_uint8_ofNat 0)
  exact reads_noAuths.last (reads_pure _)

theorem unpackServiceDeRegistration_build {service : ServiceEntry}
    (fits : (srvDeReg xid scopes service).Fits) (plain : (srvDeReg xid scopes service).NoBackslash) :
    unpackServiceDeRegistration (buildServiceDeRegistration xid scopes service) =
      some ⟨⟨xid, 0, enLanguageTag⟩, service.url, scopes.asEscapedString, []⟩ := by
  have short := fits.strings
  simp only [strings, forall_mem_cons, NoBackslash] at short plain
  apply run'
  unfold serviceDeRegistration buildServiceDeRegistration
  simp only [append_assoc]
  apply Reads.bind (reads_header (by decide) (by decide))
  apply Reads.bind (reads_raw (fits.scopes _ rfl))
  apply Reads.bind (reads_urlEntry short.1 plain.1)
  exact reads_empty.last (reads_pure _)

theorem unpackServiceAck_build (fits : (srvAck xid language errorCode).Fits)
    (plain : (srvAck xid language errorCode).NoBackslash) :
    unpackServiceAck (buildServiceAck xid language errorCode) =
      some ⟨⟨xid, 0, language⟩, errorCode⟩ := by
  have short := fits.strings
  simp only [strings, forall_mem_cons, NoBackslash] at short plain
  unfold unpackServiceAck buildServiceAck
  rw [← append_nil (_ ++ _), reads_errorHeader short.1 plain.1 errorCode]

theorem unpackDAAdvert_build {multicast : Bool} {bootTimestamp : UInt32} {url : List UInt8}
    (fits : (daAdvert xid multicast errorCode bootTimestamp url scopes).Fits)
    (plain : (daAdvert xid multicast errorCode bootTimestamp url scopes).NoBackslash) :
    unpackDAAdvert (buildDAAdvert xid multicast errorCode bootTimestamp url scopes) =
      some ⟨⟨xid, multicastFlags multicast, enLanguageTag⟩, if multicast then 0 else errorCode,
        some bootTimestamp, url, scopes.asEscapedString, []⟩ := by
  have short := fits.strings
  simp only [strings, forall_mem_cons, NoBackslash] at short plain
  have body : Reads (advertBody ⟨xid, multicastFlags multicast, enLanguageTag⟩
      (if multicast then 0 else errorCode) bootTimestamp)
      (writeString url ++ (writeString scopes.asEscapedString ++ (bigEndian 2 0 ++
        (bigEndian 2 0 ++ bigEndian 1 0))))
      ⟨⟨xid, multicastFlags multicast, enLanguageTag⟩, if multicast then 0 else errorCode,
        some bootTimestamp, url, scopes.asEscapedString, []⟩ := by
    apply bind (reads_unescaped short.1 plain.1)
    apply bind (reads_raw (fits.scopes _ rfl))
    apply bind reads_empty
    apply bind reads_empty
    apply last (reads_uint8_ofNat 0)
    exact reads_noAuths.last (reads_pure _)
  unfold unpackDAAdvert buildDAAdvert
  simp only [append_assoc]
  rw [← append_assoc (buildSLPHeader _ _ _ _ _), reads_errorHeader (by decide) (by decide)]
  simp only
  rw [reads_uint32 bootTimestamp]
  exact body.run'

end Packets

/-- A message without backslashes that fits comes back with all its fields exactly if it has
no empty scope and no error code that a multicast advert leaves out. -/
theorem read_back_iff (message : Message) (fits : message.Fits) (plain : message.NoBackslash) :
    message.ReadBack ↔ message.NoEmptyScope ∧ message.ErrorUsed := by
  cases message with
  | srvRqst xid multicast language prList serviceType scopes predicate =>
    simp [ReadBack, unpackServiceRequest_build fits plain, NoEmptyScope, Message.scopes,
      ErrorUsed, ScopeSet.parse_asEscapedString_iff]
  | srvRply xid language errorCode urls =>
    simp [ReadBack, unpackServiceReply_build fits plain, NoEmptyScope, Message.scopes, ErrorUsed]
  | srvReg xid fresh scopes service =>
    simp [ReadBack, unpackServiceRegistration_build fits plain, NoEmptyScope, Message.scopes,
      ErrorUsed, ScopeSet.parse_asEscapedString_iff]
  | srvDeReg xid scopes service =>
    simp [ReadBack, unpackServiceDeRegistration_build fits plain, NoEmptyScope, Message.scopes,
      ErrorUsed, ScopeSet.parse_asEscapedString_iff]
  | srvAck xid language errorCode =>
    simp [ReadBack, unpackServiceAck_build fits plain, NoEmptyScope, Message.scopes, ErrorUsed]
  | daAdvert xid multicast errorCode bootTimestamp url scopes =>
    have code : (if multicast then 0 else errorCode) = errorCode ↔
        (multicast = true → errorCode = 0) := by
      cases multicast with
      | false => simp
      | true => simp [eq_comm]
    simp [ReadBack, unpackDAAdvert_build fits plain, NoEmptyScope, Message.scopes, ErrorUsed,
      ScopeSet.parse_asEscapedString_iff, code, and_comm]

/-- The registration of `a://b` in the scopes that a text names. -/
def registration (scopes : List UInt8) : Message :=
  .srvReg 1 true (.parse scopes) ⟨⟨[97, 58, 47, 47, 98], 60⟩, [97], .parse scopes, true⟩

theorem registration_fits {scopes : List UInt8}
    (short : Short (ScopeSet.parse scopes).asEscapedString) :
    (registration scopes).Fits ∧ (registration scopes).NoBackslash := by
  refine ⟨⟨?_, ?_, ?_⟩, ?_⟩
  · simp only [registration, strings, forall_mem_cons]
    exact ⟨by decide, by decide, by simp⟩
  · intro set same
    rw [← Option.some.inj same]
    exact short
  · exact fun _ none => absurd none not_mem_nil
  · simp only [NoBackslash, registration, strings, forall_mem_cons]
    exact ⟨by decide, by decide, by simp⟩

theorem registration_read_back : (registration [99]).ReadBack := by
  have fits := @registration_fits [99] (by decide +kernel)
  apply (read_back_iff (registration [99]) fits.1 fits.2).mpr
  refine ⟨?_, trivial⟩
  intro set same
  rw [← Option.some.inj same]
  decide +kernel

/-- A scope that is a blank becomes the empty string, which is not found again. -/
theorem blank_scope_not_read_back :
    ¬ ∀ message : Message, message.Fits → message.NoBackslash → message.ReadBack := by
  intro each
  have fits := @registration_fits [32] (by decide +kernel)
  obtain ⟨packet, unpacked, _, _, _, scopes, _⟩ := each (registration [32]) fits.1 fits.2
  have built := unpackServiceRegistration_build fits.1 fits.2
  rw [← Option.some.inj (built.symm.trans unpacked), ScopeSet.parse_asEscapedString_iff] at scopes
  exact scopes (by decide +kernel)

end Message

end OpenLighting.Slp
