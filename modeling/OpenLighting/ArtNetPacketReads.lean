import OpenLighting.ArtNetTod
import OpenLighting.ArtNetUniverses
import OpenLighting.RdmDecoderReads

/- What an `ArtNetNodeImpl` reads of the datagrams that it gets. -/
namespace OpenLighting.ArtNet

open OpenLighting.Network ByteCodec BoundedReads

/-- The values of `artnet_packet_type` with handlers. -/
def artnetPoll : UInt16 := 0x2000
def artnetReply : UInt16 := 0x2100
def artnetDmx : UInt16 := 0x5000
def artnetTodRequest : UInt16 := 0x8000
def artnetTodControl : UInt16 := 0x8200
def artnetRdm : UInt16 := 0x8300
def artnetIpProgram : UInt16 := 0xf800

def artnetMaxRdmAddressCount : Nat := 32

structure PortCallbacks where
  onDiscover : Bool
  onFlush : Bool
  onRdmRequest : Bool

/-- An `ArtNetNodeImpl`, as far as its handlers look at it. -/
structure ReceivingNode where
  ipAddress : IPV4Address
  netAddress : UInt8
  outputPorts : Fin artnetMaxPorts → OutputPort
  callbacks : Fin artnetMaxPorts → PortCallbacks
  inputPorts : List InputPort

/-- What the handlers do with what they have read. Input ports are given by their places. -/
inductive Action where
  | pollReply (replyOnChange : Bool)
  | subscribe (inputPort : Nat)
  | dmx (portId : Fin artnetMaxPorts) (buffer : DmxBuffer)
  | discover (portId : Fin artnetMaxPorts)
  | tod (inputPort : Nat) (uids : List UID) (uidTotal : UInt16)
  | flush (portId : Fin artnetMaxPorts)
  | rdmRequest (portId : Fin artnetMaxPorts) (request : Rdm.Command)
  | rdmResponse (inputPort : Nat) (response : Rdm.Command)

/-- The ports of both kinds, in the order of the loops over them. -/
def outputPortIds : List (Fin artnetMaxPorts) := List.finRange artnetMaxPorts

variable (node : ReceivingNode)

namespace ReceivingNode

def placedInputPorts : List (InputPort × Nat) := node.inputPorts.zipIdx

def inputPortsOf (universeId : UInt8) : List Nat :=
  node.placedInputPorts.filterMap (fun port =>
    if port.1.enabled = true ∧ port.1.portAddress = universeId then some port.2 else none)

end ReceivingNode

variable (datagram : List UInt8) (offset : Nat)

/-- A byte of `packet.data`. -/
def dataAt : Except Fault UInt8 :=
  elementAt datagram (headerSize + offset)

/-- A number of `packet.data` in network order. -/
def wordAt : Except Fault UInt16 :=
  (fun bytes => UInt16.ofNat (number bytes)) <$> copy datagram (headerSize + offset) 2

/-- `LittleEndianToHost` of a number of the packet. -/
def littleWordAt : Except Fault UInt16 :=
  (fun bytes => UInt16.ofNat (number bytes.reverse)) <$> copy datagram offset 2

/-- `CheckPacketSize` and `CheckPacketVersion` in front of what a handler does. -/
def checked (size required : Nat)
    (handle : Except Fault (List Action)) : Except Fault (List Action) :=
  if size < required then pure []
  else do
    let version ← wordAt datagram 0
    if version ≠ artnetVersion then pure [] else handle

/-- `sizeof` an `artnet_poll_t`, and `HandlePollPacket`. The size is in all handlers that of the
data. -/
def pollSize : Nat := 4

def handlePollPacket (size : Nat) : Except Fault (List Action) :=
  checked datagram size pollSize do
    let talkToMe ← dataAt datagram 2
    pure [.pollReply (decide (talkToMe &&& 0x02 ≠ 0))]

def minimumReplySize : Nat := 229 - 26 - 1 - 1 - 4

def handleReplyPacket (source : IPV4Address) (datagram : List UInt8)
    (size : Nat) : Except Fault (List Action) :=
  if node.ipAddress = source then pure []
  else if size < minimumReplySize then pure []
  else do
    let netAddress ← dataAt datagram 8
    if netAddress ≠ node.netAddress then pure []
    else
      let numberPorts ← dataAt datagram 163
      (List.range (min artnetMaxPorts numberPorts.toNat)).foldlM (fun actions i => do
        let portType ← dataAt datagram (164 + i)
        if portType &&& 0x80 ≠ 0 then
          let universeId ← dataAt datagram (180 + i)
          pure (actions ++ (node.inputPortsOf universeId).map .subscribe)
        else pure actions) []

/-- `sizeof` an `artnet_dmx_t` without the slots, and `HandleDataPacket`. -/
def dmxHeaderSize : Nat := 8

variable (datagram : List UInt8)

def handleDataPacket (size : Nat) : Except Fault (List Action) :=
  checked datagram size (dmxHeaderSize + 2) do
    let net ← dataAt datagram 5
    if net ≠ node.netAddress then pure []
    else
      let universeId ← dataAt datagram 4
      let length ← wordAt datagram 6
      let dataSize := min length.toNat (minus size dmxHeaderSize)
      outputPortIds.foldlM (fun actions portId =>
        let port := node.outputPorts portId
        if port.enabled = true ∧ port.universeAddress = universeId ∧ port.onData = true ∧
            port.buffer.isSome = true then do
          let slots ← copy datagram (headerSize + dmxHeaderSize) (min dataSize dmxUniverseSize)
          pure (actions ++ [.dmx portId (DmxBuffer.new.set (some slots)).1])
        else pure actions) []

/-- `sizeof` an `artnet_todrequest_t` without the addresses. -/
def todRequestHeaderSize : Nat := 14

/-- A round of the loops of `HandleTodRequest`: the ports whose handler was called. -/
def discoverPort (i : Nat) (called : List (Fin artnetMaxPorts)) (portId : Fin artnetMaxPorts) :
    Except Fault (List (Fin artnetMaxPorts)) :=
  if (node.outputPorts portId).enabled = true then do
    let address ← dataAt datagram (todRequestHeaderSize + i)
    if (node.outputPorts portId).universeAddress = address ∧
        (node.callbacks portId).onDiscover = true ∧ portId ∉ called then
      pure (called ++ [portId])
    else pure called
  else pure called

def handleTodRequest (size : Nat) : Except Fault (List Action) :=
  checked datagram size todRequestHeaderSize do
    let net ← dataAt datagram 11
    if net ≠ node.netAddress then pure []
    else
      let command ← dataAt datagram 12
      if command ≠ 0 then pure []
      else
        let addressCount ← dataAt datagram 13
        let addresses := min artnetMaxRdmAddressCount
          (min (minus size todRequestHeaderSize) addressCount.toNat)
        let called ← (List.range addresses).foldlM (fun called i =>
          outputPortIds.foldlM (discoverPort node datagram i) called) []
        pure (called.map .discover)

/-- What `UpdatePortFromTodPacket` takes from a packet: the UIDs and `uid_total`. -/
def todUids (size : Nat) : Except Fault (List UID × UInt16) := do
  let uidCount ← dataAt datagram 17
  let count := min (minus size todHeaderSize / 6) uidCount.toNat
  let uids ← (List.range count).foldlM (fun uids i => do
    let bytes ← copy datagram (headerSize + (todHeaderSize + 6 * i)) 6
    pure (uids ++ [UID.unpack bytes])) []
  let uidTotal ← wordAt datagram 14
  pure (uids, uidTotal)

def handleTodData (size : Nat) : Except Fault (List Action) :=
  checked datagram size todHeaderSize do
    let version ← dataAt datagram 2
    if version ≠ rdmVersion then pure []
    else
      let net ← dataAt datagram 11
      if net ≠ node.netAddress then pure []
      else
        let commandResponse ← dataAt datagram 12
        if commandResponse ≠ 0 then pure []
        else
          node.placedInputPorts.foldlM (fun actions port =>
            if port.1.enabled = true then do
              let address ← dataAt datagram 13
              if port.1.portAddress = address then
                let tod ← todUids datagram size
                pure (actions ++ [.tod port.2 tod.1 tod.2])
              else pure actions
            else pure actions) []

/-- `sizeof` an `artnet_todcontrol_t`, and `HandleTodControl`. -/
def todControlSize : Nat := 14

def handleTodControl (size : Nat) : Except Fault (List Action) :=
  checked datagram size todControlSize do
    let net ← dataAt datagram 11
    if net ≠ node.netAddress then pure []
    else
      let command ← dataAt datagram 12
      if command ≠ todFlushCommand then pure []
      else
        outputPortIds.foldlM (fun actions portId =>
          if (node.outputPorts portId).enabled = true then do
            let address ← dataAt datagram 13
            if (node.outputPorts portId).universeAddress = address ∧
                (node.callbacks portId).onFlush = true then
              pure (actions ++ [.flush portId])
            else pure actions
          else pure actions) []

/-- `sizeof` an `artnet_rdm_t` without the RDM data. -/
def rdmHeaderSize : Nat := 14

/-- `packet.data`, as far as its length goes. -/
def rdmData (rdmLength : Nat) : List UInt8 :=
  (datagram.drop (headerSize + rdmHeaderSize)).take rdmLength

def rdmForOutput (rdmLength : Nat)
    (actions : List Action) (portId : Fin artnetMaxPorts) : Except Fault (List Action) :=
  if (node.outputPorts portId).enabled = true then do
    let address ← dataAt datagram 13
    if (node.outputPorts portId).universeAddress = address ∧
        (node.callbacks portId).onRdmRequest = true then
      let request ← Rdm.decoded (Rdm.inflateRequest (rdmData datagram rdmLength))
      pure (actions ++ request.toList.map (.rdmRequest portId))
    else pure actions
  else pure actions

/-- `HandleRdm` and the start of `HandleRDMResponse`, for an input port. -/
def rdmForInput (rdmLength : Nat) (actions : List Action)
    (port : InputPort × Nat) : Except Fault (List Action) :=
  if port.1.enabled = true then do
    let address ← dataAt datagram 13
    if port.1.portAddress = address then
      let rdmResponse ← copy datagram (headerSize + rdmHeaderSize) rdmLength
      let response ← Rdm.decoded (Rdm.inflateResponse rdmResponse none 0)
      pure (actions ++ response.2.toList.map (.rdmResponse port.2))
    else pure actions
  else pure actions

def handleRdm (size : Nat) : Except Fault (List Action) :=
  checked datagram size rdmHeaderSize do
    let version ← dataAt datagram 2
    if version ≠ rdmVersion then pure []
    else
      let command ← dataAt datagram 12
      if command ≠ 0 then pure []
      else
        let net ← dataAt datagram 11
        if net ≠ node.netAddress then pure []
        else
          let rdmLength := minus size rdmHeaderSize
          if rdmLength = 0 then pure []
          else
            let actions ← outputPortIds.foldlM (rdmForOutput node datagram rdmLength) []
            node.placedInputPorts.foldlM (rdmForInput datagram rdmLength) actions

/-- `sizeof` an `artnet_ip_prog_t`, and `HandleIPProgram`. -/
def ipProgramSize : Nat := 24

def handleIPProgram (size : Nat) : Except Fault (List Action) :=
  checked datagram size ipProgramSize (pure [])

def handlePacket (source : IPV4Address) (datagram : List UInt8) : Except Fault (List Action) :=
  if datagram.length ≤ headerSize then pure []
  else do
    let opCode ← littleWordAt datagram 8
    let size := minus datagram.length headerSize
    if opCode = artnetPoll then handlePollPacket datagram size
    else if opCode = artnetReply then handleReplyPacket node source datagram size
    else if opCode = artnetDmx then handleDataPacket node datagram size
    else if opCode = artnetTodRequest then handleTodRequest node datagram size
    else if opCode = artnetTodData then handleTodData node datagram size
    else if opCode = artnetTodControl then handleTodControl node datagram size
    else if opCode = artnetRdm then handleRdm node datagram size
    else if opCode = artnetIpProgram then handleIPProgram datagram size
    else pure []

variable {offset : Nat}

section Handlers
variable {node : ReceivingNode} {datagram : List UInt8} {size : Nat}
  (sized : headerSize + size = datagram.length) (counted : datagram.length < 2 ^ 32)
include sized

theorem succeeds_dataAt (inside : offset < size) :
    Succeeds (dataAt datagram offset) := succeeds_elementAt (by omega)

theorem succeeds_wordAt (inside : offset + 2 ≤ size) :
    Succeeds (wordAt datagram offset) := (succeeds_copy (by omega)).map _

theorem succeeds_checked {required : Nat} (two : 2 ≤ required)
    {handle : Except Fault (List Action)} (handled : required ≤ size → Succeeds handle) :
    Succeeds (checked datagram size required handle) := by
  apply succeeds_ite
  · intro _
    exact succeeds_pure _
  · intro enough
    apply (succeeds_wordAt sized (by omega)).bind
    intro version
    apply succeeds_ite
    · intro _
      exact succeeds_pure _
    · intro _
      exact handled (by omega)

theorem succeeds_handlePollPacket : Succeeds (handlePollPacket datagram size) := by
  apply succeeds_checked sized (by decide)
  intro (enough : 4 ≤ size)
  apply (succeeds_dataAt sized (by omega)).bind
  intro talkToMe
  exact succeeds_pure _

theorem succeeds_handleReplyPacket (source : IPV4Address) :
    Succeeds (handleReplyPacket node source datagram size) := by
  apply succeeds_ite
  · intro _
    exact succeeds_pure _
  intro _
  apply succeeds_ite
  · intro _
    exact succeeds_pure _
  intro (long : ¬ size < 197)
  apply (succeeds_dataAt sized (by omega)).unless
  intro netAddress _
  apply (succeeds_dataAt sized (by omega)).bind
  intro numberPorts
  apply succeeds_foldlM
  intro i member actions
  have few : i < min 4 numberPorts.toNat := List.mem_range.mp member
  apply (succeeds_dataAt sized (by omega)).bind
  intro portType
  apply succeeds_ite
  · intro _
    apply (succeeds_dataAt sized (by omega)).bind
    intro universeId
    exact succeeds_pure _
  · intro _
    exact succeeds_pure _

include counted

/-- The slots are clipped against what was received. -/
theorem succeeds_handleDataPacket : Succeeds (handleDataPacket node datagram size) := by
  apply succeeds_checked sized (by decide)
  intro (enough : 10 ≤ size)
  apply (succeeds_dataAt sized (by omega)).unless
  intro net _
  apply (succeeds_dataAt sized (by omega)).bind
  intro universeId
  apply (succeeds_wordAt sized (by omega)).bind
  intro length
  apply succeeds_foldlM
  intro portId _ actions
  apply succeeds_ite
  · intro _
    have rest : minus size 8 = size - 8 := minus_eq (by omega) (by omega)
    have clipped : headerSize + 8 + min (min length.toNat (minus size 8)) dmxUniverseSize ≤
        datagram.length := by omega
    apply (succeeds_copy clipped).bind
    intro slots
    exact succeeds_pure _
  · intro _
    exact succeeds_pure _

theorem succeeds_handleTodRequest : Succeeds (handleTodRequest node datagram size) := by
  apply succeeds_checked sized (by decide)
  intro (enough : 14 ≤ size)
  apply (succeeds_dataAt sized (by omega)).unless
  intro net _
  apply (succeeds_dataAt sized (by omega)).unless
  intro command _
  apply (succeeds_dataAt sized (by omega)).bind
  intro addressCount
  have rest : minus size 14 = size - 14 := minus_eq enough (by omega)
  refine Succeeds.bind ?_ fun called => succeeds_pure _
  apply succeeds_foldlM
  intro i member called
  have few : i < min artnetMaxRdmAddressCount (min (minus size 14) addressCount.toNat) :=
    List.mem_range.mp member
  apply succeeds_foldlM
  intro portId _ called
  apply succeeds_ite
  · intro _
    apply (succeeds_dataAt sized (show 14 + i < size by omega)).bind
    intro address
    exact succeeds_ite (fun _ => succeeds_pure _) fun _ => succeeds_pure _
  · intro _
    exact succeeds_pure _

theorem succeeds_todUids (enough : 18 ≤ size) : Succeeds (todUids datagram size) := by
  apply (succeeds_dataAt sized (by omega)).bind
  intro uidCount
  have rest : minus size 18 = size - 18 := minus_eq enough (by omega)
  refine Succeeds.bind ?_ fun uids => ?_
  · apply succeeds_foldlM
    intro i member uids
    have few : i < min (minus size 18 / 6) uidCount.toNat := List.mem_range.mp member
    apply (succeeds_copy (show headerSize + (18 + 6 * i) + 6 ≤ datagram.length by omega)).bind
    intro bytes
    exact succeeds_pure _
  · apply (succeeds_wordAt sized (by omega)).bind
    intro uidTotal
    exact succeeds_pure _

theorem succeeds_handleTodData : Succeeds (handleTodData node datagram size) := by
  apply succeeds_checked sized (by decide)
  intro (enough : 18 ≤ size)
  apply (succeeds_dataAt sized (by omega)).unless
  intro version _
  apply (succeeds_dataAt sized (by omega)).unless
  intro net _
  apply (succeeds_dataAt sized (by omega)).unless
  intro commandResponse _
  apply succeeds_foldlM
  intro port _ actions
  apply succeeds_ite
  · intro _
    apply (succeeds_dataAt sized (by omega)).bind
    intro address
    apply succeeds_ite
    · intro _
      apply (succeeds_todUids sized counted enough).bind
      intro tod
      exact succeeds_pure _
    · intro _
      exact succeeds_pure _
  · intro _
    exact succeeds_pure _

omit counted in
theorem succeeds_handleTodControl : Succeeds (handleTodControl node datagram size) := by
  apply succeeds_checked sized (by decide)
  intro (enough : 14 ≤ size)
  apply (succeeds_dataAt sized (by omega)).unless
  intro net _
  apply (succeeds_dataAt sized (by omega)).unless
  intro command _
  apply succeeds_foldlM
  intro portId _ actions
  apply succeeds_ite
  · intro _
    apply (succeeds_dataAt sized (by omega)).bind
    intro address
    exact succeeds_ite (fun _ => succeeds_pure _) fun _ => succeeds_pure _
  · intro _
    exact succeeds_pure _

omit counted in
theorem succeeds_handleIPProgram : Succeeds (handleIPProgram datagram size) :=
  succeeds_checked sized (by decide) fun _ => succeeds_pure _

end Handlers

/-- A number in network order, and one in the other. -/
def wordOf (offset : Nat) : UInt16 :=
  UInt16.ofNat (number ((datagram.drop offset).take 2))

def littleWordOf (offset : Nat) : UInt16 :=
  UInt16.ofNat (number ((datagram.drop offset).take 2).reverse)

/-- An ArtRdm packet that passes the checks of `HandleRdm`. -/
structure IsRdm (node : ReceivingNode) (datagram : List UInt8) : Prop where
  long : headerSize + rdmHeaderSize < datagram.length
  opCode : littleWordOf datagram 8 = artnetRdm
  version : wordOf datagram headerSize = artnetVersion
  rdmVersion : datagram.getD (headerSize + 2) 0 = ArtNet.rdmVersion
  command : datagram.getD (headerSize + 12) 0 = 0
  net : datagram.getD (headerSize + 11) 0 = node.netAddress

/-- The port that an ArtRdm packet is for. -/
def rdmAddress : UInt8 := datagram.getD (headerSize + 13) 0

/-- An output port that the packet is for has a handler for requests. -/
def TakesRequest (portId : Fin artnetMaxPorts) : Prop :=
  (node.outputPorts portId).enabled = true ∧
    (node.outputPorts portId).universeAddress = rdmAddress datagram ∧
    (node.callbacks portId).onRdmRequest = true

/-- An input port that the packet is for. -/
def TakesResponse (port : InputPort) : Prop :=
  port.enabled = true ∧ port.portAddress = rdmAddress datagram

instance (node : ReceivingNode) (datagram : List UInt8) (portId : Fin artnetMaxPorts) :
    Decidable (TakesRequest node datagram portId) := inferInstanceAs (Decidable (_ ∧ _))

instance (datagram : List UInt8) (port : InputPort) : Decidable (TakesResponse datagram port) :=
  inferInstanceAs (Decidable (_ ∧ _))

/-- The RDM message of a packet has lengths that fit it, as far as there are ports to decode it
for. -/
structure RdmFits (node : ReceivingNode) (datagram : List UInt8) : Prop where
  request : IsRdm node datagram → (∃ portId, TakesRequest node datagram portId) →
    Rdm.FitsFor Rdm.IsRequest (datagram.drop (headerSize + rdmHeaderSize))
  response : IsRdm node datagram → (∃ port ∈ node.inputPorts, TakesResponse datagram port) →
    Rdm.FitsFor (Rdm.IsResponse none 0) (datagram.drop (headerSize + rdmHeaderSize))

section RdmPackets
variable {node : ReceivingNode} {datagram : List UInt8} {size : Nat}

variable (sized : headerSize + size = datagram.length) (counted : datagram.length < 2 ^ 32)
include sized

theorem dataAt_eq (inside : offset < size) :
    dataAt datagram offset = .ok (datagram.getD (headerSize + offset) 0) :=
  elementAt_getD (by omega) 0

theorem wordAt_eq (inside : offset + 2 ≤ size) :
    wordAt datagram offset = .ok (wordOf datagram (headerSize + offset)) := by
  rw [wordAt, copy_inside (by omega)]
  rfl

include counted

theorem rdmData_eq (enough : rdmHeaderSize ≤ size) :
    rdmData datagram (minus size rdmHeaderSize) = datagram.drop (headerSize + rdmHeaderSize) := by
  rw [rdmData, minus_eq enough (by omega), List.take_of_length_le]
  rw [List.length_drop]
  omega

theorem rdmForOutput_iff (enough : rdmHeaderSize ≤ size) (portId : Fin artnetMaxPorts)
    (actions : List Action) :
    Succeeds (rdmForOutput node datagram (minus size rdmHeaderSize) actions portId) ↔
      (TakesRequest node datagram portId →
        Rdm.FitsFor Rdm.IsRequest (datagram.drop (headerSize + rdmHeaderSize))) := by
  have long : 14 ≤ size := enough
  have less : (datagram.drop (headerSize + rdmHeaderSize)).length < 2 ^ 32 := by
    rw [List.length_drop]
    omega
  unfold rdmForOutput
  by_cases enabled : (node.outputPorts portId).enabled = true
  · rw [if_pos enabled, dataAt_eq sized (show 13 < size by omega), ok_bind,
      rdmData_eq sized counted enough]
    by_cases taken : (node.outputPorts portId).universeAddress = rdmAddress datagram ∧
        (node.callbacks portId).onRdmRequest = true
    · have decodes := Rdm.succeeds_decoded_iff
        (Rdm.inflateRequest (datagram.drop (headerSize + rdmHeaderSize)))
      rw [Rdm.inflateRequest_fits_iff less] at decodes
      unfold rdmAddress at taken
      rw [if_pos taken, succeeds_bind_pure_iff, decodes]
      exact ⟨fun fits _ => fits, fun fits => fits ⟨enabled, taken⟩⟩
    · unfold rdmAddress at taken
      rw [if_neg taken]
      exact ⟨fun _ takes => absurd takes.2 taken, fun _ => succeeds_pure _⟩
  · rw [if_neg enabled]
    exact ⟨fun _ takes => absurd takes.1 enabled, fun _ => succeeds_pure _⟩

theorem rdmForInput_iff (enough : rdmHeaderSize ≤ size) (port : InputPort × Nat)
    (actions : List Action) :
    Succeeds (rdmForInput datagram (minus size rdmHeaderSize) actions port) ↔
      (TakesResponse datagram port.1 →
        Rdm.FitsFor (Rdm.IsResponse none 0) (datagram.drop (headerSize + rdmHeaderSize))) := by
  have long : 14 ≤ size := enough
  have less : (datagram.drop (headerSize + rdmHeaderSize)).length < 2 ^ 32 := by
    rw [List.length_drop]
    omega
  have rest : headerSize + rdmHeaderSize + minus size rdmHeaderSize ≤ datagram.length := by
    rw [minus_eq enough (by omega)]
    omega
  have copied := copy_inside rest
  have whole := rdmData_eq sized counted enough
  unfold rdmData at whole
  rw [whole] at copied
  unfold rdmForInput
  by_cases enabled : port.1.enabled = true
  · rw [if_pos enabled, dataAt_eq sized (show 13 < size by omega), ok_bind]
    by_cases taken : port.1.portAddress = rdmAddress datagram
    · have decodes := Rdm.succeeds_decoded_iff
        (Rdm.inflateResponse (datagram.drop (headerSize + rdmHeaderSize)) none 0)
      rw [Rdm.inflateResponse_fits_iff less] at decodes
      unfold rdmAddress at taken
      rw [if_pos taken, copied, ok_bind, succeeds_bind_pure_iff, decodes]
      exact ⟨fun fits _ => fits, fun fits => fits ⟨enabled, taken⟩⟩
    · unfold rdmAddress at taken
      rw [if_neg taken]
      exact ⟨fun _ takes => absurd takes.2 taken, fun _ => succeeds_pure _⟩
  · rw [if_neg enabled]
    exact ⟨fun _ takes => absurd takes.1 enabled, fun _ => succeeds_pure _⟩

omit sized counted in
theorem rdmFits_of_other (other : ¬ IsRdm node datagram) : RdmFits node datagram :=
  ⟨fun rdm => absurd rdm other, fun rdm => absurd rdm other⟩

omit sized counted in
theorem rdmFits_iff (rdm : IsRdm node datagram) : RdmFits node datagram ↔
    (∀ portId ∈ outputPortIds, TakesRequest node datagram portId →
      Rdm.FitsFor Rdm.IsRequest (datagram.drop (headerSize + rdmHeaderSize))) ∧
    (∀ port ∈ node.placedInputPorts, TakesResponse datagram port.1 →
      Rdm.FitsFor (Rdm.IsResponse none 0) (datagram.drop (headerSize + rdmHeaderSize))) := by
  constructor
  · intro fits
    constructor
    · intro portId _ takes
      exact fits.request rdm ⟨portId, takes⟩
    · intro port member takes
      have among : port.1 ∈ node.placedInputPorts.map Prod.fst := List.mem_map_of_mem member
      rw [ReceivingNode.placedInputPorts, List.zipIdx_map_fst] at among
      exact fits.response rdm ⟨port.1, among, takes⟩
  · intro ⟨request, response⟩
    constructor
    · intro _ ⟨portId, takes⟩
      exact request portId (List.mem_finRange portId) takes
    · intro _ ⟨port, member, takes⟩
      rw [← List.zipIdx_map_fst 0 node.inputPorts] at member
      have ⟨placed, found, same⟩ := List.mem_map.mp member
      rw [← same] at takes
      exact response placed found takes

/-- Only the decoders of RDM messages can go beyond the packet. -/
theorem handleRdm_iff (opCode : littleWordOf datagram 8 = artnetRdm) :
    Succeeds (handleRdm node datagram size) ↔ RdmFits node datagram := by
  have passes (other : ¬ IsRdm node datagram) :
      Succeeds (pure [] : Except Fault (List Action)) ↔ RdmFits node datagram :=
    ⟨fun _ => rdmFits_of_other other, fun _ => succeeds_pure _⟩
  unfold handleRdm checked
  by_cases short : size < rdmHeaderSize
  · rw [if_pos short]
    exact passes fun rdm => absurd rdm.long (by omega)
  have long : 14 ≤ size := Nat.le_of_not_lt short
  rw [if_neg short, wordAt_eq sized (by omega), ok_bind]
  by_cases version : wordOf datagram (headerSize + 0) ≠ artnetVersion
  · rw [if_pos version]
    exact passes fun rdm => version rdm.version
  rw [if_neg version, dataAt_eq sized (by omega), ok_bind]
  by_cases rdmVersion : datagram.getD (headerSize + 2) 0 ≠ ArtNet.rdmVersion
  · rw [if_pos rdmVersion]
    exact passes fun rdm => rdmVersion rdm.rdmVersion
  rw [if_neg rdmVersion, dataAt_eq sized (by omega), ok_bind]
  by_cases command : datagram.getD (headerSize + 12) 0 ≠ 0
  · rw [if_pos command]
    exact passes fun rdm => command rdm.command
  rw [if_neg command, dataAt_eq sized (by omega), ok_bind]
  by_cases net : datagram.getD (headerSize + 11) 0 ≠ node.netAddress
  · rw [if_pos net]
    exact passes fun rdm => net rdm.net
  rw [if_neg net]
  have length : minus size rdmHeaderSize = size - rdmHeaderSize :=
    minus_eq (Nat.le_of_not_lt short) (by omega)
  by_cases empty : minus size rdmHeaderSize = 0
  · rw [if_pos empty]
    exact passes fun rdm => absurd rdm.long (by omega)
  have rdm : IsRdm node datagram :=
    ⟨by omega, opCode, not_not.mp version, not_not.mp rdmVersion, not_not.mp command,
      not_not.mp net⟩
  have enough : rdmHeaderSize ≤ size := Nat.le_of_not_lt short
  rw [if_neg empty, rdmFits_iff rdm, succeeds_bind_iff fun actions =>
    succeeds_foldlM_iff (fun port _ actions => rdmForInput_iff sized counted enough port actions)
      actions]
  rw [succeeds_foldlM_iff fun portId _ actions =>
    rdmForOutput_iff sized counted enough portId actions]

end RdmPackets

theorem handlePacket_rdm {node : ReceivingNode} {datagram : List UInt8} (source : IPV4Address)
    (long : headerSize < datagram.length) (opCode : littleWordOf datagram 8 = artnetRdm) :
    handlePacket node source datagram =
      handleRdm node datagram (minus datagram.length headerSize) := by
  have header : 10 < datagram.length := long
  have read : littleWordAt datagram 8 = .ok (littleWordOf datagram 8) := by
    rw [littleWordAt, copy_inside (by omega)]
    rfl
  unfold handlePacket
  rw [if_neg (by omega), read, ok_bind, opCode]
  rw [if_neg (by decide), if_neg (by decide), if_neg (by decide), if_neg (by decide),
    if_neg (by decide), if_neg (by decide), if_pos rfl]

/-- Everything that is read of a datagram is in it, apart from RDM messages with lengths that do
not fit. -/
theorem handlePacket_inside_iff (node : ReceivingNode) (source : IPV4Address)
    (datagram : List UInt8) (bounded : datagram.length ≤ packetSize) :
    Succeeds (handlePacket node source datagram) ↔ RdmFits node datagram := by
  have counted : datagram.length < 2 ^ 32 := Nat.lt_of_le_of_lt bounded (by decide)
  by_cases small : datagram.length ≤ headerSize
  · rw [handlePacket, if_pos small]
    exact ⟨fun _ => rdmFits_of_other fun rdm => absurd rdm.long (by omega),
      fun _ => succeeds_pure _⟩
  have header : 10 < datagram.length := Nat.lt_of_not_le small
  have size : minus datagram.length headerSize = datagram.length - headerSize :=
    minus_eq (by omega) counted
  have sized : headerSize + minus datagram.length headerSize = datagram.length := by omega
  have opCode : littleWordAt datagram 8 = .ok (littleWordOf datagram 8) := by
    rw [littleWordAt, copy_inside (by omega)]
    rfl
  by_cases rdm : littleWordOf datagram 8 = artnetRdm
  · rw [handlePacket_rdm source header rdm]
    exact handleRdm_iff sized counted rdm
  rw [handlePacket, if_neg small, opCode, ok_bind]
  have passes {run : Except Fault (List Action)} (succeeds : Succeeds run) :
      Succeeds run ↔ RdmFits node datagram :=
    ⟨fun _ => rdmFits_of_other fun packet => rdm packet.opCode, fun _ => succeeds⟩
  apply passes
  apply succeeds_ite (fun _ => succeeds_handlePollPacket sized)
  intro _
  apply succeeds_ite (fun _ => succeeds_handleReplyPacket sized source)
  intro _
  apply succeeds_ite (fun _ => succeeds_handleDataPacket sized counted)
  intro _
  apply succeeds_ite (fun _ => succeeds_handleTodRequest sized counted)
  intro _
  apply succeeds_ite (fun _ => succeeds_handleTodData sized counted)
  intro _
  apply succeeds_ite (fun _ => succeeds_handleTodControl sized)
  intro _
  apply succeeds_ite (fun wanted => absurd wanted rdm)
  intro _
  exact succeeds_ite (fun _ => succeeds_handleIPProgram sized) fun _ => succeeds_pure _

/-- A node with output ports that take requests, and an ArtRdm packet for them. -/
def relayNode : ReceivingNode where
  ipAddress := ⟨10, 0, 0, 1⟩
  netAddress := 0
  outputPorts := fun _ => { OutputPort.initial with enabled := true }
  callbacks := fun _ => ⟨true, true, true⟩
  inputPorts := []

def rdmDatagram (message : List UInt8) : List UInt8 :=
  artnetId ++ [0x00, 0x83, 0, 14, 1] ++ List.replicate 8 0 ++ [0, 0, 0] ++ message

theorem rdm_message_inside : Succeeds (handlePacket relayNode ⟨10, 0, 0, 2⟩
    (rdmDatagram Rdm.exampleResponse.packet)) :=
  (handlePacket_inside_iff relayNode ⟨10, 0, 0, 2⟩ (rdmDatagram Rdm.exampleResponse.packet)
    (by decide)).mpr {
      request := fun _ _ =>
        { message := fun header found _ => by
            cases found
            decide
          parameters := fun _ _ _ short _ _ _ => absurd short (by decide) }
      response := fun _ ⟨_, member, _⟩ => absurd member List.not_mem_nil }

/-- A request with a message length of zero, in a packet of 47 bytes. -/
theorem rdm_message_beyond : ¬ Succeeds (handlePacket relayNode ⟨10, 0, 0, 2⟩
    (rdmDatagram Rdm.unsizedPacket)) := by
  have rdm : IsRdm relayNode (rdmDatagram Rdm.unsizedPacket) :=
    ⟨by decide, by decide, by decide, by decide, by decide, by decide⟩
  rw [handlePacket_rdm _ (by decide) rdm.opCode, handleRdm_iff (by decide) (by decide) rdm.opCode]
  intro fits
  have request := fits.request rdm ⟨⟨0, by decide⟩, by decide⟩
  exact request.message _ rfl rfl rfl

end OpenLighting.ArtNet
