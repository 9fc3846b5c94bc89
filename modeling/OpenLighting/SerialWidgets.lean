import OpenLighting.SwitchReceiverStreams

/- The framing of `BaseUsbProWidget` and `BaseRobeWidget`. -/
namespace OpenLighting.SerialWidget

open OpenLighting.SwitchReceiver TransitionSystem

/-- What `HandleMessage` is called with. -/
structure Message where
  label : UInt8
  data : Option (List UInt8)
  length : Nat
  deriving DecidableEq

/-- What `SendMessage` is called with. -/
structure Sent where
  label : UInt8
  data : List UInt8

/-- The message that should come of it. -/
def Sent.message (sent : Sent) : Message :=
  ⟨sent.label, if sent.data = [] then none else some sent.data, sent.data.length⟩

def lengthByte (length : Nat) : UInt8 := UInt8.ofNat (length % 2 ^ 8)
def lengthHiByte (length : Nat) : UInt8 := UInt8.ofNat (length / 2 ^ 8 % 2 ^ 8)

theorem length_of_bytes {length : Nat} (small : length < 2 ^ 16) :
    (lengthHiByte length).toNat * 2 ^ 8 + (lengthByte length).toNat = length := by
  unfold lengthHiByte lengthByte
  rw [UInt8.toNat_ofNat', UInt8.toNat_ofNat']
  omega

namespace UsbPro

def som : UInt8 := 0x7e
def eom : UInt8 := 0xe7
def maxDataSize : Nat := 600

inductive ReceiveState where
  | preSom
  | recvLabel
  | recvSizeLo
  | recvSizeHi
  | recvBody
  | recvEom
  deriving DecidableEq

/-- The members, with those of the header. -/
structure Members where
  state : ReceiveState
  som : UInt8
  label : UInt8
  len : UInt8
  lenHi : UInt8
  bytesReceived : Nat
  deriving DecidableEq

variable (members : Members)

def Members.packetLength : Nat :=
  members.lenHi.toNat * 2 ^ 8 + members.len.toNat

def sendMessage (label : UInt8) (data : Option (List UInt8)) (length : Nat) :
    Option (List UInt8) :=
  if length ≠ 0 ∧ data = none then none
  else some ([som, label, lengthByte length, lengthHiByte length] ++
    ((data.getD []).take length ++ [eom]))

/-- The cases of `ReceiveMessage` that receive a byte. -/
def onByte (label : ReceiveState) (members : Members) (recvBuffer : List UInt8) (byte : UInt8) :
    Members × Option ReceiveState × Option Message :=
  match label with
  | .preSom =>
    let members := { members with som := byte }
    if byte ≠ som then (members, some .preSom, none)
    else ({ members with state := .recvLabel }, some .recvLabel, none)
  | .recvLabel =>
    ({ members with label := byte, state := .recvSizeLo }, some .recvSizeLo, none)
  | .recvSizeLo =>
    ({ members with len := byte, state := .recvSizeHi }, some .recvSizeHi, none)
  | .recvSizeHi =>
    let members := { members with lenHi := byte }
    if members.packetLength = 0 then ({ members with state := .recvEom }, none, none)
    else if maxDataSize < members.packetLength then
      ({ members with state := .preSom }, none, none)
    else ({ members with bytesReceived := 0, state := .recvBody }, some .recvBody, none)
  | .recvBody => (members, none, none)
  | .recvEom =>
    let message : Message :=
      ⟨members.label,
        if members.packetLength = 0 then none else some (recvBuffer.take members.packetLength),
        members.packetLength⟩
    ({ members with state := .preSom }, none, if byte = eom then some message else none)

/-- The case of the body, which has received some bytes. -/
def onBody (count : Nat) : Members × Option ReceiveState :=
  let members := { members with bytesReceived := members.bytesReceived + count }
  if members.bytesReceived ≠ members.packetLength then (members, none)
  else ({ members with state := .recvEom }, some .recvEom)

def receiveMessage : Receiver Members ReceiveState Message where
  label := Members.state
  body label := label == .recvBody
  wanted members := members.packetLength - members.bytesReceived
  offset := Members.bytesReceived
  onByte := onByte
  onBody := onBody

def Members.new : Members := ⟨.preSom, 0, 0, 0, 0, 0⟩

def frame (sent : Sent) : List UInt8 :=
  (sendMessage sent.label (some sent.data) sent.data.length).getD []

def Fits (sent : Sent) : Prop := sent.data.length ≤ maxDataSize

structure Inv (members : Members) : Prop where
  body : members.state = .recvBody →
    members.bytesReceived < members.packetLength ∧ members.packetLength ≤ maxDataSize
  eom : members.state = .recvEom →
    members.packetLength = 0 ∨ members.packetLength = members.bytesReceived

theorem body_iff :
    receiveMessage.body (receiveMessage.label members) = true ↔ members.state = .recvBody :=
  beq_iff_eq

/-- A case that receives a byte leaves the header and what was received alone, or starts a body
that fits the buffer. -/
theorem onByte_inv {members : Members} (recvBuffer : List UInt8)
    (byte : UInt8) (other : members.state ≠ .recvBody) :
    Inv (onByte members.state members recvBuffer byte).1 ∧
      (onByte members.state members recvBuffer byte).1.bytesReceived ≤ members.bytesReceived ∧
      ∀ label ∈ (onByte members.state members recvBuffer byte).2.1,
        label = (onByte members.state members recvBuffer byte).1.state := by
  unfold onByte
  cases state : members.state with
  | preSom =>
    dsimp only
    split
    · exact ⟨⟨by simp, by simp⟩, Nat.le_refl _, by simp⟩
    · exact ⟨⟨nofun, nofun⟩, Nat.le_refl _, by simp⟩
  | recvLabel | recvSizeLo | recvEom => exact ⟨⟨nofun, nofun⟩, Nat.le_refl _, by simp⟩
  | recvSizeHi =>
    dsimp only
    split
    next zero => exact ⟨⟨nofun, fun _ => Or.inl zero⟩, Nat.le_refl _, by simp⟩
    next some =>
      split
      next => exact ⟨⟨nofun, nofun⟩, Nat.le_refl _, by simp⟩
      next fits =>
        exact ⟨⟨fun _ => ⟨Nat.pos_of_ne_zero some, Nat.le_of_not_lt fits⟩, nofun⟩,
          Nat.zero_le _, by simp⟩
  | recvBody => exact absurd state other

theorem lawful : receiveMessage.Lawful Inv maxDataSize where
  looks members buffer byte inv other := by
    show onByte members.state members (buffer.take members.bytesReceived) byte =
      onByte members.state members buffer byte
    unfold onByte
    cases state : members.state with
    | recvEom =>
      rcases inv.eom state with zero | whole
      · simp [zero]
      · simp only [← whole, List.take_take, Nat.min_self]
    | _ => rfl
  byte members buffer byte inv other := by
    have apart : members.state ≠ .recvBody := by
      intro body
      rw [(body_iff members).mpr body] at other
      cases other
    have ⟨next, offset, label⟩ := onByte_inv buffer byte apart
    exact ⟨next, offset, fun next member => Or.inl (label next member)⟩
  room members inv body := by
    have ⟨more, fits⟩ := inv.body ((body_iff members).mp body)
    show 0 < members.packetLength - members.bytesReceived ∧
      members.bytesReceived + (members.packetLength - members.bytesReceived) ≤ maxDataSize
    omega
  rest members count inv body some room := by
    have state := (body_iff members).mp body
    have ⟨more, fits⟩ := inv.body state
    change count ≤ members.packetLength - members.bytesReceived at room
    show Inv (onBody members count).1 ∧
      (onBody members count).1.bytesReceived = members.bytesReceived + count ∧
      ∀ label ∈ (onBody members count).2, label = (onBody members count).1.state
    unfold onBody
    dsimp only
    split
    next part =>
      change members.bytesReceived + count ≠ members.packetLength at part
      refine ⟨⟨fun _ => ⟨?_, fits⟩, by simp [state]⟩, rfl, by simp⟩
      show members.bytesReceived + count < members.packetLength
      omega
    next whole =>
      exact ⟨⟨nofun, fun _ => Or.inr (not_not.mp whole).symm⟩, rfl, by simp⟩
  part members count inv body some room := by
    have state := (body_iff members).mp body
    change count < members.packetLength - members.bytesReceived at room
    have part : onBody members count =
        ({ members with bytesReceived := members.bytesReceived + count }, none) := by
      apply if_pos
      show members.bytesReceived + count ≠ members.packetLength
      omega
    show receiveMessage.body (onBody members count).1.state = true ∧
      (onBody members count).1.packetLength - (onBody members count).1.bytesReceived =
        members.packetLength - members.bytesReceived - count ∧
      (onBody (onBody members count).1 1).1 = (onBody members (count + 1)).1
    rw [part]
    refine ⟨beq_iff_eq.mpr state, ?_, rfl⟩
    exact Nat.sub_add_eq _ _ _

/-- Between the frames. -/
def Idle : Prop := members.state = .preSom

/-- A header brings the receiver to the body, or to the end byte if there is none. -/
theorem run_header {members : Members} (idle : Idle members) (data : List UInt8)
    (messages : List Message) (label : UInt8) {length : Nat} (fits : length ≤ maxDataSize) :
    ∃ bytesReceived data', run (Parser.push receiveMessage) ⟨members, data, messages⟩
        [som, label, lengthByte length, lengthHiByte length] =
      ⟨⟨if length = 0 then .recvEom else .recvBody, som, label, lengthByte length,
        lengthHiByte length, bytesReceived⟩, data', messages⟩ ∧
      (length ≠ 0 → bytesReceived = 0 ∧ data' = []) := by
  have ⟨_, start, label', len, lenHi, bytesReceived⟩ := members
  cases idle
  have first : Parser.push receiveMessage
      ⟨⟨.preSom, start, label', len, lenHi, bytesReceived⟩, data, messages⟩ som =
        ⟨⟨.recvLabel, som, label', len, lenHi, bytesReceived⟩, data.take bytesReceived, messages⟩ :=
    push_quiet rfl rfl messages
  have second : Parser.push receiveMessage ⟨⟨.recvLabel, som, label', len, lenHi, bytesReceived⟩,
      data.take bytesReceived, messages⟩ label =
        ⟨⟨.recvSizeLo, som, label, len, lenHi, bytesReceived⟩,
          (data.take bytesReceived).take bytesReceived, messages⟩ := push_quiet rfl rfl messages
  have third : Parser.push receiveMessage ⟨⟨.recvSizeLo, som, label, len, lenHi, bytesReceived⟩,
      (data.take bytesReceived).take bytesReceived, messages⟩ (lengthByte length) =
        ⟨⟨.recvSizeHi, som, label, lengthByte length, lenHi, bytesReceived⟩,
          ((data.take bytesReceived).take bytesReceived).take bytesReceived, messages⟩ :=
    push_quiet rfl rfl messages
  have whole : Members.packetLength ⟨.recvSizeHi, som, label, lengthByte length,
      lengthHiByte length, bytesReceived⟩ = length :=
    length_of_bytes (Nat.lt_of_le_of_lt fits (by decide))
  rw [run_cons, first, run_cons, second, run_cons, third, run_cons, run_nil]
  by_cases nothing : length = 0
  · refine ⟨bytesReceived, _, @push_quiet _ _ _ receiveMessage _ rfl _ _ _ none ?_ messages,
      absurd nothing⟩
    rw [if_pos nothing]
    exact if_pos (whole.trans nothing)
  · refine ⟨0, [], @push_quiet _ _ _ receiveMessage _ rfl _ _ _ (some .recvBody) ?_ messages,
      fun _ => ⟨rfl, rfl⟩⟩
    rw [if_neg nothing]
    show (if Members.packetLength _ = 0 then _ else _) = _
    rw [if_neg (fun zero => nothing (whole.symm.trans zero)),
      if_neg (fun more => Nat.not_lt_of_le fits (whole ▸ more))]

/-- The payload behind the header. -/
theorem run_payload {bytesReceived : Nat} {data' payload : List UInt8} (messages : List Message)
    (label : UInt8) (fits : payload.length ≤ maxDataSize)
    (fresh : payload.length ≠ 0 → bytesReceived = 0 ∧ data' = []) :
    ∃ received data, run (Parser.push receiveMessage)
        ⟨⟨if payload.length = 0 then .recvEom else .recvBody, som, label,
          lengthByte payload.length, lengthHiByte payload.length, bytesReceived⟩, data', messages⟩
        payload =
      ⟨⟨.recvEom, som, label, lengthByte payload.length, lengthHiByte payload.length, received⟩,
        data, messages⟩ ∧ data.take payload.length = payload := by
  cases payload with
  | nil => exact ⟨bytesReceived, data', rfl, rfl⟩
  | cons first rest =>
    have some : (first :: rest).length ≠ 0 := Nat.succ_ne_zero _
    generalize (first :: rest) = payload at fits fresh some ⊢
    have ⟨received, empty⟩ := fresh some
    have whole : Members.packetLength ⟨.recvBody, som, label, lengthByte payload.length,
        lengthHiByte payload.length, 0⟩ = payload.length :=
      length_of_bytes (Nat.lt_of_le_of_lt fits (by decide))
    have inv : Inv ⟨.recvBody, som, label, lengthByte payload.length,
        lengthHiByte payload.length, 0⟩ := by
      refine ⟨fun _ => ?_, nofun⟩
      rw [whole]
      exact ⟨Nat.pos_of_ne_zero some, fits⟩
    have ran := run_push_body lawful inv rfl [] messages
      (fun nothing => some (List.length_eq_zero_iff.mpr nothing)) (Nat.le_of_eq whole.symm)
    have done : onBody ⟨.recvBody, som, label, lengthByte payload.length,
        lengthHiByte payload.length, 0⟩ payload.length =
          (⟨.recvEom, som, label, lengthByte payload.length, lengthHiByte payload.length,
            0 + payload.length⟩, Option.some .recvEom) :=
      if_neg (not_not_intro ((Nat.zero_add _).trans whole.symm))
    refine ⟨0 + payload.length, payload, ?_, List.take_length⟩
    rw [received, empty, if_neg some, ran, List.nil_append]
    show Parser.mk (onBody _ _).1 _ _ = _
    rw [done]

/-- The end byte. -/
theorem push_eom {members : Members} (state : members.state = .recvEom) (data : List UInt8)
    (messages : List Message) : Parser.push receiveMessage ⟨members, data, messages⟩ eom =
      ⟨{ members with state := .preSom }, data.take members.bytesReceived, messages ++
        [⟨members.label, if members.packetLength = 0 then none
          else some (data.take members.packetLength), members.packetLength⟩]⟩ := by
  have ⟨_, _, _, _, _, _⟩ := members
  cases state
  exact push_byte rfl data messages eom

theorem frame_eq (sent : Sent) : frame sent = [som, sent.label, lengthByte sent.data.length,
    lengthHiByte sent.data.length] ++ (sent.data ++ [eom]) := by
  unfold frame sendMessage
  simp

theorem framed : Framed receiveMessage Idle som frame Fits Sent.message where
  skips members data messages byte idle other := by
    have ⟨_, _, _, _, _, _⟩ := members
    cases idle
    refine ⟨_, _, push_quiet rfl (if_pos other) messages, ?_⟩
    rfl
  takes members data messages sent idle fits := by
    have ⟨bytesReceived, data', header, fresh⟩ := run_header idle data messages sent.label fits
    have ⟨received, payload, body, taken⟩ := run_payload messages sent.label fits fresh
    have whole : Members.packetLength ⟨.recvEom, som, sent.label, lengthByte sent.data.length,
        lengthHiByte sent.data.length, received⟩ = sent.data.length :=
      length_of_bytes (Nat.lt_of_le_of_lt fits (by decide))
    have same : Message.mk sent.label (if sent.data.length = 0 then none else some sent.data)
        sent.data.length = sent.message := by
      unfold Sent.message
      simp
    rw [frame_eq, run_append, header, run_append, body, run_cons, run_nil, push_eom rfl, whole,
      taken, same]
    exact ⟨_, _, rfl, rfl⟩

end UsbPro

namespace Robe

def som : UInt8 := 0xa5
def maxDataSize : Nat := 522

inductive ReceiveState where
  | preSom
  | recvPacketType
  | recvSizeLo
  | recvSizeHi
  | recvHeaderCrc
  | recvBody
  | recvCrc
  deriving DecidableEq

/-- The members, with those of the header. -/
structure Members where
  state : ReceiveState
  som : UInt8
  packetType : UInt8
  len : UInt8
  lenHi : UInt8
  headerCrc : UInt8
  bytesReceived : Nat
  dataSize : Nat
  crc : UInt8
  deriving DecidableEq

/-- The sum over the header, and what it becomes with the data. -/
def headerSum (packetType len lenHi : UInt8) : UInt8 := som + packetType + len + lenHi

def addData (crc : UInt8) (data : List UInt8) : UInt8 := data.foldl (· + ·) crc

def sendMessage (packetType : UInt8) (data : Option (List UInt8)) (length : Nat) :
    Option (List UInt8) :=
  if length ≠ 0 ∧ data = none then none
  else
    let crc := headerSum packetType (lengthByte length) (lengthHiByte length)
    let data := (data.getD []).take length
    some ([som, packetType, lengthByte length, lengthHiByte length, crc] ++
      (data ++ [addData (crc + crc) data]))

/-- The cases of `ReceiveMessage` that receive a byte. The one of the header falls into that of the
body also if there is none; that then receives nothing. -/
def onByte (label : ReceiveState) (members : Members) (recvBuffer : List UInt8) (byte : UInt8) :
    Members × Option ReceiveState × Option Message :=
  match label with
  | .preSom =>
    let members := { members with som := byte }
    if byte ≠ som then (members, some .preSom, none)
    else ({ members with state := .recvPacketType }, some .recvPacketType, none)
  | .recvPacketType =>
    ({ members with packetType := byte, state := .recvSizeLo }, some .recvSizeLo, none)
  | .recvSizeLo =>
    ({ members with len := byte, state := .recvSizeHi }, some .recvSizeHi, none)
  | .recvSizeHi =>
    let members :=
      { members with
        lenHi := byte
        dataSize := byte.toNat * 2 ^ 8 + members.len.toNat }
    if maxDataSize < members.dataSize then ({ members with state := .preSom }, none, none)
    else
      ({ members with bytesReceived := 0, state := .recvHeaderCrc }, some .recvHeaderCrc, none)
  | .recvHeaderCrc =>
    let members :=
      { members with
        headerCrc := byte
        crc := headerSum members.packetType members.len members.lenHi }
    if members.crc ≠ members.headerCrc then ({ members with state := .preSom }, none, none)
    else
      let members := { members with crc := members.crc + members.headerCrc }
      ({ members with state := if members.dataSize ≠ 0 then .recvBody else .recvCrc },
        some .recvBody, none)
  | .recvBody => (members, none, none)
  | .recvCrc =>
    let members :=
      { members with crc := addData members.crc (recvBuffer.take members.dataSize) }
    let message : Message :=
      ⟨members.packetType,
        if members.dataSize = 0 then none else some (recvBuffer.take members.dataSize),
        members.dataSize⟩
    ({ members with state := .preSom }, none, if members.crc ≠ byte then none else some message)

variable (members : Members)

/-- The case of the body, which has received some bytes. -/
def onBody (count : Nat) : Members × Option ReceiveState :=
  let members := { members with bytesReceived := members.bytesReceived + count }
  if members.bytesReceived ≠ members.dataSize then (members, none)
  else ({ members with state := .recvCrc }, some .recvCrc)

def receiveMessage : Receiver Members ReceiveState Message where
  label := Members.state
  body label := label == .recvBody
  wanted members := members.dataSize - members.bytesReceived
  offset := Members.bytesReceived
  onByte := onByte
  onBody := onBody

def Members.new : Members := ⟨.preSom, 0, 0, 0, 0, 0, 0, 0, 0⟩

def frame (sent : Sent) : List UInt8 :=
  (sendMessage sent.label (some sent.data) sent.data.length).getD []

def Fits (sent : Sent) : Prop := sent.data.length ≤ maxDataSize

structure Inv (members : Members) : Prop where
  header : members.state = .recvHeaderCrc →
    members.bytesReceived = 0 ∧ members.dataSize ≤ maxDataSize
  body : members.state = .recvBody →
    members.bytesReceived < members.dataSize ∧ members.dataSize ≤ maxDataSize
  crc : members.state = .recvCrc → members.bytesReceived = members.dataSize

theorem body_iff :
    receiveMessage.body (receiveMessage.label members) = true ↔ members.state = .recvBody :=
  beq_iff_eq

/-- A case that receives a byte leaves what was received alone, or starts a body that fits the
buffer; it falls into that of the body also where there is none. -/
theorem onByte_inv {members : Members} (inv : Inv members) (recvBuffer : List UInt8)
    (byte : UInt8) (other : members.state ≠ .recvBody) :
    Inv (onByte members.state members recvBuffer byte).1 ∧
      (onByte members.state members recvBuffer byte).1.bytesReceived ≤ members.bytesReceived ∧
      ∀ label ∈ (onByte members.state members recvBuffer byte).2.1,
        label = (onByte members.state members recvBuffer byte).1.state ∨
          (label = .recvBody ∧ (onByte members.state members recvBuffer byte).1.dataSize = 0) := by
  unfold onByte
  cases state : members.state with
  | preSom =>
    dsimp only
    split
    · exact ⟨⟨by simp, by simp, by simp⟩, Nat.le_refl _, by simp⟩
    · exact ⟨⟨nofun, nofun, nofun⟩, Nat.le_refl _, by simp⟩
  | recvPacketType | recvSizeLo | recvCrc => exact ⟨⟨nofun, nofun, nofun⟩, Nat.le_refl _, by simp⟩
  | recvSizeHi =>
    dsimp only
    split
    next => exact ⟨⟨nofun, nofun, nofun⟩, Nat.le_refl _, by simp⟩
    next fits =>
      exact ⟨⟨fun _ => ⟨rfl, Nat.le_of_not_lt fits⟩, nofun, nofun⟩, Nat.zero_le _, by simp⟩
  | recvHeaderCrc =>
    have ⟨fresh, fits⟩ := inv.header state
    dsimp only
    split
    next => exact ⟨⟨nofun, nofun, nofun⟩, Nat.le_refl _, by simp⟩
    next =>
      by_cases zero : members.dataSize = 0
      · rw [if_neg (not_not_intro zero)]
        exact ⟨⟨nofun, nofun, fun _ => fresh.trans zero.symm⟩, Nat.le_refl _, by simp [zero]⟩
      · rw [if_pos zero]
        refine ⟨⟨nofun, fun _ => ⟨?_, fits⟩, nofun⟩, Nat.le_refl _, by simp⟩
        show members.bytesReceived < members.dataSize
        omega
  | recvBody => exact absurd state other

theorem lawful : receiveMessage.Lawful Inv maxDataSize where
  looks members buffer byte inv other := by
    show onByte members.state members (buffer.take members.bytesReceived) byte =
      onByte members.state members buffer byte
    unfold onByte
    cases state : members.state with
    | recvCrc => simp only [inv.crc state, List.take_take, Nat.min_self]
    | _ => rfl
  byte members buffer byte inv other := by
    have apart : members.state ≠ .recvBody := by
      intro body
      rw [(body_iff members).mpr body] at other
      cases other
    have ⟨next, offset, label⟩ := onByte_inv inv buffer byte apart
    refine ⟨next, offset, ?_⟩
    intro next member
    rcases label next member with same | ⟨same, zero⟩
    · exact Or.inl same
    · refine Or.inr ⟨beq_iff_eq.mpr same, ?_⟩
      show (onByte members.state members buffer byte).1.dataSize - _ = 0
      rw [zero, Nat.zero_sub]
  room members inv body := by
    have ⟨more, fits⟩ := inv.body ((body_iff members).mp body)
    show 0 < members.dataSize - members.bytesReceived ∧
      members.bytesReceived + (members.dataSize - members.bytesReceived) ≤ maxDataSize
    omega
  rest members count inv body some room := by
    have state := (body_iff members).mp body
    have ⟨more, fits⟩ := inv.body state
    change count ≤ members.dataSize - members.bytesReceived at room
    show Inv (onBody members count).1 ∧
      (onBody members count).1.bytesReceived = members.bytesReceived + count ∧
      ∀ label ∈ (onBody members count).2, label = (onBody members count).1.state
    unfold onBody
    dsimp only
    split
    next part =>
      refine ⟨⟨by simp [state], fun _ => ⟨?_, fits⟩, by simp [state]⟩, rfl, by simp⟩
      show members.bytesReceived + count < members.dataSize
      omega
    next whole =>
      exact ⟨⟨nofun, nofun, fun _ => not_not.mp whole⟩, rfl, by simp⟩
  part members count inv body some room := by
    have state := (body_iff members).mp body
    change count < members.dataSize - members.bytesReceived at room
    have part : onBody members count =
        ({ members with bytesReceived := members.bytesReceived + count }, none) := by
      unfold onBody
      dsimp only
      apply if_pos
      omega
    show receiveMessage.body (onBody members count).1.state = true ∧
      (onBody members count).1.dataSize - (onBody members count).1.bytesReceived =
        members.dataSize - members.bytesReceived - count ∧
      (onBody (onBody members count).1 1).1 = (onBody members (count + 1)).1
    rw [part]
    refine ⟨beq_iff_eq.mpr state, ?_, rfl⟩
    exact Nat.sub_add_eq _ _ _

/-- Between the frames. -/
def Idle : Prop := members.state = .preSom

/-- A header brings the receiver to the body, or to the checksum if there is none. -/
theorem run_header {members : Members} (idle : Idle members) (data : List UInt8)
    (messages : List Message) (packetType : UInt8) {length : Nat} (fits : length ≤ maxDataSize) :
    run (Parser.push receiveMessage) ⟨members, data, messages⟩
        [som, packetType, lengthByte length, lengthHiByte length,
          headerSum packetType (lengthByte length) (lengthHiByte length)] =
      ⟨⟨if length ≠ 0 then .recvBody else .recvCrc, som, packetType, lengthByte length,
        lengthHiByte length, headerSum packetType (lengthByte length) (lengthHiByte length), 0,
        length, headerSum packetType (lengthByte length) (lengthHiByte length) +
          headerSum packetType (lengthByte length) (lengthHiByte length)⟩, [], messages⟩ := by
  have ⟨_, start, packetType', len, lenHi, headerCrc, bytesReceived, dataSize, crc⟩ := members
  cases idle
  have first : Parser.push receiveMessage ⟨⟨.preSom, start, packetType', len, lenHi, headerCrc,
      bytesReceived, dataSize, crc⟩, data, messages⟩ som =
        ⟨⟨.recvPacketType, som, packetType', len, lenHi, headerCrc, bytesReceived, dataSize, crc⟩,
          data.take bytesReceived, messages⟩ := push_quiet rfl rfl messages
  have second : Parser.push receiveMessage ⟨⟨.recvPacketType, som, packetType', len, lenHi,
      headerCrc, bytesReceived, dataSize, crc⟩, data.take bytesReceived, messages⟩ packetType =
        ⟨⟨.recvSizeLo, som, packetType, len, lenHi, headerCrc, bytesReceived, dataSize, crc⟩,
          (data.take bytesReceived).take bytesReceived, messages⟩ := push_quiet rfl rfl messages
  have third : Parser.push receiveMessage ⟨⟨.recvSizeLo, som, packetType, len, lenHi, headerCrc,
      bytesReceived, dataSize, crc⟩, (data.take bytesReceived).take bytesReceived, messages⟩
        (lengthByte length) =
        ⟨⟨.recvSizeHi, som, packetType, lengthByte length, lenHi, headerCrc, bytesReceived,
          dataSize, crc⟩, ((data.take bytesReceived).take bytesReceived).take bytesReceived,
          messages⟩ := push_quiet rfl rfl messages
  have whole := length_of_bytes (Nat.lt_of_le_of_lt fits (by decide : maxDataSize < 2 ^ 16))
  have fourth : Parser.push receiveMessage ⟨⟨.recvSizeHi, som, packetType, lengthByte length, lenHi,
      headerCrc, bytesReceived, dataSize, crc⟩,
        ((data.take bytesReceived).take bytesReceived).take bytesReceived, messages⟩
        (lengthHiByte length) =
        ⟨⟨.recvHeaderCrc, som, packetType, lengthByte length, lengthHiByte length, headerCrc, 0,
          length, crc⟩, [], messages⟩ := by
    refine @push_quiet _ _ _ receiveMessage _ rfl _ _ _ (some .recvHeaderCrc) ?_ messages
    show (if maxDataSize < (lengthHiByte length).toNat * 2 ^ 8 + (lengthByte length).toNat then _
      else _) = _
    rw [whole, if_neg (Nat.not_lt_of_le fits)]
  rw [run_cons, first, run_cons, second, run_cons, third, run_cons, fourth, run_cons, run_nil]
  refine @push_quiet _ _ _ receiveMessage _ rfl _ _ _ (some .recvBody) ?_ messages
  exact if_neg (not_not_intro rfl)

theorem run_payload {packetType headerCrc crc : UInt8} {payload : List UInt8}
    (messages : List Message) (fits : payload.length ≤ maxDataSize) :
    run (Parser.push receiveMessage)
        ⟨⟨if payload.length ≠ 0 then .recvBody else .recvCrc, som, packetType,
          lengthByte payload.length, lengthHiByte payload.length, headerCrc, 0, payload.length,
          crc⟩, [], messages⟩ payload =
      ⟨⟨.recvCrc, som, packetType, lengthByte payload.length, lengthHiByte payload.length,
        headerCrc, payload.length, payload.length, crc⟩, payload, messages⟩ := by
  by_cases nothing : payload = []
  · rw [nothing]
    rfl
  · have some : payload.length ≠ 0 := fun zero => nothing (List.length_eq_zero_iff.mp zero)
    have inv : Inv ⟨.recvBody, som, packetType, lengthByte payload.length,
        lengthHiByte payload.length, headerCrc, 0, payload.length, crc⟩ :=
      ⟨nofun, fun _ => ⟨Nat.pos_of_ne_zero some, fits⟩, nofun⟩
    have ran := run_push_body lawful inv rfl [] messages nothing (Nat.le_refl _)
    have done : onBody ⟨.recvBody, som, packetType, lengthByte payload.length,
        lengthHiByte payload.length, headerCrc, 0, payload.length, crc⟩ payload.length =
          (⟨.recvCrc, som, packetType, lengthByte payload.length, lengthHiByte payload.length,
            headerCrc, 0 + payload.length, payload.length, crc⟩, Option.some .recvCrc) :=
      if_neg (not_not_intro (Nat.zero_add _))
    rw [if_pos some, ran, List.nil_append]
    show Parser.mk (onBody _ _).1 _ _ = _
    rw [done, Nat.zero_add]

theorem frame_eq (sent : Sent) : frame sent = [som, sent.label, lengthByte sent.data.length,
    lengthHiByte sent.data.length, headerSum sent.label (lengthByte sent.data.length)
      (lengthHiByte sent.data.length)] ++ (sent.data ++ [addData
        (headerSum sent.label (lengthByte sent.data.length) (lengthHiByte sent.data.length) +
          headerSum sent.label (lengthByte sent.data.length) (lengthHiByte sent.data.length))
        sent.data]) := by
  unfold frame sendMessage
  simp

/-- The checksum. -/
theorem push_crc {members : Members} (state : members.state = .recvCrc) (data : List UInt8)
    (messages : List Message) : Parser.push receiveMessage ⟨members, data, messages⟩
        (addData members.crc (data.take members.dataSize)) =
      ⟨{ members with
          state := .preSom
          crc := addData members.crc (data.take members.dataSize) },
        data.take members.bytesReceived, messages ++
          [⟨members.packetType, if members.dataSize = 0 then none
            else some (data.take members.dataSize), members.dataSize⟩]⟩ := by
  have ⟨_, _, _, _, _, _, _, _, _⟩ := members
  cases state
  refine @push_message _ _ _ receiveMessage _ rfl _ _ _ none _ ?_ messages
  show (_, none, if _ then none else some _) = (_, none, some _)
  rw [if_neg (not_not_intro rfl)]

theorem framed : Framed receiveMessage Idle som frame Fits Sent.message where
  skips members data messages byte idle other := by
    have ⟨_, _, _, _, _, _, _, _, _⟩ := members
    cases idle
    refine ⟨_, _, push_quiet rfl (if_pos other) messages, ?_⟩
    rfl
  takes members data messages sent idle fits := by
    have same : Message.mk sent.label (if sent.data.length = 0 then none else some sent.data)
        sent.data.length = sent.message := by
      unfold Sent.message
      simp
    have last := @push_crc ⟨.recvCrc, som, sent.label, lengthByte sent.data.length,
      lengthHiByte sent.data.length, headerSum sent.label (lengthByte sent.data.length)
        (lengthHiByte sent.data.length), sent.data.length, sent.data.length,
      headerSum sent.label (lengthByte sent.data.length) (lengthHiByte sent.data.length) +
        headerSum sent.label (lengthByte sent.data.length) (lengthHiByte sent.data.length)⟩ rfl
      sent.data messages
    rw [List.take_length] at last
    rw [frame_eq, run_append, run_header idle data messages sent.label fits, run_append,
      run_payload messages fits, run_cons, run_nil, last, same]
    exact ⟨_, _, rfl, rfl⟩

end Robe

/-- In every run in which at most two reads find what the body of a frame asks for, each widget
keeps inside its buffer, gets on, and handles the frames it was sent. -/
theorem frames_delivered (events : List Event) :
    (Permitted (step UsbPro.receiveMessage) (Contiguous UsbPro.receiveMessage)
        (.start .new UsbPro.maxDataSize) events →
      Delivers UsbPro.receiveMessage UsbPro.frame UsbPro.som UsbPro.Fits Sent.message
        (run (step UsbPro.receiveMessage) (.start .new UsbPro.maxDataSize) events) events) ∧
    (Permitted (step Robe.receiveMessage) (Contiguous Robe.receiveMessage)
        (.start .new Robe.maxDataSize) events →
      Delivers Robe.receiveMessage Robe.frame Robe.som Robe.Fits Sent.message
        (run (step Robe.receiveMessage) (.start .new Robe.maxDataSize) events) events) := by
  constructor
  · intro permitted
    have initial : UsbPro.Inv .new := ⟨nofun, nofun⟩
    exact delivers_of_contiguous UsbPro.lawful UsbPro.framed initial rfl permitted
  · intro permitted
    have initial : Robe.Inv .new := ⟨nofun, nofun, nofun⟩
    exact delivers_of_contiguous Robe.lawful Robe.framed initial rfl permitted

/-- A frame of either kind that arrives in pieces, two of them for the body. -/
def usbProPieces : List Event :=
  [.arrives [9, 0x7e, 5], .goes, .goes, .goes, .goes, .goes, .arrives [3, 0, 1], .arrives [2, 3],
    .goes, .goes, .goes, .goes, .goes, .arrives [0xe7], .goes, .goes]

def robePieces : List Event :=
  [.arrives [9, 0xa5, 5], .goes, .goes, .goes, .goes, .goes, .arrives [3, 0, 0xad, 1],
    .arrives [2, 3], .goes, .goes, .goes, .goes, .goes, .goes, .arrives [0x60], .goes, .goes]

theorem frames_delivered_pieces :
    Delivers UsbPro.receiveMessage UsbPro.frame UsbPro.som UsbPro.Fits Sent.message
        (run (step UsbPro.receiveMessage) (.start .new UsbPro.maxDataSize) usbProPieces)
        usbProPieces ∧
      Delivers Robe.receiveMessage Robe.frame Robe.som Robe.Fits Sent.message
        (run (step Robe.receiveMessage) (.start .new Robe.maxDataSize) robePieces) robePieces :=
  ⟨(frames_delivered usbProPieces).1 (by decide +kernel),
    (frames_delivered robePieces).2 (by decide +kernel)⟩

/-- The body of a frame arrives in three pieces. -/
theorem third_piece_misplaced :
    ¬ Delivers UsbPro.receiveMessage UsbPro.frame UsbPro.som UsbPro.Fits Sent.message
      (run (step UsbPro.receiveMessage) (.start .new UsbPro.maxDataSize) [.arrives [0x7e, 5, 3, 0, 1],
        .arrives [2], .arrives [3, 0xe7], .goes, .goes, .goes, .goes, .goes, .goes, .goes])
      [.arrives [0x7e, 5, 3, 0, 1], .arrives [2], .arrives [3, 0xe7], .goes, .goes, .goes, .goes,
        .goes, .goes, .goes] := by
  intro delivers
  have separated : Separated UsbPro.som UsbPro.Fits [([], ⟨5, [1, 2, 3]⟩)] [] := by
    refine ⟨?_, ?_, List.not_mem_nil⟩
    · simp
    · simp [UsbPro.Fits, UsbPro.maxDataSize]
  have handled := delivers.all _ _ separated rfl ⟨rfl, rfl⟩
  exact absurd handled (by decide +kernel)

end OpenLighting.SerialWidget
