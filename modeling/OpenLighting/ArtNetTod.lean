import OpenLighting.ArtNetInputPort
import OpenLighting.ByteCodec
import OpenLighting.RdmCommandSerializer

/- The transfer of a list of UIDs: what `SendTod` sends, and what an input port of another node
makes of it. -/
namespace OpenLighting.ArtNet

open OpenLighting.Network ByteCodec List DiscoveryNode

/-- `ARTNET_ID` in its eight bytes, and the size of the header. -/
def artnetId : List UInt8 := [65, 114, 116, 45, 78, 101, 116, 0]
def headerSize : Nat := 10

def artnetTodData : UInt16 := 0x8100

def maxUidsPerUniverse : Nat := 0xffff

/-- `sizeof` an `artnet_toddata_t`, and an `artnet_packet`, of which it is the largest member. -/
def todDataSize : Nat := todHeaderSize + artnetMaxUidCount * 6
def packetSize : Nat := headerSize + todDataSize

namespace TodData

/-- The structure in memory up to the UIDs. -/
def fields (packet : TodData) : List UInt8 :=
  bigEndian 2 packet.version.toNat ++ ([packet.rdmVersion] ++ ([packet.port] ++
    (List.replicate 7 0 ++ ([packet.net] ++ ([packet.commandResponse] ++ ([packet.address] ++
      (bigEndian 2 packet.uidTotal.toNat ++ ([packet.blockCount] ++ [packet.uidCount]))))))))

/-- The structure in memory. -/
def bytes (packet : TodData) : List UInt8 := packet.fields ++ packet.tod.flatMap UID.pack

def entries : Nat → List UInt8 → List UID
  | 0, _ => []
  | count + 1, bytes => UID.unpack bytes :: entries count (bytes.drop 6)

theorem length_entries (count : Nat) (bytes : List UInt8) :
    (entries count bytes).length = count := by
  induction count generalizing bytes with
  | zero => rfl
  | succ count ih => rw [entries, length_cons, ih]

/-- The structure that these bytes are. -/
def reader : Reader TodData := do
  let version ← uint16
  let rdmVersion ← uint8
  let port ← uint8
  let _ ← take 7
  let net ← uint8
  let commandResponse ← uint8
  let address ← uint8
  let uidTotal ← uint16
  let blockCount ← uint8
  let uidCount ← uint8
  let tod ← take (artnetMaxUidCount * 6)
  pure ⟨version, rdmVersion, port, net, commandResponse, address, uidTotal, blockCount, uidCount,
    entries artnetMaxUidCount tod, length_entries artnetMaxUidCount tod⟩

end TodData

/-- What `PopulatePacketHeader` writes. The op code is little endian. -/
def todDataHeader : List UInt8 :=
  artnetId ++ [artnetTodData.toUInt8, (artnetTodData >>> 8).toUInt8]

/-- What is in memory from the start of an `artnet_packet` with this TOD on. Nothing is known of
the bytes behind the structure. -/
def packetMemory (packet : TodData) (offset : Nat) : Option UInt8 :=
  (todDataHeader ++ packet.bytes)[offset]?

/-- The bytes that are given to the socket, those of unknown content as `none`. -/
abbrev Datagram := List (Option UInt8)

def sendPacket (packet : TodData) (size : Nat) : Datagram :=
  (List.range (headerSize + size)).map (packetMemory packet)

/-- The loop of `SendTod`: the packet that is filled, the entry `ptr` points to, the number of
UIDs so far and what was sent. -/
structure TodLoop where
  packet : TodData
  ptr : Nat
  i : Nat
  sent : List Datagram

def TodLoop.add (state : TodLoop) (uid : UID) : TodLoop :=
  let packet := { state.packet with
    tod := state.packet.tod.set state.ptr uid
    full := by rw [List.length_set, state.packet.full] }
  let i := state.i + 1
  if i % artnetMaxUidCount = 0 then
    let packet := { packet with blockCount := UInt8.ofNat (i / artnetMaxUidCount - 1) }
    ⟨packet, 0, i, state.sent ++ [sendPacket packet todDataSize]⟩
  else ⟨packet, state.ptr + 1, i, state.sent⟩

def TodLoop.finish (state : TodLoop) : List Datagram :=
  if state.i = 0 ∨ state.i % artnetMaxUidCount ≠ 0 then
    let packet := { state.packet with
      uidCount := UInt8.ofNat (state.i % artnetMaxUidCount)
      blockCount := UInt8.ofNat (state.i / artnetMaxUidCount) }
    state.sent ++ [sendPacket packet (todHeaderSize + state.i * 6)]
  else state.sent

/-- The packet before the loop. -/
def emptyTod (node : ArtNetNode) (portId : Fin artnetMaxPorts) (uids : UIDSet) : TodData where
  version := artnetVersion
  rdmVersion := rdmVersion
  port := 1 + UInt8.ofNat portId
  net := node.netAddress
  commandResponse := 0
  address := (node.outputPorts portId).universeAddress
  uidTotal := UInt16.ofNat (min uids.card maxUidsPerUniverse)
  blockCount := 0
  uidCount := UInt8.ofNat artnetMaxUidCount
  tod := List.replicate artnetMaxUidCount ⟨0, 0⟩
  full := List.length_replicate

def sendTod (running : Bool) (node : ArtNetNode) (portId : Fin artnetMaxPorts) (uids : UIDSet) :
    List Datagram × Bool :=
  if running = true ∧ (node.outputPorts portId).enabled = true then
    ((uids.ascending.foldl TodLoop.add ⟨emptyTod node portId uids, 0, 0, []⟩).finish, true)
  else ([], false)

/-- A datagram that arrives: the bytes, and the memory that they are written to. -/
structure Reception where
  bytes : List UInt8
  memory : List UInt8
  full : memory.length = packetSize

/-- The content of the `artnet_packet` in `SocketReady`. -/
def Reception.packet (reception : Reception) : List UInt8 :=
  reception.bytes.take packetSize ++ reception.memory.drop reception.bytes.length

/-- `SocketReady` and `HandlePacket`, for ArtTodData packets. -/
def DiscoveryNode.socketReady (node : DiscoveryNode) (source : IPV4Address)
    (reception : Reception) : DiscoveryNode :=
  let size := min reception.bytes.length packetSize
  if size ≤ headerSize then node
  else if (reception.packet.take headerSize).drop 8 = todDataHeader.drop 8 then
    match TodData.reader.run' (reception.packet.drop headerSize) with
    | none => node
    | some packet => (node.handleTodData source packet (size - headerSize)).1
  else node

/-- What can arrive when a datagram is sent. -/
def Carried (datagram : Datagram) (reception : Reception) : Prop :=
  List.Forall₂ (fun cell byte => ∀ value ∈ cell, byte = value) datagram reception.bytes

/-- The datagrams stay within the packet and are initialised, and an input port that gets them has
the UIDs afterwards, all from the sender. -/
def Transfers (datagrams : List Datagram) (source : IPV4Address) (receiver : DiscoveryNode)
    (uids : UIDSet) : Prop :=
  (∀ datagram ∈ datagrams, datagram.length ≤ packetSize ∧ none ∉ datagram) ∧
    ∀ receptions, List.Forall₂ Carried datagrams receptions →
      ∀ uid, ((receptions.foldl (fun node reception => node.socketReady source reception)
          receiver).port.uids.lookup uid).map Prod.fst = if uid ∈ uids then some source else none

/-! ### The bytes of a packet -/

variable (uids : List UID)

theorem length_flatMap_pack : (uids.flatMap UID.pack).length = uids.length * 6 := by
  induction uids with
  | nil => rfl
  | cons uid rest ih =>
    rw [flatMap_cons, length_append, ih, length_cons,
      show uid.pack.length = 6 from rfl]
    omega

namespace TodData

variable (packet : TodData)

@[simp] theorem length_fields : packet.fields.length = todHeaderSize := by
  simp [fields, todHeaderSize]

theorem take_flatMap_pack (count : Nat) :
    (uids.flatMap UID.pack).take (count * 6) = (uids.take count).flatMap UID.pack := by
  induction uids generalizing count with
  | nil => simp
  | cons uid rest ih =>
    cases count with
    | zero => simp
    | succ count =>
      have longer : (count + 1) * 6 = uid.pack.length + count * 6 := by
        rw [show uid.pack.length = 6 from rfl]
        omega
      rw [flatMap_cons, longer, take_length_add_append, ih, take_succ_cons,
        flatMap_cons]

/-- The entries that were written are found again, whatever is behind them. -/
theorem take_entries (count : Nat) (rest : List UInt8) (fits : uids.length ≤ count) :
    (entries count (uids.flatMap UID.pack ++ rest)).take uids.length = uids := by
  induction uids generalizing count with
  | nil => rw [length_nil, take_zero]
  | cons uid others ih =>
    cases count with
    | zero => simp at fits
    | succ count =>
      have first : UID.unpack (uid.pack ++ (others.flatMap UID.pack ++ rest)) = uid :=
        Rdm.unpack_pack uid
      rw [flatMap_cons, append_assoc, entries, first, length_cons,
        take_succ_cons, show 6 = uid.pack.length from rfl, drop_left,
        ih count (by simpa using fits)]

/-- A packet with other UIDs. -/
def withTod (tod : List UInt8) : TodData :=
  { packet with
    tod := entries artnetMaxUidCount tod
    full := length_entries artnetMaxUidCount tod }

theorem reads {tod : List UInt8} (whole : tod.length = artnetMaxUidCount * 6) :
    Reads reader (packet.fields ++ tod) (packet.withTod tod) := by
  unfold fields
  apply (reads_uint16 packet.version).bind
  apply (reads_byte packet.rdmVersion).bind
  apply (reads_byte packet.port).bind
  apply (reads_take_of_length (length_replicate)).bind
  apply (reads_byte packet.net).bind
  apply (reads_byte packet.commandResponse).bind
  apply (reads_byte packet.address).bind
  apply (reads_uint16 packet.uidTotal).bind
  apply (reads_byte packet.blockCount).bind
  apply (reads_byte packet.uidCount).bind
  apply (reads_take_of_length whole).last
  exact reads_pure _

end TodData

theorem length_todDataHeader : todDataHeader.length = headerSize := rfl

theorem length_packet (packet : TodData) : (todDataHeader ++ packet.bytes).length = packetSize := by
  rw [length_append, length_todDataHeader, TodData.bytes, length_append,
    TodData.length_fields, length_flatMap_pack, packet.full]
  rfl

@[simp] theorem length_sendPacket (packet : TodData) (size : Nat) :
    (sendPacket packet size).length = headerSize + size := by
  rw [sendPacket, length_map, length_range]

variable {size : Nat} {base : TodData} {block seen done : List UID} {source : IPV4Address}
  {blocks : List (List UID)} {state : TodLoop}

/-- Within the structure every byte is known. -/
theorem sendPacket_within (packet : TodData) (within : size ≤ todDataSize) :
    sendPacket packet size =
      ((todDataHeader ++ packet.bytes).take (headerSize + size)).map some := by
  have whole := length_packet packet
  have enough : headerSize + size ≤ (todDataHeader ++ packet.bytes).length := by
    rw [whole, packetSize]
    omega
  apply ext_getElem
  · rw [length_sendPacket, length_map, length_take]
    omega
  · intro offset left right
    rw [length_sendPacket] at left
    simp only [sendPacket, packetMemory, getElem_map, getElem_range, getElem_take]
    exact List.getElem?_eq_getElem (by omega)

/-- The bytes of a packet that is sent with a number of its UIDs. -/
theorem take_packet (packet : TodData) (count : Nat) :
    (todDataHeader ++ packet.bytes).take (headerSize + (todHeaderSize + count * 6)) =
      todDataHeader ++ (packet.fields ++ (packet.tod.take count).flatMap UID.pack) := by
  rw [← length_todDataHeader, take_length_add_append, TodData.bytes,
    ← TodData.length_fields packet, take_length_add_append, TodData.take_flatMap_pack]

theorem carried_known {bytes : List UInt8} {reception : Reception}
    (carried : Carried (bytes.map some) reception) : reception.bytes = bytes := by
  unfold Carried at carried
  rw [forall₂_map_left_iff] at carried
  have same : List.Forall₂ (fun sent arrived => sent = arrived) bytes reception.bytes :=
    carried.imp (fun sent arrived equal => (equal sent rfl).symm)
  rw [forall₂_eq_eq_eq] at same
  exact same.symm

/-- What the packets of one transfer have in common. -/
structure Like (base packet : TodData) : Prop where
  version : packet.version = base.version
  rdmVersion : packet.rdmVersion = base.rdmVersion
  net : packet.net = base.net
  commandResponse : packet.commandResponse = base.commandResponse
  address : packet.address = base.address
  uidTotal : packet.uidTotal = base.uidTotal

theorem Like.update {base packet : TodData} (like : Like base packet) (blockCount uidCount : UInt8)
    (tod : List UID) (full : tod.length = artnetMaxUidCount) :
    Like base { packet with
      blockCount := blockCount
      uidCount := uidCount
      tod := tod
      full := full } :=
  { like with }

structure CarriesBlock (base : TodData) (datagram : Datagram) (block : List UID) : Prop where
  short : block.length ≤ artnetMaxUidCount
  sent : ∃ packet : TodData, Like base packet ∧
    datagram = sendPacket packet (todHeaderSize + block.length * 6) ∧
    packet.uidCount.toNat = block.length ∧ packet.tod.take block.length = block

theorem carriesBlock_sendPacket {packet : TodData} (short : block.length ≤ artnetMaxUidCount)
    (like : Like base packet) (length : size = todHeaderSize + block.length * 6)
    (uidCount : packet.uidCount.toNat = block.length) (tod : packet.tod.take block.length = block) :
    CarriesBlock base (sendPacket packet size) block := by
  subst length
  exact ⟨short, packet, like, rfl, uidCount, tod⟩

/-- What the receiver makes of such a datagram. -/
structure Arrives (base packet : TodData) (size : Nat) (block : List UID) : Prop where
  like : Like base packet
  size_eq : size = todHeaderSize + block.length * 6
  uidCount : packet.uidCount.toNat = block.length
  tod : packet.tod.take block.length = block

theorem CarriesBlock.arrives {datagram : Datagram} (carries : CarriesBlock base datagram block)
    {reception : Reception} (carried : Carried datagram reception) (node : DiscoveryNode)
    (source : IPV4Address) :
    ∃ packet size, Arrives base packet size block ∧
      node.socketReady source reception = (node.handleTodData source packet size).1 := by
  obtain ⟨short, packet, like, rfl, uidCount, tod⟩ := carries
  have fits : todHeaderSize + block.length * 6 ≤ todDataSize := by
    unfold todDataSize
    omega
  rw [sendPacket_within packet fits, take_packet, tod] at carried
  have bytes := carried_known carried
  have length : reception.bytes.length = headerSize + (todHeaderSize + block.length * 6) := by
    rw [bytes, length_append, length_append, length_todDataHeader,
      TodData.length_fields, length_flatMap_pack]
  have whole : reception.bytes.length ≤ packetSize := by
    rw [length, packetSize]
    omega
  -- The UIDs, and what was in memory before behind them.
  let rest := block.flatMap UID.pack ++ reception.memory.drop reception.bytes.length
  have lengthRest : rest.length = artnetMaxUidCount * 6 := by
    rw [length_append, length_flatMap_pack, length_drop, reception.full, length]
    unfold packetSize todDataSize at *
    omega
  have memory : reception.packet = todDataHeader ++ (packet.fields ++ rest) := by
    rw [Reception.packet, take_of_length_le whole, bytes, append_assoc,
      append_assoc, ← bytes]
  refine ⟨packet.withTod rest, todHeaderSize + block.length * 6, ⟨?_, rfl, uidCount, ?_⟩, ?_⟩
  · exact like.update _ _ _ _
  · exact TodData.take_entries block artnetMaxUidCount _ short
  · have large : ¬ min reception.bytes.length packetSize ≤ headerSize := by
      rw [Nat.min_eq_left whole, length]
      unfold todHeaderSize
      omega
    have code : (reception.packet.take headerSize).drop 8 = todDataHeader.drop 8 := by
      rw [memory, ← length_todDataHeader, take_left]
    have read : TodData.reader.run' (reception.packet.drop headerSize) =
        some (packet.withTod rest) := by
      rw [memory, ← length_todDataHeader, drop_left]
      exact (packet.reads lengthRest).run'
    unfold socketReady
    rw [if_neg large, if_pos code, read, Nat.min_eq_left whole, length, Nat.add_sub_cancel_left]

/-! ### The receiver -/

/-- The port has these UIDs, all from one node that was just heard. -/
def Holds (source : IPV4Address) (seen : List UID) (node : DiscoveryNode) : Prop :=
  ∀ uid, node.port.uids.lookup uid = if uid ∈ seen then some (source, 0) else none

theorem Holds.filter {uids : UidMap} {check : UID → IPV4Address × UInt8 → Bool}
    (holds : ∀ uid, uids.lookup uid = if uid ∈ seen then some (source, 0) else none)
    (passes : ∀ uid ∈ seen, check uid (source, 0) = true) (uid : UID) :
    (FiniteMap.filter check uids).lookup uid = if uid ∈ seen then some (source, 0) else none := by
  rw [FiniteMap.lookup_filter, holds uid]
  split
  · rename_i member
    exact Option.filter_eq_some_iff.mpr ⟨rfl, passes uid member⟩
  · rfl

theorem Holds.known {node : DiscoveryNode} (holds : Holds source seen node) {packet : TodData}
    (all : DiscoveryNode.complete packet size = true → seen ⊆ DiscoveryNode.received packet size)
    (uid : UID) :
    (DiscoveryNode.known node.port.uids source packet size).lookup uid =
      if uid ∈ seen ++ DiscoveryNode.received packet size then some (source, 0) else none := by
  have seeing (uid : UID) : (see source (received packet size)
      node.port.uids).lookup uid =
        if uid ∈ seen ++ received packet size then some (source, 0) else none := by
    rw [lookup_see, holds uid]
    by_cases new : uid ∈ received packet size
    · rw [if_pos new, if_pos (mem_append_right seen new)]
    · simp [new]
  unfold DiscoveryNode.known
  by_cases whole : DiscoveryNode.complete packet size = true
  · simp only [if_pos whole]
    apply Holds.filter seeing
    intro other member
    have inside : other ∈ received packet size := by
      rcases mem_append.mp member with old | new
      · exact all whole old
      · exact new
    simp [gone, inside]
  · simp only [if_neg whole]
    exact seeing uid

/-- The port listens for the packets of the sender. -/
def Listens (base : TodData) (node : DiscoveryNode) : Prop :=
  node.place = (base.net, true, base.address)

theorem Holds.step {base packet : TodData} {size : Nat} {block seen : List UID}
    {source : IPV4Address} {node : DiscoveryNode} (holds : Holds source seen node)
    (listens : Listens base node) (arrives : Arrives base packet size block)
    (standard : base.version = artnetVersion ∧ base.rdmVersion = rdmVersion ∧
      base.commandResponse = 0)
    (all : base.uidTotal.toNat ≤ block.length → seen ⊆ block) :
    Holds source (seen ++ block) (node.handleTodData source packet size).1 := by
  have count : min ((size - todHeaderSize) / 6) packet.uidCount.toNat = block.length := by
    have size := arrives.size_eq
    have uids := arrives.uidCount
    omega
  have received : received packet size = block := by
    rw [received, count, arrives.tod]
  have whole : complete packet size = true → seen ⊆ block := by
    intro complete
    rw [DiscoveryNode.complete, count, arrives.like.uidTotal] at complete
    exact all (of_decide_eq_true complete)
  have accepted : node.accepts packet size = true := by
    unfold Listens place at listens
    simp only [Prod.mk.injEq] at listens
    have large : todHeaderSize ≤ size := by
      rw [arrives.size_eq]
      omega
    simp [accepts, large, arrives.like.version, arrives.like.rdmVersion,
      arrives.like.net, arrives.like.commandResponse, arrives.like.address, standard, listens]
  rw [handleTodData, if_pos accepted]
  have known := holds.known (received.symm ▸ whole)
  rw [received] at known
  intro uid
  rcases node.updatePortFromTodPacket_uids source packet size with uids | uids
  · rw [uids, known uid]
  · rw [uids]
    exact Holds.filter known (fun _ _ => rfl) uid

/-- The blocks arrive one after the other. -/
theorem Holds.run {datagrams : List Datagram} {receptions : List Reception}
    (carries : List.Forall₂ (CarriesBlock base) datagrams blocks)
    (carried : List.Forall₂ Carried datagrams receptions)
    (standard : base.version = artnetVersion ∧ base.rdmVersion = rdmVersion ∧
      base.commandResponse = 0) {node : DiscoveryNode} (holds : Holds source seen node)
    (listens : Listens base node)
    (all : ∀ block ∈ blocks, base.uidTotal.toNat ≤ block.length → seen ++ blocks.flatten ⊆ block) :
    Holds source (seen ++ blocks.flatten)
      (receptions.foldl (fun node reception => node.socketReady source reception) node) := by
  induction carries generalizing receptions seen node with
  | nil =>
    cases carried
    rw [flatten_nil, append_nil]
    exact holds
  | @cons datagram block datagrams blocks first rest ih =>
    cases carried with
    | @cons _ reception _ receptions arrival later =>
      obtain ⟨packet, size, arrives, ready⟩ := first.arrives arrival node source
      rw [foldl_cons, flatten_cons, ← append_assoc, ready]
      have before : base.uidTotal.toNat ≤ block.length → seen ⊆ block := by
        intro enough uid member
        exact all block mem_cons_self enough (mem_append_left _ member)
      apply ih later (holds.step listens arrives standard before)
      · exact (node.place_handleTodData source packet size).trans listens
      · intro other member enough
        rw [append_assoc, ← flatten_cons]
        exact all other (mem_cons_of_mem block member) enough

/-! ### The sender -/

/-- Where the loop is: whole blocks were sent, and the UIDs since then are in the packet. -/
structure Filled (base : TodData) (done : List UID) (state : TodLoop) (blocks : List (List UID)) :
    Prop where
  like : Like base state.packet
  uidCount : state.packet.uidCount = UInt8.ofNat artnetMaxUidCount
  i : state.i = done.length
  ptr : state.ptr = done.length % artnetMaxUidCount
  split : done = blocks.flatten ++ state.packet.tod.take state.ptr
  sent : List.Forall₂ (CarriesBlock base) state.sent blocks

theorem take_set (uid : UID) {index : Nat} (inside : index < uids.length) :
    (uids.set index uid).take (index + 1) = uids.take index ++ [uid] := by
  rw [take_add_one, List.getElem?_set_self inside, take_set_of_le (Nat.le_refl index)]
  rfl

theorem Filled.add (filled : Filled base done state blocks) (uid : UID) :
    ∃ blocks, Filled base (done ++ [uid]) (state.add uid) blocks := by
  have i := filled.i
  have ptr := filled.ptr
  have longer : (done ++ [uid]).length = done.length + 1 := length_append
  have inside : state.ptr < artnetMaxUidCount := by
    rw [ptr]
    exact Nat.mod_lt _ (by decide)
  have entered : (state.packet.tod.set state.ptr uid).take (state.ptr + 1) =
      state.packet.tod.take state.ptr ++ [uid] :=
    take_set _ uid (by rw [state.packet.full]; exact inside)
  unfold TodLoop.add
  by_cases whole : (state.i + 1) % artnetMaxUidCount = 0
  · rw [if_pos whole]
    have last : state.ptr + 1 = artnetMaxUidCount := by
      unfold artnetMaxUidCount at *
      omega
    have length : (state.packet.tod.take state.ptr ++ [uid]).length = artnetMaxUidCount := by
      rw [← entered, length_take, length_set, state.packet.full, last, Nat.min_self]
    refine ⟨blocks ++ [state.packet.tod.take state.ptr ++ [uid]], ⟨filled.like.update _ _ _ _,
      filled.uidCount, by rw [i, longer], ?_, ?_, ?_⟩⟩
    · rw [longer, ← i, whole]
    · rw [take_zero, append_nil, flatten_append, flatten_singleton,
        ← append_assoc, ← filled.split]
    · apply rel_append filled.sent
      apply List.Forall₂.cons _ List.Forall₂.nil
      apply carriesBlock_sendPacket (Nat.le_of_eq length) (filled.like.update _ _ _ _)
      · rw [length]
        rfl
      · rw [length]
        exact congrArg UInt8.toNat filled.uidCount
      · rw [length, ← last]
        exact entered
  · rw [if_neg whole]
    refine ⟨blocks, ⟨filled.like.update _ _ _ _, filled.uidCount, by rw [i, longer], ?_, ?_,
      filled.sent⟩⟩
    · dsimp only
      rw [longer]
      unfold artnetMaxUidCount at *
      omega
    · rw [entered, ← append_assoc, ← filled.split]

theorem Filled.run (filled : Filled base done state blocks) (uids : List UID) :
    ∃ blocks, Filled base (done ++ uids) (uids.foldl TodLoop.add state) blocks := by
  induction uids generalizing done state blocks with
  | nil =>
    rw [append_nil]
    exact ⟨blocks, filled⟩
  | cons uid rest ih =>
    obtain ⟨blocks, filled⟩ := filled.add uid
    obtain ⟨blocks, filled⟩ := ih filled
    refine ⟨blocks, ?_⟩
    rw [← append_cons] at filled
    exact filled

/-- The last packet is right when its size is: when it is the only one, or there is none. -/
theorem Filled.finish (filled : Filled base done state blocks)
    (fits : done.length ≤ artnetMaxUidCount ∨ artnetMaxUidCount ∣ done.length) :
    ∃ blocks, blocks.flatten = done ∧ List.Forall₂ (CarriesBlock base) state.finish blocks := by
  have i := filled.i
  have ptr := filled.ptr
  unfold TodLoop.finish
  split
  · have same : state.ptr = state.i := by
      unfold artnetMaxUidCount at *
      omega
    have short : state.ptr < artnetMaxUidCount := by
      rw [ptr]
      exact Nat.mod_lt _ (by decide)
    have length : (state.packet.tod.take state.ptr).length = state.ptr := by
      rw [length_take, state.packet.full]
      omega
    refine ⟨blocks ++ [state.packet.tod.take state.ptr], ?_, ?_⟩
    · rw [flatten_append, flatten_singleton, ← filled.split]
    · apply rel_append filled.sent
      apply List.Forall₂.cons _ List.Forall₂.nil
      apply carriesBlock_sendPacket (by omega) (filled.like.update _ _ _ _)
      · rw [length, same]
      · have small : state.ptr < 2 ^ 8 := Nat.lt_trans short (by decide)
        rw [length, i, ← ptr]
        exact UInt8.toNat_ofNat_of_lt' small
      · rw [length]
  · refine ⟨blocks, ?_, filled.sent⟩
    have none : state.ptr = 0 := by
      unfold artnetMaxUidCount at *
      omega
    have split := filled.split
    rw [none, take_zero, append_nil] at split
    exact split.symm

theorem filled_emptyTod (node : ArtNetNode) (portId : Fin artnetMaxPorts) (uids : UIDSet) :
    Filled (emptyTod node portId uids) [] ⟨emptyTod node portId uids, 0, 0, []⟩ [] :=
  ⟨⟨rfl, rfl, rfl, rfl, rfl, rfl⟩, rfl, rfl, rfl, rfl, List.Forall₂.nil⟩

theorem CarriesBlock.within {datagram : Datagram} (carries : CarriesBlock base datagram block) :
    datagram.length ≤ packetSize ∧ none ∉ datagram := by
  obtain ⟨short, packet, like, rfl, uidCount, tod⟩ := carries
  have fits : todHeaderSize + block.length * 6 ≤ todDataSize := by
    unfold todDataSize
    omega
  constructor
  · rw [length_sendPacket, packetSize]
    omega
  · rw [sendPacket_within packet fits]
    intro member
    obtain ⟨byte, _, unknown⟩ := mem_map.mp member
    cases unknown

theorem forall₂_within {datagrams : List Datagram}
    (carries : List.Forall₂ (CarriesBlock base) datagrams blocks) :
    ∀ datagram ∈ datagrams, datagram.length ≤ packetSize ∧ none ∉ datagram := by
  induction carries with
  | nil => simp
  | cons first _ ih =>
    intro datagram member
    rcases mem_cons.mp member with rfl | later
    · exact first.within
    · exact ih datagram later

section Transfer
variable (node : ArtNetNode) (portId : Fin artnetMaxPorts) (uids : UIDSet)

theorem length_ascending : uids.ascending.length = uids.card := Finset.length_sort (· ≤ ·)

/-- Where the loop ends. -/
theorem filled_uids : ∃ blocks, Filled (emptyTod node portId uids) uids.ascending
    (uids.ascending.foldl TodLoop.add ⟨emptyTod node portId uids, 0, 0, []⟩) blocks :=
  (filled_emptyTod node portId uids).run uids.ascending

/-- A last packet after others is sent with the size of all UIDs. -/
theorem last_too_long (large : artnetMaxUidCount < uids.card)
    (part : ¬ artnetMaxUidCount ∣ uids.card) :
    ∃ datagram ∈ (uids.ascending.foldl TodLoop.add ⟨emptyTod node portId uids, 0, 0, []⟩).finish,
      packetSize < datagram.length := by
  obtain ⟨blocks, filled⟩ := filled_uids node portId uids
  have i := filled.i
  rw [length_ascending] at i
  have sent : ∃ packet, sendPacket packet (todHeaderSize + uids.card * 6) ∈
      (uids.ascending.foldl TodLoop.add ⟨emptyTod node portId uids, 0, 0, []⟩).finish := by
    unfold TodLoop.finish
    rw [if_pos (Or.inr (by rw [i]; exact fun whole => part (Nat.dvd_of_mod_eq_zero whole))), i]
    exact ⟨_, mem_append_right _ mem_cons_self⟩
  obtain ⟨packet, member⟩ := sent
  refine ⟨_, member, ?_⟩
  rw [length_sendPacket, packetSize, todDataSize]
  omega

/-- The UIDs get over when there is one packet, or all packets are full. -/
theorem transfers_of_fits {source : IPV4Address} {receiver : DiscoveryNode}
    (bounded : uids.card ≤ maxUidsPerUniverse)
    (listens : receiver.place =
      (node.netAddress, true, (node.outputPorts portId).universeAddress))
    (empty : receiver.port.uids = ∅)
    (fits : uids.card ≤ artnetMaxUidCount ∨ artnetMaxUidCount ∣ uids.card) :
    Transfers (uids.ascending.foldl TodLoop.add ⟨emptyTod node portId uids, 0, 0, []⟩).finish
      source receiver uids := by
  obtain ⟨blocks, filled⟩ := filled_uids node portId uids
  rw [← length_ascending] at fits
  obtain ⟨blocks, all, carries⟩ := filled.finish fits
  refine ⟨forall₂_within carries, ?_⟩
  intro receptions carried uid
  have total : (emptyTod node portId uids).uidTotal.toNat = uids.card := by
    have small : uids.card < 2 ^ 16 := Nat.lt_of_le_of_lt bounded (by decide)
    show (UInt16.ofNat (min uids.card maxUidsPerUniverse)).toNat = uids.card
    rw [Nat.min_eq_left bounded, UInt16.toNat_ofNat_of_lt' small]
  have start : Holds source [] receiver := by
    intro uid
    rw [empty, AList.lookup_empty, if_neg not_mem_nil]
  have whole : ∀ block ∈ blocks, (emptyTod node portId uids).uidTotal.toNat ≤ block.length →
      [] ++ blocks.flatten ⊆ block := by
    intro block member enough
    rw [total, ← length_ascending, ← all] at enough
    rw [nil_append, (sublist_flatten_of_mem member).eq_of_length_le enough]
    exact List.Subset.refl _
  have holds := start.run carries carried ⟨rfl, rfl, rfl⟩ listens whole
  rw [nil_append, all] at holds
  rw [holds uid]
  by_cases member : uid ∈ uids
  · rw [if_pos ((UIDSet.mem_ascending uids uid).mpr member), if_pos member]
    rfl
  · rw [if_neg (fun inside => member ((UIDSet.mem_ascending uids uid).mp inside)), if_neg member]
    rfl

end Transfer

/-- A list of UIDs gets over as it should if and only if it fits into one packet or into full
ones. -/
theorem transfers_iff (node : ArtNetNode) (portId : Fin artnetMaxPorts) (uids : UIDSet)
    (source : IPV4Address) (receiver : DiscoveryNode)
    (enabled : (node.outputPorts portId).enabled = true)
    (bounded : uids.card ≤ maxUidsPerUniverse)
    (listens : receiver.place =
      (node.netAddress, true, (node.outputPorts portId).universeAddress))
    (empty : receiver.port.uids = ∅) :
    Transfers (sendTod true node portId uids).1 source receiver uids ↔
      uids.card ≤ artnetMaxUidCount ∨ artnetMaxUidCount ∣ uids.card := by
  rw [sendTod, if_pos ⟨rfl, enabled⟩]
  constructor
  · intro transfers
    by_contra neither
    rw [not_or, not_le] at neither
    obtain ⟨datagram, member, long⟩ := last_too_long node portId uids neither.1 neither.2
    have short := (transfers.1 datagram member).1
    omega
  · exact transfers_of_fits node portId uids bounded listens empty

def universeOneNode : ArtNetNode where
  netAddress := 0
  inputPorts := []
  outputPorts _ := { OutputPort.initial with
    universeAddress := 1
    enabled := true }

/-- A node with an input port for universe 1 that knows no UIDs. -/
def universeOneReceiver : DiscoveryNode where
  running := true
  netAddress := 0
  port := ⟨true, 1, ∅, ∅, false, none, ∅, none⟩
  timeouts := []
  nextTimeout := 0

def firstUids (count : Nat) : UIDSet := (Finset.range count).image UID.ofNat

theorem card_firstUids {count : Nat} (bound : count ≤ 2 ^ 48) : (firstUids count).card = count := by
  unfold firstUids
  rw [Finset.card_image_of_injOn, Finset.card_range]
  intro left leftMember right rightMember same
  rw [Finset.coe_range, Set.mem_Iio] at leftMember rightMember
  rw [← UID.toNat_ofNat (Nat.lt_of_lt_of_le leftMember bound),
    ← UID.toNat_ofNat (Nat.lt_of_lt_of_le rightMember bound), same]

theorem transfers_two_full_packets :
    Transfers (sendTod true universeOneNode ArtNetNode.firstPort (firstUids 400)).1 ⟨10, 0, 0, 1⟩
      universeOneReceiver (firstUids 400) := by
  have card : (firstUids 400).card = 400 := card_firstUids (by decide)
  exact (transfers_iff universeOneNode ArtNetNode.firstPort (firstUids 400) ⟨10, 0, 0, 1⟩
    universeOneReceiver rfl (by rw [card]; decide) rfl rfl).mpr (Or.inr (by rw [card]; decide))

/-- With 201 UIDs, the second packet is longer than the structure. -/
theorem todData_overread :
    ¬ Transfers (sendTod true universeOneNode ArtNetNode.firstPort (firstUids 201)).1 ⟨10, 0, 0, 1⟩
      universeOneReceiver (firstUids 201) := by
  have card : (firstUids 201).card = 201 := card_firstUids (by decide)
  intro transfers
  obtain ⟨datagram, member, long⟩ := last_too_long universeOneNode ArtNetNode.firstPort (firstUids 201)
    (by rw [card]; decide) (by rw [card]; decide)
  have short := (transfers.1 datagram member).1
  omega

end OpenLighting.ArtNet
