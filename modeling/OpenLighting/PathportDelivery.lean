import OpenLighting.PathportNode

namespace OpenLighting.Pathport

open OpenLighting.Network ByteCodec TransitionSystem DmxBuffer PathportNode

variable {bytes : List UInt8}

theorem reading_of_consumes {α : Type} {reader : Reader α} {count : Nat}
    (consumes : Consumes reader count) (enough : count ≤ bytes.length) :
    ∃ value, reading reader bytes = .ok (value, bytes.drop count) := by
  have ⟨value, read⟩ := consumes bytes enough
  refine ⟨value, ?_⟩
  rw [reading, read]

theorem reading_of_reads {α : Type} {reader : Reader α} {value : α}
    (reads : Reads reader bytes value) (rest : List UInt8) :
    reading reader (bytes ++ rest) = .ok (value, rest) := by
  rw [reading, reads rest]

theorem consumes_header : Consumes readHeader headerSize :=
  consumes_uint16.bind fun _ => consumes_uint8.bind fun _ => consumes_uint8.bind fun _ =>
    consumes_uint16.bind fun _ => (consumes_take 6).bind fun _ => consumes_uint32.bind fun _ =>
      consumes_uint32.bind fun _ => consumes_pure _

theorem consumes_pduHeader : Consumes readPduHeader pduHeaderSize :=
  consumes_uint16.bind fun _ => consumes_uint16.bind fun _ => consumes_pure _

theorem consumes_pduData : Consumes readPduData pduDataSize :=
  consumes_uint16.bind fun _ => consumes_uint16.bind fun _ => consumes_uint8.bind fun _ =>
    consumes_uint8.bind fun _ => consumes_uint16.bind fun _ => consumes_pure _

theorem reads_header (header : Header) : Reads readHeader header.pack header := by
  unfold readHeader Header.pack
  apply Reads.bind (reads_uint16 _)
  apply Reads.bind (reads_byte _)
  apply Reads.bind (reads_byte _)
  apply Reads.bind (reads_uint16 _)
  apply Reads.bind (reads_take_of_length List.length_replicate)
  apply Reads.bind (reads_uint32 _)
  exact (reads_uint32 _).last (reads_pure _)

theorem reads_pduHeader (header : PduHeader) : Reads readPduHeader header.pack header := by
  apply Reads.bind (reads_uint16 _)
  exact (reads_uint16 _).last (reads_pure _)

theorem reads_pduData (head : PduData) : Reads readPduData head.pack head := by
  unfold readPduData PduData.pack
  apply Reads.bind (reads_uint16 _)
  apply Reads.bind (reads_uint16 _)
  apply Reads.bind (reads_byte _)
  apply Reads.bind (reads_byte _)
  exact (reads_uint16 _).last (reads_pure _)

@[simp] theorem length_header (header : Header) : header.pack.length = headerSize := by
  simp [Header.pack, headerSize]

@[simp] theorem length_pduHeader (header : PduHeader) : header.pack.length = pduHeaderSize := by
  simp [PduHeader.pack, pduHeaderSize]

@[simp] theorem length_pduData (head : PduData) : head.pack.length = pduDataSize := by
  simp [PduData.pack, pduDataSize]

/-- What holds of a node between two calls: handlers are for universes in range and have a buffer
of their own, and a buffer has no slots or all. -/
structure Ready (node : PathportNode) : Prop where
  ranged : ∀ universeId handler, node.handlers.lookup universeId = some handler →
    universeId.toNat ≤ maxUniverses
  apart : ∀ first second handler other, node.handlers.lookup first = some handler →
    node.handlers.lookup second = some other → handler.buffer = other.buffer → first = second
  whole : ∀ buffer, (node.buffers buffer).prepared.size = dmxUniverseSize

/-- A slot lies among some channels that are counted over all universes. -/
def Among (first count : Nat) (universeId : UInt8) (index : Nat) : Prop :=
  first ≤ dmxUniverseSize * universeId.toNat + index ∧
    dmxUniverseSize * universeId.toNat + index < first + count

instance (first count : Nat) (universeId : UInt8) (index : Nat) :
    Decidable (Among first count universeId index) := inferInstanceAs (Decidable (_ ∧ _))

/-- Some channels have been written, and nothing else. -/
structure Wrote (node after : PathportNode) (first count : Nat) (data : List UInt8) : Prop where
  rest : after = { node with buffers := after.buffers, ran := after.ran }
  slots : ∀ universeId handler index, node.handlers.lookup universeId = some handler →
    index < dmxUniverseSize →
    (after.buffers handler.buffer).get index =
      if Among first count universeId index then
        data.getD (dmxUniverseSize * universeId.toNat + index - first) 0
      else (node.buffers handler.buffer).get index
  full : ∀ universeId handler index, node.handlers.lookup universeId = some handler →
    index < dmxUniverseSize → Among first count universeId index →
    (after.buffers handler.buffer).size = dmxUniverseSize
  kept : ∀ buffer, (node.buffers buffer).size = dmxUniverseSize →
    (after.buffers buffer).size = dmxUniverseSize
  untouched : ∀ buffer, (∀ universeId handler index,
    node.handlers.lookup universeId = some handler → index < dmxUniverseSize →
      Among first count universeId index → handler.buffer ≠ buffer) →
    after.buffers buffer = node.buffers buffer

section Channels
variable {first count second index channels universeId offset : Nat} {other : UInt8}

theorem among_append : Among first (count + second) other index ↔
    Among first count other index ∨ Among (first + count) second other index := by
  unfold Among
  omega

/-- Channels of one universe are those of its handler. -/
theorem among_one (low : universeId ≤ maxUniverses) (inside : offset + channels ≤ dmxUniverseSize)
    (below : index < dmxUniverseSize) :
    Among (dmxUniverseSize * universeId + offset) channels other index ↔
      other = UInt8.ofNat universeId ∧ offset ≤ index ∧ index < offset + channels := by
  unfold maxUniverses at low
  unfold Among
  unfold dmxUniverseSize at *
  have number : (UInt8.ofNat universeId).toNat = universeId :=
    UInt8.toNat_ofNat_of_lt' (show universeId < 2 ^ 8 by omega)
  rw [← UInt8.toNat_inj, number]
  omega

end Channels

section Writing
variable {node middle after : PathportNode} {first count second : Nat} {data : List UInt8}

theorem Wrote.handlers (wrote : Wrote node after first count data) :
    after.handlers = node.handlers := by rw [wrote.rest]

/-- Channels without a handler are not written. -/
theorem wrote_none (absent : ∀ universeId handler index,
    node.handlers.lookup universeId = some handler → index < dmxUniverseSize →
      ¬ Among first count universeId index) : Wrote node node first count data where
  rest := rfl
  slots universeId handler index found below := by
    rw [if_neg (absent universeId handler index found below)]
  full universeId handler index found below among :=
    absurd among (absent universeId handler index found below)
  kept _ size := size
  untouched _ _ := rfl

theorem Wrote.append (front : Wrote node middle first count data)
    (back : Wrote middle after (first + count) second (data.drop count)) :
    Wrote node after first (count + second) data where
  rest := by rw [back.rest, front.rest]
  slots universeId handler index found below := by
    have same : middle.handlers.lookup universeId = some handler := by rw [front.handlers, found]
    rw [back.slots universeId handler index same below,
      front.slots universeId handler index found below]
    by_cases late : Among (first + count) second universeId index
    · rw [if_pos late, if_pos (among_append.mpr (Or.inr late)), List.getD_eq_getElem?_getD,
        List.getElem?_drop, List.getD_eq_getElem?_getD]
      unfold Among at late
      congr 2
      omega
    · rw [if_neg late]
      by_cases early : Among first count universeId index
      · rw [if_pos early, if_pos (among_append.mpr (Or.inl early))]
      · rw [if_neg early, if_neg (fun either => (among_append.mp either).elim early late)]
  full universeId handler index found below among := by
    rcases among_append.mp among with early | late
    · exact back.kept _ (front.full universeId handler index found below early)
    · have same : middle.handlers.lookup universeId = some handler := by rw [front.handlers, found]
      exact back.full universeId handler index same below late
  kept buffer size := back.kept buffer (front.kept buffer size)
  untouched buffer outside := by
    rw [back.untouched buffer, front.untouched buffer]
    · intro universeId handler index found below early
      exact outside universeId handler index found below (among_append.mpr (Or.inl early))
    · intro universeId handler index found below late
      rw [front.handlers] at found
      exact outside universeId handler index found below (among_append.mpr (Or.inr late))

end Writing

section Loop
variable {node : PathportNode} {universeId offset : Nat} {data : List UInt8}

theorem whole_of_size {buffer : DmxBuffer} (size : buffer.size = dmxUniverseSize) :
    buffer.prepared.size = dmxUniverseSize := by
  rw [prepared_of_allocated (allocated_of_size (by rw [size]; decide)), size]

theorem wrote_setRange {handler : UniverseHandler} (ready : Ready node)
    (low : universeId ≤ maxUniverses) (some : 0 < bytes.length)
    (inside : offset + bytes.length ≤ dmxUniverseSize) (front : bytes <+: data)
    (found : node.handlers.lookup (UInt8.ofNat universeId) = .some handler) (ran : List Nat) :
    let buffer := ((node.buffers handler.buffer).setRange offset (.some bytes)).1
    Wrote node
      { node with buffers := Function.update node.buffers handler.buffer buffer, ran := ran }
      (dmxUniverseSize * universeId + offset) bytes.length data where
  rest := rfl
  slots other holder index holds within := by
    have whole := ready.whole handler.buffer
    dsimp only
    by_cases same : holder.buffer = handler.buffer
    · have equal := ready.apart other _ holder handler holds found same
      rw [equal] at holds ⊢
      cases holds.symm.trans found
      rw [Function.update_self, get_setRange whole (by omega) inside]
      by_cases among : offset ≤ index ∧ index < offset + bytes.length
      · have inner := (among_one low inside within).mpr ⟨equal, among⟩
        rw [equal] at inner
        have number : (UInt8.ofNat universeId).toNat = universeId :=
          UInt8.toNat_ofNat_of_lt' (Nat.lt_of_le_of_lt low (by decide))
        have ⟨rest, split⟩ := front
        rw [if_pos among, if_pos inner, number, Nat.add_sub_add_left, ← split,
          List.getD_eq_getElem?_getD, List.getD_eq_getElem?_getD,
          List.getElem?_append_left (by omega)]
      · rw [if_neg among, if_neg (fun inner => among ((among_one low inside within).mp inner).2)]
    · have absent : ¬ Among (dmxUniverseSize * universeId + offset) bytes.length other index := by
        intro among
        have equal := ((among_one low inside within).mp among).1
        rw [equal] at holds
        cases holds.symm.trans found
        exact same rfl
      rw [if_neg absent, Function.update_of_ne same]
  full other holder index holds within among := by
    have equal := ((among_one low inside within).mp among).1
    rw [equal] at holds
    cases holds.symm.trans found
    dsimp only
    rw [Function.update_self]
    exact size_setRange (ready.whole handler.buffer) (by omega) inside
  kept other size := by
    dsimp only
    by_cases same : other = handler.buffer
    · rw [same, Function.update_self]
      exact size_setRange (ready.whole handler.buffer) (by omega) inside
    · rw [Function.update_of_ne same, size]
  untouched other outside := by
    have inner := (among_one low inside (show offset < dmxUniverseSize by omega)).mpr
      ⟨rfl, Nat.le_refl offset, by omega⟩
    exact Function.update_of_ne
      (outside _ handler offset found (by omega) inner).symm _ _

theorem Ready.update {buffer : DmxBuffer} (ready : Ready node) (index : Nat) (ran : List Nat)
    (size : buffer.size = dmxUniverseSize) :
    Ready { node with buffers := Function.update node.buffers index buffer, ran := ran } where
  ranged := ready.ranged
  apart := ready.apart
  whole other := by
    dsimp only
    by_cases same : other = index
    · rw [same, Function.update_self, whole_of_size size]
    · rw [Function.update_of_ne same]
      exact ready.whole other

theorem runHandler_wrote {channels : Nat} (ready : Ready node) (low : universeId ≤ maxUniverses)
    (some : 0 < channels) (inside : offset + channels ≤ dmxUniverseSize)
    (present : channels ≤ data.length) :
    ∃ after, node.runHandler universeId offset channels data = .ok after ∧
      Wrote node after (dmxUniverseSize * universeId + offset) channels data ∧ Ready after := by
  have length : (data.take channels).length = channels := by rw [List.length_take]; omega
  have fits : offset + (data.take channels).length ≤ dmxUniverseSize := by omega
  unfold runHandler
  cases found : node.handlers.lookup (UInt8.ofNat universeId) with
  | none =>
    refine ⟨node, rfl, wrote_none ?_, ready⟩
    intro other handler index holds below among
    rw [((among_one low inside below).mp among).1, found] at holds
    cases holds
  | some handler =>
    have read : reading (take channels) data = .ok (data.take channels, data.drop channels) := by
      rw [reading, take, if_pos present]
    have size := size_setRange (ready.whole handler.buffer) (by omega) fits
    have wrote := wrote_setRange ready low (by omega) fits (List.take_prefix channels data) found
      (node.ran ++ [handler.closure])
    rw [length] at wrote
    rw [read]
    exact ⟨_, rfl, wrote, ready.update handler.buffer _ size⟩

theorem handleLoop_nothing (rounds offset universeId : Nat) (data : List UInt8)
    (node : PathportNode) :
    PathportNode.handleLoop rounds offset universeId 0 data node = .ok node := by
  cases rounds <;> simp [handleLoop]

/-- Every round takes at least one channel, so as many rounds as there are channels do. -/
theorem handleLoop_wrote {rounds dataSize : Nat} (ready : Ready node)
    (below : offset < dmxUniverseSize) (enough : dataSize ≤ rounds)
    (present : dataSize ≤ data.length) :
    ∃ after, PathportNode.handleLoop rounds offset universeId dataSize data node = .ok after ∧
      Wrote node after (dmxUniverseSize * universeId + offset) dataSize data ∧ Ready after := by
  induction rounds generalizing offset universeId dataSize data node with
  | zero =>
    have nothing : dataSize = 0 := by omega
    subst nothing
    refine ⟨node, handleLoop_nothing 0 offset universeId data node, wrote_none ?_, ready⟩
    intro other handler index _ _ among
    unfold Among at among
    omega
  | succ rounds ih =>
    unfold handleLoop
    by_cases running : 0 < dataSize ∧ universeId ≤ maxUniverses
    · rw [if_pos running]
      dsimp only
      generalize chosen : min dataSize (dmxUniverseSize - offset) = channels
      have ⟨middle, ran, front, between⟩ := @runHandler_wrote node universeId offset data channels
        ready running.2 (by omega) (by omega) (by omega)
      rw [ran]
      show ∃ after, handleLoop rounds 0 (universeId + 1) (dataSize - channels)
        (data.drop channels) middle = .ok after ∧ _
      by_cases last : dataSize - channels = 0
      · have all : channels = dataSize := by omega
        rw [last, handleLoop_nothing]
        rw [all] at front
        exact ⟨middle, rfl, front, between⟩
      · have next : dmxUniverseSize * (universeId + 1) + 0 =
            dmxUniverseSize * universeId + offset + channels := by
          rw [Nat.mul_succ]
          omega
        have ⟨after, rest, back, done⟩ := @ih middle (universeId + 1) 0 (data.drop channels)
          (dataSize - channels) between (by decide) (by omega)
          (by rw [List.length_drop]; omega)
        rw [next] at back
        have whole := front.append back
        rw [Nat.add_sub_cancel' (by omega)] at whole
        exact ⟨after, rest, whole, done⟩
    · rw [if_neg running]
      refine ⟨node, rfl, wrote_none ?_, ready⟩
      intro other handler index found within among
      have ranged := ready.ranged other handler found
      unfold Among at among
      unfold dmxUniverseSize at among within
      omega

end Loop

/-- What the data of a PDU should do: byte `k` goes to slot `(offset + k) mod 512` of universe
`(offset + k) div 512`, if that has a handler, and nothing else changes. -/
structure Reaches (node after : PathportNode) (offset count : Nat) (data : List UInt8) : Prop where
  written : ∀ k < count, ∀ universeId handler,
    node.handlers.lookup universeId = some handler →
    universeId.toNat = (offset + k) / dmxUniverseSize →
    (after.buffers handler.buffer).size = dmxUniverseSize ∧
      data[k]? = some ((after.buffers handler.buffer).get ((offset + k) % dmxUniverseSize))
  unchanged : ∀ universeId handler index, node.handlers.lookup universeId = some handler →
    (∀ k < count, ¬ (universeId.toNat = (offset + k) / dmxUniverseSize ∧
      index = (offset + k) % dmxUniverseSize)) →
    (after.buffers handler.buffer).get index = (node.buffers handler.buffer).get index
  untouched : ∀ buffer, (∀ k < count, ∀ universeId handler,
    node.handlers.lookup universeId = some handler →
    universeId.toNat = (offset + k) / dmxUniverseSize → handler.buffer ≠ buffer) →
    after.buffers buffer = node.buffers buffer
  rest : after = { node with buffers := after.buffers, ran := after.ran }

section Delivery
variable {node after : PathportNode} {data : List UInt8}

theorem get_beyond (buffer : DmxBuffer) {index : Nat} (beyond : dmxUniverseSize ≤ index) :
    buffer.get index = 0 := by
  have bounded := buffer.bounded
  unfold DmxBuffer.get
  rw [List.getD_eq_getElem?_getD, List.getElem?_eq_none (by omega)]
  rfl

theorem Wrote.reaches {offset count : Nat} (wrote : Wrote node after offset count data)
    (present : count ≤ data.length) : Reaches node after offset count data where
  written k below universeId handler found universeOf := by
    have among : Among offset count universeId ((offset + k) % dmxUniverseSize) := by
      unfold Among
      rw [universeOf, Nat.div_add_mod]
      omega
    have within : (offset + k) % dmxUniverseSize < dmxUniverseSize := Nat.mod_lt _ (by decide)
    refine ⟨wrote.full universeId handler _ found within among, ?_⟩
    rw [wrote.slots universeId handler _ found within, if_pos among, universeOf, Nat.div_add_mod,
      Nat.add_sub_cancel_left, List.getD_eq_getElem?_getD, List.getElem?_eq_getElem (by omega)]
    rfl
  unchanged universeId handler index found apart := by
    by_cases within : index < dmxUniverseSize
    · rw [wrote.slots universeId handler index found within, if_neg]
      intro among
      unfold Among at among
      apply apart (dmxUniverseSize * universeId.toNat + index - offset) (by omega)
      rw [Nat.add_sub_cancel' among.1, Nat.mul_add_div (by decide),
        Nat.mul_add_mod, Nat.mod_eq_of_lt within, Nat.div_eq_of_lt within]
      exact ⟨rfl, rfl⟩
    · rw [get_beyond _ (by omega), get_beyond _ (by omega)]
  untouched buffer outside := by
    apply wrote.untouched
    intro universeId handler index found within among
    unfold Among at among
    apply outside (dmxUniverseSize * universeId.toNat + index - offset) (by omega) universeId
      handler found
    rw [Nat.add_sub_cancel' among.1, Nat.mul_add_div (by decide), Nat.div_eq_of_lt within]
    rfl
  rest := wrote.rest

/-- A PDU that `HandleDmxData` takes, its head, and the data behind. -/
def Accepts (packet : List UInt8) (head : PduData) (data : List UInt8) : Prop :=
  pduDataSize ≤ packet.length ∧ readPduData packet = some (head, data) ∧
    head.type = xdmxDataFlat ∧ head.startCode = 0

theorem handleDmxData_reaches {packet : List UInt8} (ready : Ready node)
    (small : packet.length < 2 ^ 16) :
    ∃ after, node.handleDmxData packet = .ok after ∧ Ready after ∧
      (∀ head data, Accepts packet head data →
        Reaches node after head.offset.toNat (min head.channelCount.toNat data.length) data) ∧
      ((∀ head data, ¬ Accepts packet head data) → after = node) := by
  unfold handleDmxData
  by_cases short : packet.length < pduDataSize
  · rw [if_pos short]
    exact ⟨node, rfl, ready, fun _ _ accepts => absurd accepts.1 (by omega), fun _ => rfl⟩
  · have ⟨head, got⟩ := consumes_pduData packet (Nat.le_of_not_lt short)
    rw [if_neg short, reading, got]
    show ∃ after, (if head.type ≠ xdmxDataFlat then Except.ok node
      else if head.startCode ≠ 0 then Except.ok node
      else _) = Except.ok after ∧ _
    by_cases type : head.type = xdmxDataFlat
    · rw [if_neg (not_not_intro type)]
      by_cases start : head.startCode = 0
      · rw [if_neg (not_not_intro start)]
        have length : (packet.drop pduDataSize).length = packet.length - pduDataSize :=
          List.length_drop
        have size : (UInt16.ofNat (packet.length - pduDataSize)).toNat =
            packet.length - pduDataSize := UInt16.toNat_ofNat_of_lt' (show _ < 2 ^ 16 by omega)
        rw [size, ← length]
        have ⟨after, ran, wrote, done⟩ := @handleLoop_wrote node
          (head.offset.toNat / dmxUniverseSize) (head.offset.toNat % dmxUniverseSize)
          (packet.drop pduDataSize)
          (min head.channelCount.toNat (packet.drop pduDataSize).length)
          (min head.channelCount.toNat (packet.drop pduDataSize).length) ready
          (Nat.mod_lt _ (by decide)) (Nat.le_refl _) (Nat.min_le_right _ _)
        rw [Nat.div_add_mod] at wrote
        refine ⟨after, ran, done, ?_, ?_⟩
        · intro found data accepts
          cases got.symm.trans accepts.2.1
          exact wrote.reaches (Nat.min_le_right _ _)
        · intro none
          exact absurd ⟨Nat.le_of_not_lt short, got, type, start⟩ (none head _)
      · rw [if_pos start]
        refine ⟨node, rfl, ready, ?_, fun _ => rfl⟩
        intro found data accepts
        cases got.symm.trans accepts.2.1
        exact absurd accepts.2.2.2 start
    · rw [if_pos type]
      refine ⟨node, rfl, ready, ?_, fun _ => rfl⟩
      intro found data accepts
      cases got.symm.trans accepts.2.1
      exact absurd accepts.2.2.1 type

theorem Ready.sendArpReply (ready : Ready node) : Ready node.sendArpReply := by
  unfold PathportNode.sendArpReply
  split
  · exact { ready with }
  · exact ready

/-- What becomes of a datagram. -/
theorem socketReady_cases (node : PathportNode) (source : IPV4Address) (datagram : List UInt8) :
    node.socketReady source datagram = .ok node ∨
    node.socketReady source datagram = .ok node.sendArpReply ∨
    ∃ packet, packet.length < 2 ^ 16 ∧
      node.socketReady source datagram = node.handleDmxData packet := by
  have fits : (datagram.take packetSize).length ≤ packetSize := List.length_take_le _ _
  unfold packetSize at fits
  unfold socketReady
  by_cases own : source = node.ipAddress
  · exact Or.inl (if_pos own)
  · rw [if_neg own]
    by_cases short : (datagram.take packetSize).length < headerSize
    · exact Or.inl (if_pos short)
    · have ⟨header, read⟩ := reading_of_consumes consumes_header (Nat.le_of_not_lt short)
      rw [if_neg short, read]
      dsimp only [bind, Except.bind]
      split
      · exact Or.inl rfl
      · split
        · exact Or.inl rfl
        · split
          · exact Or.inl rfl
          · rename_i enough
            have ⟨pdu, next⟩ := reading_of_consumes consumes_pduHeader (Nat.le_of_not_lt enough)
            rw [next]
            dsimp only
            split
            · refine Or.inr (Or.inr ⟨_, ?_, rfl⟩)
              rw [List.length_drop, List.length_drop]
              unfold packetSize
              omega
            · split
              · exact Or.inr (Or.inl rfl)
              · exact Or.inl rfl

theorem socketReady_ready (ready : Ready node) (source : IPV4Address) (datagram : List UInt8) :
    ∃ after, node.socketReady source datagram = .ok after ∧ Ready after := by
  rcases socketReady_cases node source datagram with same | replied | ⟨packet, small, handled⟩
  · exact ⟨node, same, ready⟩
  · exact ⟨_, replied, ready.sendArpReply⟩
  · have ⟨after, ran, done, _⟩ := handleDmxData_reaches ready small
    exact ⟨after, handled.trans ran, done⟩

end Delivery

section Runs
variable {node : PathportNode} {universeId : UInt8}

/-- Handlers that go, or get another closure. -/
theorem Ready.keep {handlers : AList (fun _ : UInt8 => UniverseHandler)} (ready : Ready node)
    (old : ∀ universeId handler, handlers.lookup universeId = some handler →
      ∃ before, node.handlers.lookup universeId = some before ∧
        handler.buffer = before.buffer) : Ready { node with handlers } where
  ranged universeId handler found := by
    have ⟨before, held, _⟩ := old universeId handler found
    exact ready.ranged universeId before held
  apart first second handler other found next same := by
    have ⟨before, held, equal⟩ := old first handler found
    have ⟨earlier, holds, equals⟩ := old second other next
    rw [equal, equals] at same
    exact ready.apart first second before earlier held holds same
  whole := ready.whole

theorem Ready.setHandler {buffer : Nat} {closure : Option Nat} (ready : Ready node)
    (lent : Lent (.ok node) (.setHandler universeId buffer closure)) :
    Ready (node.setHandler universeId buffer closure).1 := by
  unfold PathportNode.setHandler
  cases closure with
  | none => exact ready
  | some closure =>
    cases present : node.handlers.lookup universeId with
    | some handler =>
      apply ready.keep
      intro other found
      rw [FiniteMap.lookup_insert_eq]
      split
      · rename_i same
        intro equal
        cases equal
        exact ⟨handler, same ▸ present, rfl⟩
      · exact fun held => ⟨found, held, rfl⟩
    | none =>
      have apart : ∀ other found, node.handlers.lookup other = some found →
          found.buffer = buffer → other = universeId :=
        fun other found held => lent.2 ⟨other, found⟩ (AList.mem_lookup_iff.mp held)
      constructor
      case ranged =>
        intro other found
        rw [FiniteMap.lookup_insert_eq]
        split
        · rename_i same
          exact fun _ => same ▸ lent.1
        · exact ready.ranged other found
      case apart =>
        intro first second handler other
        rw [FiniteMap.lookup_insert_eq, FiniteMap.lookup_insert_eq]
        split <;> split <;> rename_i one two <;> intro found next same
        · rw [one, two]
        · cases found
          rw [apart second other next same.symm, one]
        · cases next
          rw [apart first handler found same, two]
        · exact ready.apart first second handler other found next same
      case whole => exact ready.whole

theorem Ready.removeHandler (ready : Ready node) (universeId : UInt8) :
    Ready (node.removeHandler universeId).1 := by
  unfold PathportNode.removeHandler
  split
  · apply ready.keep
    intro other found
    rw [FiniteMap.lookup_erase_eq]
    split
    · exact fun held => by cases held
    · exact fun held => ⟨found, held, rfl⟩
  · exact ready

theorem ready_step (world : Except Fault PathportNode) (event : Event)
    (before : ∃ node, world = .ok node ∧ Ready node) (lent : Lent world event) :
    ∃ node, step world event = .ok node ∧ Ready node := by
  have ⟨node, found, ready⟩ := before
  subst found
  cases event with
  | setHandler universeId buffer closure => exact ⟨_, rfl, ready.setHandler lent⟩
  | removeHandler universeId => exact ⟨_, rfl, ready.removeHandler universeId⟩
  | received source datagram => exact socketReady_ready ready source datagram

theorem ready_new (running : Bool) (deviceId : UInt32) (ipAddress : IPV4Address) :
    Ready (.new running deviceId ipAddress) where
  ranged _ _ found := by
    change AList.lookup _ ∅ = _ at found
    cases found
  apart _ _ _ _ found := by
    change AList.lookup _ ∅ = _ at found
    cases found
  whole _ := by
    show (holding (List.replicate dmxUniverseSize 0)).slots.length = dmxUniverseSize
    rw [holding_slots (by simp), List.length_replicate]

/-- After any calls whose buffers are lent as the ports do, a node has only read what it was
given, and is ready. -/
theorem ready_run {running : Bool} {deviceId : UInt32} {ipAddress : IPV4Address}
    {events : List Event}
    (lent : Permitted step Lent (.ok (.new running deviceId ipAddress)) events) :
    ∃ node, run step (.ok (.new running deviceId ipAddress)) events = .ok node ∧ Ready node :=
  @run_invariant _ _ step Lent (fun world => ∃ node, world = .ok node ∧ Ready node) ready_step _ _
    ⟨_, rfl, ready_new running deviceId ipAddress⟩ lent

end Runs

/-- The first slots of a universe are those of a buffer, and nothing else has changed. -/
structure Sets (node after : PathportNode) (universeId : Nat) (buffer : DmxBuffer) : Prop where
  slots : ∀ handler index, node.handlers.lookup (UInt8.ofNat universeId) = some handler →
    (after.buffers handler.buffer).get index =
      if index < buffer.size then buffer.get index else (node.buffers handler.buffer).get index
  others : ∀ other, (∀ handler, node.handlers.lookup (UInt8.ofNat universeId) = some handler →
    handler.buffer ≠ other) → after.buffers other = node.buffers other
  rest : after = { node with buffers := after.buffers, ran := after.ran }

section Sending
variable {sender node after : PathportNode} {universeId : Nat} {buffer : DmxBuffer}

theorem Reaches.sets {padding : List UInt8} (low : universeId ≤ maxUniverses)
    (reaches : Reaches node after (dmxUniverseSize * universeId) buffer.size
      (buffer.slots ++ padding)) : Sets node after universeId buffer := by
  have bounded : buffer.size ≤ dmxUniverseSize := buffer.bounded
  have number : (UInt8.ofNat universeId).toNat = universeId :=
    UInt8.toNat_ofNat_of_lt' (Nat.lt_of_le_of_lt low (by decide))
  have slot : ∀ k < buffer.size, (dmxUniverseSize * universeId + k) % dmxUniverseSize = k :=
    fun k below => by rw [Nat.mul_add_mod, Nat.mod_eq_of_lt (by omega)]
  have place : ∀ k < buffer.size,
      (dmxUniverseSize * universeId + k) / dmxUniverseSize = universeId :=
    fun k below => by rw [Nat.mul_add_div (by decide), Nat.div_eq_of_lt (by omega), Nat.add_zero]
  constructor
  case slots =>
    intro handler index found
    by_cases inside : index < buffer.size
    · have ⟨_, held⟩ := reaches.written index inside _ handler found
        (by rw [number, place index inside])
      rw [slot index inside, List.getElem?_append_left inside] at held
      unfold DmxBuffer.get at held ⊢
      rw [if_pos inside, @List.getD_eq_getElem?_getD _ buffer.slots, held]
      rfl
    · rw [if_neg inside]
      apply reaches.unchanged _ handler index found
      intro k below both
      rw [slot k below] at both
      omega
  case others =>
    intro other apart
    apply reaches.untouched
    intro k below key handler found universeOf
    rw [place k below, ← number] at universeOf
    rw [UInt8.toNat_inj.mp universeOf] at found
    exact apart handler found
  case rest => exact reaches.rest

theorem socketReady_sendDMX (ready : Ready node) (running : sender.running = true)
    (low : universeId ≤ maxUniverses) (stack : Nat → UInt8) :
    ∃ packet, sender.sendDMX universeId buffer stack = some packet ∧
      ∀ source, source ≠ node.ipAddress →
        ∃ after, node.socketReady source packet = .ok after ∧ Sets node after universeId buffer := by
  have bounded : buffer.size ≤ 512 := buffer.bounded
  have sending : ¬ (¬ sender.running = true ∨ maxUniverses < universeId) := by
    rw [not_or, not_not]
    exact ⟨running, by omega⟩
  unfold sendDMX
  rw [if_neg sending]
  refine ⟨_, rfl, ?_⟩
  intro source foreign
  generalize lengths : (buffer.size + 3) / 4 * 4 = paddedSize
  generalize pads : (List.range (paddedSize - buffer.size)).map stack = padding
  have padded : padding.length = paddedSize - buffer.size := by rw [← pads]; simp
  have size : buffer.slots.length = buffer.size := rfl
  unfold socketReady
  rw [List.take_of_length_le (by simp [headerSize, pduHeaderSize, pduDataSize, packetSize]; omega),
    if_neg foreign, if_neg (by simp), reading_of_reads (reads_header _)]
  dsimp only [bind, Except.bind]
  rw [if_neg (not_not_intro (show validateHeader _ = true from rfl)),
    if_neg (fun elsewhere => elsewhere.2.2.2.2 rfl), if_neg (by simp),
    reading_of_reads (reads_pduHeader _)]
  dsimp only
  rw [if_pos rfl]
  have count : (UInt16.ofNat buffer.size).toNat = buffer.size :=
    UInt16.toNat_ofNat_of_lt' (show buffer.size < 2 ^ 16 by omega)
  have offset : (UInt16.ofNat (dmxUniverseSize * universeId)).toNat =
      dmxUniverseSize * universeId := by
    apply UInt16.toNat_ofNat_of_lt'
    unfold maxUniverses at low
    show 512 * universeId < 2 ^ 16
    omega
  have ⟨after, handled, _, reaches, _⟩ := @handleDmxData_reaches node
    (PduData.pack ⟨xdmxDataFlat, UInt16.ofNat buffer.size, 0, 0,
      UInt16.ofNat (dmxUniverseSize * universeId)⟩ ++ (buffer.slots ++ padding)) ready
    (by simp [pduDataSize]; omega)
  have reached := reaches _ _ ⟨by simp, reads_pduData _ _, rfl, rfl⟩
  rw [count, offset, Nat.min_eq_left (by simp [size])] at reached
  exact ⟨after, handled, reached.sets low⟩

end Sending

/-- After any calls, the data of a PDU gets to its slots and nowhere else. A PDU in a datagram
has fewer than `2 ^ 16` bytes. -/
theorem data_reaches_slots {running : Bool} {deviceId : UInt32} {ipAddress : IPV4Address}
    {events : List Event}
    (lent : Permitted step Lent (.ok (.new running deviceId ipAddress)) events) :
    ∃ node, run step (.ok (.new running deviceId ipAddress)) events = .ok node ∧
      (∀ packet, packet.length < 2 ^ 16 →
        ∃ after, node.handleDmxData packet = .ok after ∧
          (∀ head data, Accepts packet head data →
            Reaches node after head.offset.toNat
              (min head.channelCount.toNat data.length) data) ∧
          ((∀ head data, ¬ Accepts packet head data) → after = node)) ∧
      (∀ source datagram, ∃ after, node.socketReady source datagram = .ok after) ∧
      ∀ (sender : PathportNode) universeId buffer stack, sender.running = true →
        universeId ≤ maxUniverses →
        ∃ packet, sender.sendDMX universeId buffer stack = some packet ∧
          ∀ source, source ≠ node.ipAddress →
            ∃ after, node.socketReady source packet = .ok after ∧
              Sets node after universeId buffer := by
  have ⟨node, ran, ready⟩ := ready_run lent
  refine ⟨node, ran, ?_, ?_, ?_⟩
  · intro packet small
    have ⟨after, handled, _, reaches, refused⟩ := handleDmxData_reaches ready small
    exact ⟨after, handled, reaches, refused⟩
  · intro source datagram
    have ⟨after, received, _⟩ := socketReady_ready ready source datagram
    exact ⟨after, received⟩
  · intro sender universeId buffer stack running low
    exact socketReady_sendDMX ready running low stack

/-- Four channels, of which two are in the next universe. -/
theorem data_reaches_slots_spanning :
    ∃ node, run step (.ok (.new true 1 ⟨10, 0, 0, 1⟩))
        [.setHandler 0 4 (some 1), .setHandler 1 9 (some 2)] = .ok node ∧
      ∃ after, node.handleDmxData [1, 1, 0, 4, 0, 0, 1, 254, 5, 6, 7, 8] = .ok after ∧
        Reaches node after 510 4 [5, 6, 7, 8] := by
  have ⟨node, ran, handles, _⟩ := @data_reaches_slots true 1 ⟨10, 0, 0, 1⟩
    [.setHandler 0 4 (some 1), .setHandler 1 9 (some 2)] (by decide)
  have ⟨after, handled, reaches, _⟩ := handles [1, 1, 0, 4, 0, 0, 1, 254, 5, 6, 7, 8] (by decide)
  have accepted : Accepts [1, 1, 0, 4, 0, 0, 1, 254, 5, 6, 7, 8] ⟨xdmxDataFlat, 4, 0, 0, 510⟩
      [5, 6, 7, 8] := ⟨by decide, rfl, rfl, rfl⟩
  exact ⟨node, ran, after, handled, reaches _ _ accepted⟩

end OpenLighting.Pathport
