import OpenLighting.E131Node
import OpenLighting.E131Tracking

namespace OpenLighting.E131

open FiniteMap ByteCodec E131Node

section Reception
variable {handler : UniverseHandler CID} {cid : CID} {next : Option UInt8} {header : E131Header}
  {ignorePreview : Bool} {now : Int}

theorem oldSequence_next (last : UInt8) : oldSequence (last + 1) last = false := by
  unfold oldSequence
  rw [UInt8.add_comm last 1, UInt8.add_sub_cancel]
  decide

/-- A handler tracks no source but the one that is about to send this sequence number. -/
def UniverseHandler.Alone (handler : UniverseHandler CID) (cid : CID) (next : Option UInt8) :
    Prop :=
  handler.sources = [] ∧ handler.activePriority = 0 ∨
    ∃ source, handler.sources = [source] ∧ source.cid = cid ∧ next = some (source.sequence + 1)

theorem expire_alone (alone : handler.Alone cid next) (now : Int) :
    handler.expire now cid = handler := by
  unfold UniverseHandler.expire unexpired
  rcases alone with ⟨none, idle⟩ | ⟨source, one, same, _⟩
  · cases handler
    simp_all
  · cases handler
    simp_all

theorem track_alone (alone : handler.Alone cid next) (now : Int)
    (goes : header.streamTerminated = false) (sequence : header.sequence = next.getD 0) :
    ∃ buffer, trackSourceIfRequired handler now cid header =
      ({ handler with
        sources := [⟨cid, header.sequence, now, buffer⟩]
        activePriority := header.priority }, .fill 0) := by
  unfold trackSourceIfRequired
  rw [expire_alone alone]
  rcases alone with ⟨none, idle⟩ | ⟨source, one, same, known⟩
  · refine ⟨.new, ?_⟩
    have above : ¬ header.priority < handler.activePriority := by
      rw [idle]
      exact UInt8.not_lt.mpr (UInt8.zero_le)
    simp only [none, List.findIdx?_nil]
    unfold trackNew
    rw [if_neg (by simp [goes, above])]
    by_cases raised : handler.activePriority < header.priority
    · rw [if_pos raised]
      rfl
    · have level : handler.activePriority = header.priority :=
        UInt8.le_antisymm (UInt8.not_lt.mp above) (UInt8.not_lt.mp raised)
      rw [if_neg raised]
      simp [none, level, maxMergeSources]
  · refine ⟨source.buffer, ?_⟩
    have new : oldSequence header.sequence source.sequence = false := by
      rw [sequence, known]
      exact oldSequence_next source.sequence
    simp only [one, List.findIdx?_cons, same, decide_true, if_true]
    show trackKnown handler now header 0 source = _
    unfold trackKnown
    rw [if_neg (by simp [new]), if_neg (by simp [goes])]
    have length : handler.sources.length = 1 := by rw [one, List.length_singleton]
    dsimp only
    rw [if_pos length, if_pos length, one, ← same]
    by_cases lower : header.priority < handler.activePriority
    · rw [if_pos lower]
      rfl
    · rw [if_neg lower]
      by_cases raised : handler.activePriority < header.priority
      · rw [if_pos raised]
        rfl
      · have level : handler.activePriority = header.priority :=
          UInt8.le_antisymm (UInt8.not_lt.mp lower) (UInt8.not_lt.mp raised)
        rw [if_neg raised, level]
        rfl

theorem track_end (alone : handler.Alone cid next) (now : Int)
    (ends : header.streamTerminated = true) (sequence : header.sequence = next.getD 0) :
    (trackSourceIfRequired handler now cid header).1.sources = [] ∧
      (trackSourceIfRequired handler now cid header).1.activePriority = 0 ∧
      ∀ index, (trackSourceIfRequired handler now cid header).2 ≠ .fill index := by
  unfold trackSourceIfRequired
  rw [expire_alone alone]
  rcases alone with ⟨none, idle⟩ | ⟨source, one, same, known⟩
  · simp only [none, List.findIdx?_nil]
    unfold trackNew
    rw [if_pos (.inl ends)]
    exact ⟨none, idle, fun _ => Verdict.noConfusion⟩
  · have new : oldSequence header.sequence source.sequence = false := by
      rw [sequence, known]
      exact oldSequence_next source.sequence
    simp only [one, List.findIdx?_cons, same, decide_true, if_true]
    show (trackKnown handler now header 0 source).1.sources = [] ∧
      (trackKnown handler now header 0 source).1.activePriority = 0 ∧
      ∀ index, (trackKnown handler now header 0 source).2 ≠ .fill index
    unfold trackKnown
    rw [if_neg (by simp [new]), if_pos ends, one]
    exact ⟨rfl, rfl, fun _ => Verdict.noConfusion⟩

theorem decodeAddress_range (start increment count : UInt16) (data : List UInt8) :
    decodeAddress .twoBytes .rangeEqual (packTwoByteRange start increment count ++ data) =
      some (⟨start.toNat, increment.toNat, count.toNat⟩, 6) := by
  have field (value : UInt16) : number (bigEndian 2 value.toNat) = value.toNat := by
    rw [number_bigEndian]
    exact Nat.mod_eq_of_lt (UInt16.toNat_lt value)
  have enough : ¬ (packTwoByteRange start increment count ++ data).length < 6 := by
    simp only [packTwoByteRange, List.length_append, length_bigEndian]
    omega
  unfold decodeAddress
  show some (DMPAddress.mk (number (bigEndian 2 start.toNat))
    (number (bigEndian 2 increment.toNat)) (number (bigEndian 2 count.toNat)), 6) = _
  rw [field, field, field]

/-- What is behind the address of a packet. -/
theorem rangeMessage_payload (count : UInt16) (data : List UInt8)
    (shown : header.previewData = false) (allowed : header.priority ≤ maxPriority) :
    (rangeMessage cid header (packTwoByteRange 0 1 count) data).payload ignorePreview =
      some (⟨0, 1, count.toNat⟩, data) := by
  have formed : wellFormed (DMPHeader.ofParts true false .rangeEqual .twoBytes) = true := by decide
  unfold DMPMessage.payload rangeMessage
  dsimp only
  rw [if_neg (by decide), if_neg (by simp [shown]), if_neg (by simp [formed]),
    if_neg (UInt8.not_lt.mpr allowed)]
  rw [show (DMPHeader.ofParts true false .rangeEqual .twoBytes).size = .twoBytes by decide,
    show (DMPHeader.ofParts true false .rangeEqual .twoBytes).type = .rangeEqual by decide,
    decodeAddress_range]
  rfl

theorem rangeMessage_dropped (address data : List UInt8)
    (refused : maxPriority < header.priority) :
    (rangeMessage cid header address data).payload ignorePreview = none := by
  unfold DMPMessage.payload rangeMessage
  simp [refused]

theorem merge_one {source : DmxSource CID} (one : handler.sources = [source])
    (memory : source.buffer.allocated = true) :
    handler.merge =
      { handler with
        priority := handler.priority.map (fun _ => handler.activePriority)
        buffer := source.buffer
        runs := handler.runs + 1 } := by
  unfold UniverseHandler.merge
  rw [one]
  dsimp only
  rw [DmxBuffer.setBuffer_of_allocated _ memory]

variable {count : UInt16} {data slots : List UInt8}

/-- The slots of the only source go to the buffer, with its priority. -/
theorem handle_data (alone : handler.Alone cid next) (now : Int)
    (goes : header.streamTerminated = false) (shown : header.previewData = false)
    (allowed : header.priority ≤ maxPriority) (sequence : header.sequence = next.getD 0)
    (code : startCode header ⟨0, 1, count.toNat⟩ data = 0)
    (found : slotsOf header ⟨0, 1, count.toNat⟩ data = slots)
    (bounded : slots.length ≤ dmxUniverseSize) :
    ∃ after, handler.handle ignorePreview now
        (rangeMessage cid header (packTwoByteRange 0 1 count) data) = after ∧
      after.Alone cid (some (header.sequence + 1)) ∧ after.buffer.slots = slots ∧
      ∀ priority ∈ after.priority, priority = header.priority := by
  obtain ⟨buffer, tracked⟩ := track_alone alone now goes sequence
  refine ⟨_, rfl, ?_⟩
  unfold UniverseHandler.handle
  rw [rangeMessage_payload count data shown allowed]
  unfold UniverseHandler.receive rangeMessage
  dsimp only
  rw [if_neg (by simp [code]), tracked]
  dsimp only
  rw [if_pos code, found]
  rw [merge_one rfl rfl]
  refine ⟨.inr ⟨_, rfl, rfl, rfl⟩, DmxBuffer.holding_slots bounded, ?_⟩
  intro priority member
  obtain ⟨_, _, same⟩ := Option.map_eq_some_iff.mp member
  exact same.symm

theorem handle_end (alone : handler.Alone cid next) (now : Int)
    (ends : header.streamTerminated = true) (shown : header.previewData = false)
    (allowed : header.priority ≤ maxPriority) (sequence : header.sequence = next.getD 0) :
    (handler.handle ignorePreview now
        (rangeMessage cid header (packTwoByteRange 0 1 count) data)).sources = [] ∧
      (handler.handle ignorePreview now
        (rangeMessage cid header (packTwoByteRange 0 1 count) data)).activePriority = 0 := by
  have ended := track_end alone now ends sequence
  unfold UniverseHandler.handle
  rw [rangeMessage_payload count data shown allowed]
  unfold UniverseHandler.receive rangeMessage
  dsimp only
  rw [if_neg (by simp [ends])]
  generalize trackSourceIfRequired handler now cid header = result at ended ⊢
  obtain ⟨after, verdict⟩ := result
  obtain ⟨none, idle, noData⟩ := ended
  cases verdict with
  | ignore => exact ⟨none, idle⟩
  | merge => exact ⟨(merge_sources after).trans none, (merge_activePriority after).trans idle⟩
  | fill index => exact absurd rfl (noData index)

end Reception

section Transmission
variable {node : E131Node} {universeId : UInt16} {buffer : DmxBuffer} {priority : UInt8}

/-- The sequence number that a node sends next for a universe. -/
def E131Node.next (node : E131Node) (universeId : Nat) : Option UInt8 :=
  (node.txUniverses.lookup universeId).map TxUniverse.sequence

theorem sequence_settings (node : E131Node) (universeId : Nat) :
    ((node.txUniverses.lookup universeId).getD (setupOutgoingSettings universeId)).sequence =
      (node.next universeId).getD 0 := by
  unfold next
  cases node.txUniverses.lookup universeId with
  | none | some settings => rfl

theorem length_packTwoByteRange (start increment count : UInt16) :
    (packTwoByteRange start increment count).length = 6 := by
  simp [packTwoByteRange]

theorem length_packed (useRev2 : Bool) (count : UInt16) (buffer : DmxBuffer) {bytes : List UInt8}
    (packed : (if useRev2 then buffer.data else some (0 :: buffer.slots)) = some bytes) :
    (packTwoByteRange 0 1 count ++ bytes).length ≤ 519 := by
  have bound : buffer.slots.length ≤ 512 := buffer.bounded
  have short : bytes.length ≤ buffer.slots.length + 1 := by
    unfold DmxBuffer.data at packed
    split at packed
    · split at packed
      · rw [← Option.some.inj packed]
        omega
      · cases packed
    · rw [← Option.some.inj packed]
      exact Nat.le_refl _
  rw [List.length_append, length_packTwoByteRange]
  omega

/-- The start code and the slots, as both revisions pack them. -/
theorem slotsOf_packed {header : E131Header} {data : List UInt8} (buffer : DmxBuffer)
    (packed : (if header.usingRev2 then buffer.data else some (0 :: buffer.slots)) = some data) :
    startCode header ⟨0, 1, (UInt16.ofNat
        (if header.usingRev2 then buffer.size else buffer.size + 1)).toNat⟩ data = 0 ∧
      slotsOf header ⟨0, 1, (UInt16.ofNat
        (if header.usingRev2 then buffer.size else buffer.size + 1)).toNat⟩ data =
          buffer.slots := by
  have bound : buffer.slots.length ≤ 512 := buffer.bounded
  unfold startCode slotsOf
  by_cases draft : header.usingRev2 = true
  · rw [if_pos draft] at packed
    have same : data = buffer.slots := by
      unfold DmxBuffer.data at packed
      split at packed
      · exact (Option.some.inj packed).symm
      · cases packed
    have count : (UInt16.ofNat buffer.size).toNat = buffer.slots.length :=
      UInt16.toNat_ofNat_of_lt' (show buffer.slots.length < 65536 by omega)
    simp [draft, same, count]
  · rw [if_neg draft] at packed
    have count : (UInt16.ofNat (buffer.size + 1)).toNat = buffer.slots.length + 1 :=
      UInt16.toNat_ofNat_of_lt' (show buffer.slots.length + 1 < 65536 by omega)
    rw [← Option.some.inj packed]
    simp only [if_neg draft, count]
    simp

theorem sendDMX_sent {datagram : Datagram}
    (sent : (node.sendDMX universeId buffer priority false).2 = some datagram) :
    ∃ header count data,
      datagramMessages datagram.bytes =
        [rangeMessage node.cid header (packTwoByteRange 0 1 count) data] ∧
      header.streamTerminated = false ∧ header.previewData = false ∧
      header.priority = priority ∧ header.universeId = universeId ∧
      header.sequence = (node.next universeId.toNat).getD 0 ∧
      startCode header ⟨0, 1, count.toNat⟩ data = 0 ∧
      slotsOf header ⟨0, 1, count.toNat⟩ data = buffer.slots ∧
      (node.sendDMX universeId buffer priority false).1.next universeId.toNat =
        some (header.sequence + 1) := by
  have settings := sequence_settings node universeId.toNat
  unfold sendDMX sendDMXWithSequenceOffset at sent ⊢
  dsimp only at sent ⊢
  generalize (node.txUniverses.lookup universeId.toNat).getD
    (setupOutgoingSettings universeId.toNat) = known at settings sent ⊢
  rw [show known.sequence + (0 : Int8).toUInt8 = known.sequence from UInt8.add_zero _] at sent ⊢
  have small : ∀ bytes ∈ (if node.useRev2 then buffer.data else some (0 :: buffer.slots)),
      (packTwoByteRange 0 1 (UInt16.ofNat
        (if node.useRev2 then buffer.size else buffer.size + 1)) ++ bytes).length ≤ 519 :=
    fun bytes member => length_packed _ _ buffer member
  obtain ⟨bytes, found, _, messages⟩ := sendDMP_messages (fun _ => ⟨rfl, rfl⟩) small sent
  have content := @slotsOf_packed (E131Header.received ⟨known.source, priority, known.sequence,
    universeId, false, false, node.useRev2⟩) bytes buffer found
  refine ⟨_, _, bytes, messages, rfl, rfl, rfl, rfl, settings, content.1, content.2, ?_⟩
  rw [next, sent, AList.lookup_insert]
  rfl

/-- A universe that was not known is known after `SendDMX`, and the sequence number stays if
nothing was sent. -/
theorem sendDMX_failed (failed : (node.sendDMX universeId buffer priority false).2 = none) :
    (node.sendDMX universeId buffer priority false).1.next universeId.toNat =
      some ((node.next universeId.toNat).getD 0) := by
  have settings := sequence_settings node universeId.toNat
  unfold sendDMX sendDMXWithSequenceOffset at failed ⊢
  dsimp only at failed ⊢
  rw [next, failed, AList.lookup_insert, ← settings]
  rfl

theorem sendDMX_next_of_ne {other : Nat} (different : other ≠ universeId.toNat) :
    (node.sendDMX universeId buffer priority false).1.next other = node.next other := by
  unfold sendDMX sendDMXWithSequenceOffset next
  rw [AList.lookup_insert_ne different]

theorem streamTerminated_kept {after : E131Node} {sent : Option Datagram}
    (returned : node.streamTerminated universeId buffer priority = some (after, sent)) :
    after.cid = node.cid ∧ after.useRev2 = node.useRev2 ∧
      ∀ other ≠ universeId.toNat, after.next other = node.next other := by
  unfold streamTerminated at returned
  split at returned
  · cases returned
  · obtain ⟨rfl, rfl⟩ := Prod.mk.inj (Option.some.inj returned)
    refine ⟨rfl, rfl, ?_⟩
    intro other different
    have frame (changed : Prop) [Decidable changed] (settings : TxUniverse) :
        (if changed then node.txUniverses.insert universeId.toNat settings
          else node.txUniverses).lookup other = node.txUniverses.lookup other := by
      by_cases change : changed
      · rw [if_pos change, AList.lookup_insert_ne different]
      · rw [if_neg change]
    exact congrArg (Option.map TxUniverse.sequence) (frame _ _)

/-- A node that uses the draft has nothing to send the end of a stream from. -/
theorem streamTerminated_draft (draft : node.useRev2 = true) :
    node.streamTerminated universeId buffer priority =
      if buffer.slots = [] then some (node, none) else none := by
  have nothing (header : E131Header) (address : List UInt8) :
      sendDMP node.cid header address none = none := by
    unfold sendDMP
    split
    · rename_i impossible
      cases impossible
    · rfl
  unfold streamTerminated
  by_cases empty : buffer.slots = []
  · rw [if_neg (by simp [empty]), if_pos empty, if_pos draft]
    dsimp only
    rw [nothing, if_neg (by simp)]
  · rw [if_pos ⟨draft, empty⟩, if_neg empty]

/-- With the final standard the end of a stream is sent, if there is a group for the universe,
with the next sequence number. -/
theorem streamTerminated_final (final : node.useRev2 = false) :
    ∃ after sent, node.streamTerminated universeId buffer priority = some (after, sent) ∧
      (sent = none → universeIP universeId.toNat = none) ∧
      ∀ datagram ∈ sent, ∃ header count data,
        datagramMessages datagram.bytes =
          [rangeMessage node.cid header (packTwoByteRange 0 1 count) data] ∧
        header.streamTerminated = true ∧ header.previewData = false ∧
        header.priority = priority ∧ header.universeId = universeId ∧
        header.sequence = (node.next universeId.toNat).getD 0 := by
  have settings : ((node.txUniverses.lookup universeId.toNat).getD ⟨[], 0⟩).sequence =
      (node.next universeId.toNat).getD 0 := by
    unfold next
    cases node.txUniverses.lookup universeId.toNat with
    | none | some settings => rfl
  have small : ∀ bytes ∈ some (0 :: buffer.slots),
      (packTwoByteRange 0 1 (UInt16.ofNat buffer.size) ++ bytes).length ≤ 519 :=
    fun bytes member => length_packed false _ buffer member
  unfold streamTerminated
  rw [if_neg (by simp [final]), final, if_neg (by decide)]
  refine ⟨_, _, rfl, ?_, ?_⟩
  · intro failed
    have sent := @sendDMP_isSome node.cid
      ⟨((node.txUniverses.lookup universeId.toNat).getD ⟨[], 0⟩).source, priority,
        ((node.txUniverses.lookup universeId.toNat).getD ⟨[], 0⟩).sequence, universeId, false, true,
        false⟩ _ _ (fun draft => by cases draft) small
    rw [failed] at sent
    simpa using sent.symm
  · intro datagram sent
    obtain ⟨bytes, _, _, messages⟩ := sendDMP_messages (fun draft => by cases draft) small sent
    exact ⟨_, _, bytes, messages, rfl, rfl, rfl, rfl, settings⟩

end Transmission

end OpenLighting.E131
