import OpenLighting.FiniteMap
import OpenLighting.IPV4Address
import OpenLighting.RunLengthMisread

/- The packets of a `ShowNetNode`, and when the data of a buffer gets over with one. -/
namespace OpenLighting.ShowNet

open OpenLighting.Network OpenLighting.RunLengthEncoder

def showNetMaxUniverses : Nat := 8

/-- `SHOWNET_ID_HIGH`, `SHOWNET_ID_LOW`, `MAGIC_INDEX_OFFSET` and `SHOWNET_NAME_LENGTH`. -/
def showNetIdHigh : UInt8 := 0x80
def showNetIdLow : UInt8 := 0x8f
def magicIndexOffset : Nat := 11
def showNetNameLength : Nat := 9

/-- The size of a packet without its data. -/
def headerSize : Nat := 47

/-- A `shownet_data_packet`. The four bytes of `block` are zero and nothing looks at them. -/
structure Packet where
  sigHi : UInt8
  sigLo : UInt8
  ip : IPV4Address
  netSlot : Fin 4 → UInt16
  slotSize : Fin 4 → UInt16
  indexBlock : Fin 5 → UInt16
  packetCountHi : UInt8
  packetCountLo : UInt8
  name : List UInt8
  data : List UInt8
  full : data.length = dmxUniverseSize

/-- A `ShowNetNode`: its address, its name, the packets it sent, and the buffers of its
handlers. -/
structure ShowNetNode where
  ipAddress : IPV4Address
  nodeName : List UInt8
  packetCount : UInt16
  handlers : AList (fun _ : Nat => DmxBuffer)

namespace ShowNetNode

/-- `strncpy` into an array. -/
def packName (length : Nat) (name : List UInt8) : List UInt8 :=
  let copied := (name.takeWhile (· ≠ 0)).take length
  copied ++ List.replicate (length - copied.length) 0

/-- `PopulatePacket`: the packet, and how much of it is to be sent. -/
def populatePacket (node : ShowNetNode) (universeId : Nat) (buffer : DmxBuffer) : Packet × Nat :=
  let encoded := (encode buffer dmxUniverseSize).2
  ({ sigHi := showNetIdHigh
     sigLo := showNetIdLow
     ip := node.ipAddress
     netSlot := Function.update (fun _ => 0) 0 (UInt16.ofNat (universeId * dmxUniverseSize + 1))
     slotSize := Function.update (fun _ => 0) 0 (UInt16.ofNat buffer.size)
     indexBlock := Function.update
       (Function.update (fun _ => 0) 0 (UInt16.ofNat magicIndexOffset))
       1 (UInt16.ofNat (magicIndexOffset + encoded.length))
     packetCountHi := (node.packetCount >>> 8).toUInt8
     packetCountLo := node.packetCount.toUInt8
     name := packName showNetNameLength node.nodeName
     data := encoded ++ List.replicate (dmxUniverseSize - encoded.length) 0
     full := by
       have bounded : encoded.length ≤ dmxUniverseSize := encode_bounded buffer dmxUniverseSize
       rw [List.length_append, List.length_replicate]
       omega },
    headerSize + encoded.length)

/-- `HandlePacket`: the node and the result, or `none` where the decoder reads behind the data it
is given. -/
def handlePacket (node : ShowNetNode) (packet : Packet) (packetSize : Nat) :
    Option (ShowNetNode × Bool) :=
  if packetSize ≤ headerSize then some (node, false)
  else if packet.sigHi ≠ showNetIdHigh ∨ packet.sigLo ≠ showNetIdLow then some (node, false)
  else if (packet.indexBlock 0).toNat < magicIndexOffset then some (node, false)
  else
    let encLen : Int := (packet.indexBlock 1).toNat - (packet.indexBlock 0).toNat
    if encLen < 1 ∨ packet.netSlot 0 = 0 then some (node, false)
    else
      let dataOffset := (packet.indexBlock 0).toNat - magicIndexOffset
      let receivedDataSize := packetSize - headerSize
      if receivedDataSize < dataOffset + encLen.toNat then some (node, false)
      else if packet.slotSize 0 = 0 then some (node, false)
      else
        let startChannel := ((packet.netSlot 0).toNat - 1) % dmxUniverseSize
        let universeId := ((packet.netSlot 0).toNat - 1) / dmxUniverseSize
        match node.handlers.lookup universeId with
        | none => some (node, false)
        | some buffer =>
          let received := (packet.data.drop dataOffset).take encLen.toNat
          let stored := if (packet.slotSize 0).toNat ≠ encLen then
              decode startChannel received buffer
            else some (buffer.setRange startChannel (some received)).1
          stored.map fun buffer =>
            ({ node with handlers := node.handlers.insert universeId buffer }, true)

end ShowNetNode

/-- A packet is accepted and leaves the values in the buffer of the handler. -/
def GetsOver (sender receiver : ShowNetNode) (universeId : Nat) (src : DmxBuffer) : Prop :=
  let packet := sender.populatePacket universeId src
  ∃ node buffer, receiver.handlePacket packet.1 packet.2 = some (node, true) ∧
    node.handlers.lookup universeId = some buffer ∧ buffer.slots.take src.size = src.slots

/-- Every node with a handler gets the values. -/
def RoundTrips (sender : ShowNetNode) (universeId : Nat) (src : DmxBuffer) : Prop :=
  ∀ receiver : ShowNetNode, universeId ∈ receiver.handlers → GetsOver sender receiver universeId src

section Transfer
variable {sender receiver : ShowNetNode} {universeId : Nat} {src buffer : DmxBuffer}

section

variable (below : universeId < showNetMaxUniverses) (some : 0 < src.size)
  (handler : receiver.handlers.lookup universeId = .some buffer)
include below some handler

theorem handlePacket_populatePacket :
    let encoded := (encode src dmxUniverseSize).2
    let packet := sender.populatePacket universeId src
    receiver.handlePacket packet.1 packet.2 =
      (if src.size ≠ encoded.length then decode 0 encoded buffer
        else Option.some (buffer.setRange 0 (Option.some encoded)).1).map fun buffer =>
          ({ receiver with handlers := receiver.handlers.insert universeId buffer }, true) := by
  intro encoded packet
  have positive : 0 < encoded.length := encode_pos some (by unfold dmxUniverseSize; omega)
  have bounded : encoded.length ≤ dmxUniverseSize := encode_bounded src dmxUniverseSize
  have size : src.size ≤ dmxUniverseSize := src.bounded
  unfold dmxUniverseSize at bounded size
  unfold showNetMaxUniverses at below
  have sized : packet.2 = headerSize + encoded.length := rfl
  have index0 : (packet.1.indexBlock 0).toNat = 11 := rfl
  have index1 : (packet.1.indexBlock 1).toNat = 11 + encoded.length := by
    exact UInt16.toNat_ofNat_of_lt' (show 11 + encoded.length < 2 ^ 16 by omega)
  have slot : (packet.1.netSlot 0).toNat = universeId * 512 + 1 := by
    exact UInt16.toNat_ofNat_of_lt' (show universeId * 512 + 1 < 2 ^ 16 by omega)
  have slots : (packet.1.slotSize 0).toNat = src.size := by
    exact UInt16.toNat_ofNat_of_lt' (show src.size < 2 ^ 16 by omega)
  have slotSome : packet.1.netSlot 0 ≠ 0 := by
    intro zero
    rw [zero] at slot
    have none : (0 : UInt16).toNat = 0 := rfl
    omega
  have slotsSome : packet.1.slotSize 0 ≠ 0 := by
    intro zero
    rw [zero] at slots
    have none : (0 : UInt16).toNat = 0 := rfl
    omega
  have data : packet.1.data.take encoded.length = encoded := List.take_left
  have encLen : ((11 + encoded.length : Nat) : Int) - (11 : Nat) = encoded.length := by omega
  have signature : ¬ (packet.1.sigHi ≠ showNetIdHigh ∨ packet.1.sigLo ≠ showNetIdLow) := by
    rintro (wrong | wrong) <;> exact wrong rfl
  have channel : (universeId * 512 + 1 - 1) % dmxUniverseSize = 0 := by
    unfold dmxUniverseSize
    omega
  have universeOf : (universeId * 512 + 1 - 1) / dmxUniverseSize = universeId := by
    unfold dmxUniverseSize
    omega
  have known : ((src.size : Int) ≠ encoded.length) = (src.size ≠ encoded.length) := by
    rw [ne_eq, Nat.cast_inj]
  have valid : ¬ ((encoded.length : Int) < 1 ∨ packet.1.netSlot 0 = 0) := by
    intro invalid
    rcases invalid with short | zero
    · omega
    · exact slotSome zero
  unfold ShowNetNode.handlePacket
  dsimp only
  rw [sized, if_neg (by omega), if_neg signature, index0, if_neg (by decide), index1, encLen,
    if_neg valid, slot, slots, channel,
    universeOf, handler, Int.toNat_natCast, Nat.add_sub_cancel_left, if_neg slotsSome,
    show 11 - magicIndexOffset = 0 from rfl, if_neg (by omega), List.drop_zero, data]
  simp

/-- The values get over if the buffer that is stored has them. -/
theorem getsOver_iff :
    GetsOver sender receiver universeId src ↔
      ∃ stored, (if src.size ≠ (encode src dmxUniverseSize).2.length then
          decode 0 (encode src dmxUniverseSize).2 buffer
        else Option.some (buffer.setRange 0 (Option.some (encode src dmxUniverseSize).2)).1) =
          Option.some stored ∧ stored.slots.take src.size = src.slots := by
  have handled := @handlePacket_populatePacket sender receiver universeId src buffer below some
    handler
  unfold GetsOver
  dsimp only at handled ⊢
  rw [handled]
  constructor
  · rintro ⟨node, result, accepted, stored, same⟩
    obtain ⟨written, decoded, pair⟩ := Option.map_eq_some_iff.mp accepted
    cases pair
    rw [AList.lookup_insert, Option.some_inj] at stored
    exact ⟨written, decoded, by rw [stored]; exact same⟩
  · intro ⟨stored, decoded, same⟩
    refine ⟨{ receiver with handlers := receiver.handlers.insert universeId stored }, stored, ?_,
      AList.lookup_insert _, same⟩
    rw [decoded]
    rfl

end

/-- Values that are taken as they are sent are not those that were encoded. -/
theorem not_taken_raw (some : 0 < src.size)
    (equal : src.size = (encode src dmxUniverseSize).2.length) :
    (buffer.setRange 0 (Option.some (encode src dmxUniverseSize).2)).1.slots.take src.size ≠
      src.slots := by
  have room : 0x100 ≤ dmxUniverseSize := by
    unfold dmxUniverseSize
    omega
  have bounded := encode_bounded src dmxUniverseSize
  intro same
  rw [DmxBuffer.setRange_inside_slots (by omega) (Nat.zero_le _), Nat.sub_zero,
    List.take_of_length_le bounded, DmxBuffer.overlay, List.take_zero, List.nil_append, equal,
    List.take_left] at same
  exact encode_ne some room same

theorem restored_iff (result : DmxBuffer) :
    Restored src.slots result ↔ result.slots.take src.size = src.slots := by
  unfold Restored DmxBuffer.size
  constructor
  · intro restored
    apply List.ext_getElem?
    intro k
    by_cases below : k < src.slots.length
    · rw [List.getElem?_take_of_lt below, restored k below]
    · rw [List.getElem?_take_eq_none (by omega), List.getElem?_eq_none (by omega)]
  · intro same k below
    rw [← same, List.getElem?_take_of_lt below]

/-- The buffers whose values get over. -/
def Fits (slots : List UInt8) : Prop :=
  ¬ LongTail slots ∧ encodedLength slots ≤ dmxUniverseSize ∧ encodedLength slots ≠ slots.length

theorem getsOver_of_fits (below : universeId < showNetMaxUniverses) (some : 0 < src.size)
    (handler : receiver.handlers.lookup universeId = .some buffer) (fits : Fits src.slots) :
    GetsOver sender receiver universeId src := by
  rw [getsOver_iff below some handler]
  obtain ⟨short, room, different⟩ := fits
  obtain ⟨fitting, length⟩ := @encode_length src dmxUniverseSize short
  have complete := fitting.mpr room
  have other : src.size ≠ (encode src dmxUniverseSize).2.length := by
    rw [length complete]
    exact fun equal => different equal.symm
  obtain ⟨count, _, inside, ended, decoded⟩ :=
    @encodeLoop_decodes src buffer dmxUniverseSize (src.size + 1) 0 0 (Nat.zero_le _) (by omega)
      short
  have all : src.slots.take count = src.slots := by
    rw [ended complete]
    exact List.take_length
  rw [if_pos other]
  refine ⟨written buffer src.slots, ?_, written_restores src buffer⟩
  rw [← all]
  exact decoded _ (Nat.lt_succ_self _)

/-- A handler whose buffer differs from the values everywhere gets something else. -/
theorem not_getsOver (below : universeId < showNetMaxUniverses) (some : 0 < src.size)
    (handler : receiver.handlers.lookup universeId = .some (opposite src))
    (misfit : ¬ Fits src.slots) : ¬ GetsOver sender receiver universeId src := by
  rw [getsOver_iff below some handler]
  intro ⟨stored, decoded, same⟩
  by_cases equal : src.size = (encode src dmxUniverseSize).2.length
  · rw [if_neg (fun different => different equal), Option.some_inj] at decoded
    rw [← decoded] at same
    exact not_taken_raw some equal same
  · rw [if_pos equal] at decoded
    have wrong : (encode src dmxUniverseSize).1 = false ∨ LongTail src.slots := by
      by_cases long : LongTail src.slots
      · exact Or.inr long
      · apply Or.inl
        obtain ⟨fitting, length⟩ := @encode_length src dmxUniverseSize long
        by_contra complete
        rw [Bool.not_eq_false] at complete
        apply misfit
        refine ⟨long, fitting.mp complete, ?_⟩
        rw [← length complete]
        exact fun same => equal same.symm
    exact encodeLoop_not_restored (Nat.zero_le _) (by omega) wrong decoded
      ((restored_iff stored).mpr same)

def ShowNetNode.handling (universeId : Nat) (buffer : DmxBuffer) : ShowNetNode :=
  ⟨⟨0, 0, 0, 0⟩, [], 0, AList.insert universeId buffer ∅⟩

theorem lookup_handling (universeId : Nat) (buffer : DmxBuffer) :
    (ShowNetNode.handling universeId buffer).handlers.lookup universeId = Option.some buffer :=
  AList.lookup_insert ∅

theorem not_roundTrips_of_misfit (below : universeId < showNetMaxUniverses) (some : 0 < src.size)
    (misfit : ¬ Fits src.slots) : ¬ RoundTrips sender universeId src := by
  intro trips
  have handler := lookup_handling universeId (opposite src)
  exact not_getsOver below some handler misfit
    (trips (.handling universeId (opposite src)) (FiniteMap.mem_of_lookup handler))

/-- Values get over to every handler if and only if their encoding is complete, has no long tail
and is not as long as they are. -/
theorem roundTrips_iff_fits (sender : ShowNetNode) (universeId : Nat) (src : DmxBuffer)
    (below : universeId < showNetMaxUniverses) (some : 0 < src.size) :
    RoundTrips sender universeId src ↔ Fits src.slots := by
  constructor
  · intro trips
    by_contra misfit
    exact not_roundTrips_of_misfit below some misfit trips
  · intro fits receiver member
    obtain ⟨buffer, handler⟩ := Option.isSome_iff_exists.mp (AList.lookup_isSome.mpr member)
    exact getsOver_of_fits below some handler fits

theorem roundTrips_four_values :
    RoundTrips (.handling 0 .new) 3 (DmxBuffer.holding [1, 2, 4, 3]) := by
  have length : encodedLength [1, 2, 4, 3] = 5 := by decide
  have tail : tailLength [1, 2, 4, 3] = 4 := by decide
  apply (roundTrips_iff_fits (.handling 0 .new) 3 (DmxBuffer.holding [1, 2, 4, 3]) (by decide)
    (by decide)).mpr
  show Fits [1, 2, 4, 3]
  unfold Fits LongTail dmxUniverseSize
  rw [length, tail]
  simp

/-- A run of three and another value are encoded to four bytes, which are taken for the values. -/
theorem same_length_misread :
    ¬ RoundTrips (.handling 0 .new) 0 (DmxBuffer.holding [5, 5, 5, 6]) := by
  have length : encodedLength [5, 5, 5, 6] = 4 := by decide
  apply not_roundTrips_of_misfit (by decide) (by decide)
  exact fun fits => fits.2.2 length

end Transfer

end OpenLighting.ShowNet
