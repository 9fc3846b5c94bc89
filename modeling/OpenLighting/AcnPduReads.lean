import OpenLighting.AcnPdu
import OpenLighting.BoundedReads

/- The inflators as they read: with offsets into the packet, and lengths that are unsigned
numbers. -/
namespace OpenLighting.Acn

open ByteCodec BoundedReads List

/-- A layer, with the `sizeof` its header. -/
structure SizedLayer (Header : Type) extends Layer Header where
  headerSize : Nat
  takes : Takes decodeHeader headerSize

def decodeLengthAt (packet : List UInt8) (offset length : Nat) :
    Except Fault (Option (Nat × Nat)) := do
  let flags ← elementAt packet offset
  if length = 0 then pure none
  else if flags &&& lengthFlag ≠ 0 then
    if length < 3 then pure none
    else
      let low ← elementAt packet (offset + 2)
      let high ← elementAt packet (offset + 1)
      let pduLength := low.toNat + high.toNat * 256 + (flags &&& lengthMask).toNat * 65536
      pure (if pduLength < 3 then none else some (pduLength, 3))
  else if length < 2 then pure none
  else
    let low ← elementAt packet (offset + 1)
    let pduLength := low.toNat + (flags &&& lengthMask).toNat * 256
    pure (if pduLength < 2 then none else some (pduLength, 2))

namespace SizedLayer
variable {Header σ : Type} (layer : SizedLayer Header)

/-- `DecodeVector`, with the number of bytes that it uses. -/
def decodeVectorAt (packet : List UInt8) (fields : Fields Header)
    (flags : UInt8) (offset length : Nat) : Except Fault (Option (UInt32 × Nat)) :=
  if flags &&& vectorFlag ≠ 0 then
    if length < layer.vectorSize.bytes then pure none
    else do
      let bytes ← copy packet offset layer.vectorSize.bytes
      pure (some (UInt32.ofNat (number bytes), layer.vectorSize.bytes))
  else pure (fields.vector.map (fun vector => (vector, 0)))

/-- `DecodeHeader`, with the number of bytes that it uses. Without its flag it gets no data. -/
def decodeHeaderAt (packet : List UInt8) (fields : Fields Header)
    (flags : UInt8) (offset length : Nat) : Except Fault (Option (Header × Nat)) :=
  if flags &&& headerFlag ≠ 0 then
    if layer.headerSize ≤ length then do
      let bytes ← copy packet offset layer.headerSize
      pure ((layer.decodeHeader bytes).map (fun decoded => (decoded.1, layer.headerSize)))
    else pure none
  else
    match fields.header with
    | none => pure none
    | some header => pure (if layer.inherits header then some (header, 0) else none)

/-- What the data of a PDU are handed to: the next inflator or `HandlePDUData`. -/
abbrev Handle (Header σ : Type) : Type := UInt32 → Header → Nat → Nat → σ → Except Fault σ

def inflatePDUAt (handle : Handle Header σ) (packet : List UInt8)
    (fields : Fields Header) (flags : UInt8) (offset length : Nat) (state : σ) :
    Except Fault (Fields Header × σ) := do
  match ← layer.decodeVectorAt packet fields flags offset length with
  | none => pure (fields, state)
  | some (vector, used) =>
    let fields := { fields with vector := some vector }
    match ← layer.decodeHeaderAt packet fields flags (offset + used) (minus length used) with
    | none => pure (fields, state)
    | some (header, headerUsed) =>
      let state ← handle vector header (offset + (used + headerUsed))
        (minus length (used + headerUsed)) state
      pure ({ fields with header := some header }, state)

/-- The loop of `InflatePDUBlock`. The block starts at `start`. -/
def blockAt (layer : SizedLayer Header) (handle : Handle Header σ) (packet : List UInt8)
    (start length : Nat) : Nat → Fields Header → Nat → σ → Except Fault (σ × Nat)
  | 0, _, _, _ => .error .unfinished
  | rounds + 1, fields, offset, state => do
    match ← decodeLengthAt packet (start + offset) (minus length offset) with
    | none => pure (state, offset)
    | some (pduLength, used) =>
      let next := (offset + pduLength) % 2 ^ 32
      let (fields, state) ←
        if next ≤ length then do
          let flags ← elementAt packet (start + offset)
          layer.inflatePDUAt handle packet fields flags (start + (offset + used))
            (minus pduLength used) state
        else pure (fields, state)
      if next < length then layer.blockAt handle packet start length rounds fields next state
      else pure (state, min next length)

def inflatePDUBlockAt (handle : Handle Header σ)
    (packet : List UInt8) (rounds start length : Nat) (state : σ) : Except Fault (σ × Nat) :=
  if length = 0 then pure (state, 0)
  else layer.blockAt handle packet start length rounds ⟨none, none⟩ 0 state

end SizedLayer

/-- The PDUs of a block that are handed on, each with the offset of its data. -/
def Layer.placedFrom {Header : Type} (layer : Layer Header) :
    Nat → Fields Header → List UInt8 → Nat → List (Inflated Header × Nat)
  | 0, _, _, _ => []
  | fuel + 1, fields, data, start =>
    match decodeLength data with
    | none => []
    | some (length, used) =>
      if length ≤ data.length then
        let (inflated, fields) :=
          layer.inflatePDU fields (data.headD 0) ((data.take length).drop used)
        inflated.toList.map (fun pdu => (pdu, start + length - pdu.data.length)) ++
          layer.placedFrom fuel fields (data.drop length) (start + length)
      else []

def Layer.placed {Header : Type} (layer : Layer Header) (data : List UInt8) (start : Nat) :
    List (Inflated Header × Nat) :=
  layer.placedFrom data.length ⟨none, none⟩ data start

section Lengths
variable {packet data : List UInt8} {offset : Nat}

/-- In front of a byte of the packet, `DecodeLength` reads no other bytes than those of the
block. -/
theorem decodeLengthAt_lies (lies : LiesAt packet offset data) (some : data ≠ []) :
    decodeLengthAt packet offset data.length = .ok (decodeLength data) := by
  cases data with
  | nil => exact absurd rfl some
  | cons flags rest =>
    have first : elementAt packet offset = .ok flags := by
      have found := lies.elementAt (show 0 < (flags :: rest).length from Nat.zero_lt_succ _)
      rwa [Nat.add_zero] at found
    have positive : (flags :: rest).length ≠ 0 := Nat.succ_ne_zero _
    unfold decodeLengthAt decodeLength
    rw [first, ok_bind, if_neg positive]
    dsimp only
    split
    · cases rest with
      | nil => rfl
      | cons high others =>
        cases others with
        | nil => rfl
        | cons low others =>
          have second := lies.elementAt (show 2 < (flags :: high :: low :: others).length by
            simp only [length_cons]
            omega)
          have third := lies.elementAt (show 1 < (flags :: high :: low :: others).length by
            simp only [length_cons]
            omega)
          rw [if_neg (by simp only [length_cons]; omega), second, third]
          rfl
    · cases rest with
      | nil => rfl
      | cons low others =>
        have second := lies.elementAt (show 1 < (flags :: low :: others).length by
          simp only [length_cons]
          omega)
        rw [if_neg (by simp only [length_cons]; omega), second]
        rfl

/-- The length of a PDU has 20 bits. -/
theorem decodeLength_lt {length used : Nat} (decoded : decodeLength data = some (length, used)) :
    length < 2 ^ 20 := by
  cases data with
  | nil => cases decoded
  | cons flags rest =>
    have top : (flags &&& lengthMask).toNat ≤ 15 := by
      exact Nat.and_le_right
    unfold decodeLength at decoded
    dsimp only at decoded
    split at decoded
    · cases rest with
      | nil => cases decoded
      | cons high others =>
        cases others with
        | nil => cases decoded
        | cons low others =>
          have highest := high.toNat_lt
          have lowest := low.toNat_lt
          dsimp only at decoded
          split at decoded
          · cases decoded
          · cases decoded
            omega
    · cases rest with
      | nil => cases decoded
      | cons low others =>
        have lowest := low.toNat_lt
        dsimp only at decoded
        split at decoded
        · cases decoded
        · cases decoded
          omega

end Lengths

namespace SizedLayer
variable {Header σ : Type}

/-- A PDU and the offset of its data, as they are handed on. -/
def handOver (handle : Handle Header σ) (state : σ) (pdu : Inflated Header × Nat) :
    Except Fault σ :=
  handle pdu.1.vector pdu.1.header pdu.2 pdu.1.data.length state

section Pdu
variable {packet data : List UInt8} {offset : Nat} {fields : Fields Header} {flags : UInt8}
  (layer : SizedLayer Header)

theorem decodeVectorAt_lies (lies : LiesAt packet offset data) (fields : Fields Header)
    (flags : UInt8) :
    (layer.decodeVector fields flags data = none ∧
      layer.decodeVectorAt packet fields flags offset data.length = .ok none) ∨
    ∃ vector used, used ≤ data.length ∧
      layer.decodeVector fields flags data = some (vector, data.drop used) ∧
      layer.decodeVectorAt packet fields flags offset data.length = .ok (some (vector, used)) := by
  unfold decodeVectorAt Layer.decodeVector
  by_cases present : flags &&& vectorFlag ≠ 0
  · rw [if_pos present, if_pos present]
    by_cases short : data.length < layer.vectorSize.bytes
    · rw [if_pos short, if_pos short]
      exact .inl ⟨rfl, rfl⟩
    · have copied := lies.copy (show 0 + layer.vectorSize.bytes ≤ data.length by omega)
      rw [Nat.add_zero, drop_zero] at copied
      rw [if_neg short, if_neg short, copied]
      exact .inr ⟨_, _, by omega, rfl, rfl⟩
  · rw [if_neg present, if_neg present]
    cases fields.vector with
    | none => exact .inl ⟨rfl, rfl⟩
    | some vector => exact .inr ⟨vector, 0, Nat.zero_le _, rfl, rfl⟩

theorem decodeHeaderAt_lies (lies : LiesAt packet offset data) (fields : Fields Header)
    (flags : UInt8) :
    (layer.headerOf fields flags data = none ∧
      layer.decodeHeaderAt packet fields flags offset data.length = .ok none) ∨
    ∃ header used, used ≤ data.length ∧
      layer.headerOf fields flags data = some (header, data.drop used) ∧
      layer.decodeHeaderAt packet fields flags offset data.length = .ok (some (header, used)) := by
  unfold decodeHeaderAt Layer.headerOf
  by_cases present : flags &&& headerFlag ≠ 0
  · rw [if_pos present, if_pos present, layer.takes.eq data]
    by_cases enough : layer.headerSize ≤ data.length
    · have copied := lies.copy (show 0 + layer.headerSize ≤ data.length by omega)
      rw [Nat.add_zero, drop_zero] at copied
      rw [if_pos enough, if_pos enough, copied, ok_bind]
      cases layer.decodeHeader (data.take layer.headerSize) with
      | none => exact .inl ⟨rfl, rfl⟩
      | some decoded => exact .inr ⟨decoded.1, _, enough, rfl, rfl⟩
    · rw [if_neg enough, if_neg enough]
      exact .inl ⟨rfl, rfl⟩
  · rw [if_neg present, if_neg present]
    cases fields.header with
    | none => exact .inl ⟨rfl, rfl⟩
    | some header =>
      dsimp only
      by_cases serves : layer.inherits header = true
      · rw [if_pos serves, if_pos serves]
        exact .inr ⟨header, 0, Nat.zero_le _, rfl, rfl⟩
      · rw [if_neg serves, if_neg serves]
        exact .inl ⟨rfl, rfl⟩

/-- `InflatePDU` reads no other bytes than those of the PDU, unless what it hands the data to
does. -/
theorem inflatePDUAt_lies (lies : LiesAt packet offset data) (counted : data.length < 2 ^ 32)
    (handle : Handle Header σ) (state : σ) :
    layer.inflatePDUAt handle packet fields flags offset data.length state =
      (fun state => ((layer.inflatePDU fields flags data).2, state)) <$>
        ((layer.inflatePDU fields flags data).1.toList.map (fun pdu =>
          (pdu, offset + data.length - pdu.data.length))).foldlM (handOver handle) state := by
  unfold inflatePDUAt Layer.inflatePDU
  rcases layer.decodeVectorAt_lies lies fields flags with
    ⟨missing, none⟩ | ⟨vector, used, less, decoded, found⟩
  · rw [missing, none]
    rfl
  · have behind := layer.decodeHeaderAt_lies (lies.drop used)
      { fields with vector := some vector } flags
    rw [length_drop] at behind
    rw [decoded, found, ok_bind]
    dsimp only
    rw [minus_eq less counted]
    rcases behind with ⟨missing, none⟩ | ⟨header, headerUsed, fewer, decoded, found⟩
    · rw [missing, none]
      rfl
    · have place : offset + data.length - ((data.drop used).drop headerUsed).length =
          offset + (used + headerUsed) := by
        rw [length_drop, length_drop]
        omega
      have length : ((data.drop used).drop headerUsed).length =
          minus data.length (used + headerUsed) := by
        rw [length_drop, length_drop, minus_eq (by omega) counted]
        omega
      rw [decoded, found, ok_bind]
      dsimp only [Option.toList, List.map]
      rw [foldlM_cons, handOver, place, length]
      cases handle vector header (offset + (used + headerUsed))
        (minus data.length (used + headerUsed)) state with
      | error fault | ok state => rfl

end Pdu

section Block
variable {packet data : List UInt8} {start : Nat} (layer : SizedLayer Header)

theorem placedFrom_nil (fuel : Nat) (fields : Fields Header) (start : Nat) :
    layer.placedFrom fuel fields [] start = [] := by
  cases fuel with
  | zero | succ fuel => rfl

theorem inflatePDU_data {fields : Fields Header} {flags : UInt8} {pdu : Inflated Header}
    (inflated : (layer.inflatePDU fields flags data).1 = some pdu) :
    ∃ used, used ≤ data.length ∧ pdu.data = data.drop used := by
  unfold Layer.inflatePDU at inflated
  rcases layer.decodeVectorAt_lies (LiesAt.whole data) fields flags with
    ⟨missing, _⟩ | ⟨vector, used, less, decoded, _⟩
  · rw [missing] at inflated
    cases inflated
  · rw [decoded] at inflated
    dsimp only at inflated
    rcases layer.decodeHeaderAt_lies ((LiesAt.whole data).drop used)
      { fields with vector := some vector } flags with
      ⟨missing, _⟩ | ⟨header, headerUsed, fewer, decoded, _⟩
    · rw [missing] at inflated
      cases inflated
    · rw [decoded] at inflated
      cases inflated
      rw [length_drop] at fewer
      exact ⟨used + headerUsed, by omega, drop_drop⟩

section

variable (lies : LiesAt packet start data)
include lies

theorem placedFrom_lies {fuel : Nat} {fields : Fields Header} :
    ∀ pdu ∈ layer.placedFrom fuel fields data start,
      LiesAt packet pdu.2 pdu.1.data ∧ pdu.1.data.length ≤ data.length := by
  induction fuel generalizing fields data start with
  | zero => exact fun _ member => absurd member not_mem_nil
  | succ fuel ih =>
    intro pdu member
    rw [Layer.placedFrom] at member
    cases decoded : decodeLength data with
    | none =>
      rw [decoded] at member
      cases member
    | some field =>
      have ⟨length, used⟩ := field
      have positive := used_of_decodeLength decoded
      rw [decoded] at member
      dsimp only at member
      split at member
      · have whole := (lies.take length).drop used
        have length_pdu : ((data.take length).drop used).length = length - used := by
          rw [length_drop, length_take]
          omega
        rcases mem_append.mp member with first | other
        · have ⟨inflated, found, same⟩ := mem_map.mp first
          have ⟨behind, less, data_eq⟩ := layer.inflatePDU_data (Option.mem_toList.mp found)
          have place : start + length - inflated.data.length = start + used + behind := by
            rw [data_eq, length_drop]
            omega
          rw [← same]
          rw [place]
          constructor
          · rw [data_eq]
            exact whole.drop behind
          · rw [data_eq, length_drop]
            omega
        · have ⟨placed, less⟩ := ih (lies.drop length) pdu other
          rw [length_drop] at less
          exact ⟨placed, by omega⟩
      · cases member

theorem placed_lies :
    ∀ pdu ∈ layer.placed data start,
      LiesAt packet pdu.2 pdu.1.data ∧ pdu.1.data.length ≤ data.length :=
  layer.placedFrom_lies lies

/-- From an offset inside of the block on, the loop does what is done with the PDUs behind it. Each
round uses a byte or more, so that there are never more rounds than bytes. -/
theorem blockAt_lies (small : data.length + 2 ^ 20 ≤ 2 ^ 32) (handle : Handle Header σ)
    {rounds fuel offset : Nat} (inside : offset < data.length)
    (enough : data.length - offset ≤ rounds) (fueled : data.length - offset ≤ fuel)
    (fields : Fields Header) (state : σ) :
    layer.blockAt handle packet start data.length rounds fields offset state =
      (fun state => (state, offset + (layer.inflateFrom fuel fields (data.drop offset)).2)) <$>
        (layer.placedFrom fuel fields (data.drop offset) (start + offset)).foldlM
          (handOver handle) state := by
  induction rounds generalizing fuel offset fields state with
  | zero => omega
  | succ rounds ih =>
    obtain ⟨fuel', counted⟩ : ∃ fuel', fuel = fuel' + 1 := ⟨fuel - 1, by omega⟩
    have rest := lies.drop offset
    have length_rest := @List.length_drop _ offset data
    have some : data.drop offset ≠ [] := ne_nil_of_length_pos (by omega)
    have decodes := decodeLengthAt_lies rest some
    rw [length_rest] at decodes
    rw [blockAt, minus_eq (by omega) (by omega), decodes, ok_bind, counted, Layer.inflateFrom,
      Layer.placedFrom]
    cases decoded : decodeLength (data.drop offset) with
    | none => rfl
    | some field =>
      obtain ⟨length, used⟩ := field
      have positive := used_of_decodeLength decoded
      have bounded := decodeLength_lt decoded
      dsimp only
      rw [Nat.mod_eq_of_lt (show offset + length < 2 ^ 32 by omega)]
      by_cases fits : length ≤ (data.drop offset).length
      · have first : elementAt packet (start + offset) = .ok ((data.drop offset).headD 0) := by
          have found := rest.elementAt (show 0 < (data.drop offset).length by omega)
          rw [Nat.add_zero] at found
          rw [found, headD_eq_head?_getD, List.head?_eq_getElem?,
            List.getElem?_eq_getElem (by omega), Option.getD_some]
        have length_pdu : (((data.drop offset).take length).drop used).length = length - used := by
          rw [length_drop, length_take]
          omega
        have pdu := @layer.inflatePDUAt_lies _ σ _ _ _ fields ((data.drop offset).headD 0)
          ((rest.take length).drop used) (by omega) handle state
        have ends : start + offset + used + (length - used) = start + offset + length := by omega
        rw [length_pdu, ends, Nat.add_assoc start] at pdu
        rw [if_pos fits, if_pos fits, if_pos (by omega), first, ok_bind,
          minus_eq positive.2 (by omega), pdu, bind_map_left, foldlM_append, map_bind]
        refine bind_congr fun state => ?_
        rw [drop_drop, Nat.add_assoc start]
        by_cases more : offset + length < data.length
        · have others := ih more (by omega) (show data.length - (offset + length) ≤ fuel' by omega)
            (layer.inflatePDU fields ((data.drop offset).headD 0)
              (((data.drop offset).take length).drop used)).2 state
          rw [if_pos more, others]
          simp only [Nat.add_assoc]
        · have done : data.drop (offset + length) = [] := drop_eq_nil_of_le (by omega)
          rw [if_neg more, done, placedFrom_nil, Layer.inflateFrom_nil,
            Nat.min_eq_left (by omega)]
          rfl
      · have whole : min (offset + length) data.length = offset + (data.drop offset).length := by
          omega
        rw [if_neg fits, if_neg fits, if_neg (show ¬ offset + length ≤ data.length by omega)]
        show (if offset + length < data.length then _ else _) = _
        rw [if_neg (by omega), whole]
        rfl

/-- `InflatePDUBlock` on a part of the packet: it comes to its end, and reads no other bytes
unless what it hands the PDUs to does. -/
theorem inflatePDUBlockAt_lies (small : data.length + 2 ^ 20 ≤ 2 ^ 32) (handle : Handle Header σ)
    {rounds : Nat} (enough : data.length ≤ rounds) (state : σ) :
    layer.inflatePDUBlockAt handle packet rounds start data.length state =
      (fun state => (state, (layer.inflatePDUBlock data).2)) <$>
        (layer.placed data start).foldlM (handOver handle) state := by
  unfold inflatePDUBlockAt Layer.inflatePDUBlock Layer.placed
  by_cases empty : data.length = 0
  · rw [if_pos empty, eq_nil_of_length_eq_zero empty]
    rfl
  · have block := layer.blockAt_lies lies small handle (Nat.pos_of_ne_zero empty) enough
      (Nat.sub_le data.length 0) ⟨none, none⟩ state
    rw [if_neg empty, block, drop_zero, Nat.add_zero]
    simp

end

end Block

end SizedLayer

section Placed
variable {Header : Type} (layer : Layer Header)

theorem placedFrom_fst (fuel : Nat) (fields : Fields Header) (data : List UInt8) (start : Nat) :
    (layer.placedFrom fuel fields data start).map Prod.fst =
      (layer.inflateFrom fuel fields data).1 := by
  induction fuel generalizing fields data start with
  | zero => rfl
  | succ fuel ih =>
    rw [Layer.placedFrom, Layer.inflateFrom]
    cases decodeLength data with
    | none => rfl
    | some field =>
      dsimp only
      split
      · rw [map_append, map_map, ih]
        exact congrArg (· ++ _) (map_id' _)
      · rfl

/-- What is placed are the PDUs that are handed on. -/
theorem placed_fst (data : List UInt8) (start : Nat) :
    (layer.placed data start).map Prod.fst = (layer.inflatePDUBlock data).1 :=
  placedFrom_fst layer _ _ data start

theorem inflateFrom_le (fuel : Nat) (fields : Fields Header) (data : List UInt8) :
    (layer.inflateFrom fuel fields data).2 ≤ data.length := by
  induction fuel generalizing fields data with
  | zero => exact Nat.zero_le _
  | succ fuel ih =>
    rw [Layer.inflateFrom]
    cases decodeLength data with
    | none => exact Nat.zero_le _
    | some field =>
      dsimp only
      split
      · have others := ih (layer.inflatePDU fields (data.headD 0)
          ((data.take field.1).drop field.2)).2 (data.drop field.1)
        rw [length_drop] at others
        omega
      · omega

/-- A block never uses more than there is. -/
theorem inflatePDUBlock_le (data : List UInt8) : (layer.inflatePDUBlock data).2 ≤ data.length :=
  inflateFrom_le layer _ _ data

end Placed

end OpenLighting.Acn
