import OpenLighting.DmxBufferSharing

/- The member functions on shared memory do what they do on slots. -/
namespace OpenLighting.DmxMemory

open OpenLighting.StringUtils Buffer List

section Reading

variable {heap : Heap} {others : List (Option Buffer)} {buffer : Buffer}

theorem Heap.read_live {block offset length : Nat} (safe : heap.readFreed = false)
    (live : length ≠ 0 → heap.count block ≠ 0) :
    heap.read block offset length = (heap, heap.bytes block offset length) := by
  have same : (heap.readFreed || (length != 0 && heap.count block == 0)) = heap.readFreed := by
    by_cases some : length = 0
    · simp [some]
    · simp [safe, live some]
  unfold Heap.read
  rw [same]

theorem Heap.bytes_of_memory {after : Heap} (same : after.memory = heap.memory)
    (block offset length : Nat) : after.bytes block offset length = heap.bytes block offset length := by
  unfold Heap.bytes
  rw [same]

theorem holding_take (slots : List UInt8) (count : Nat) (enough : dmxUniverseSize ≤ count ∨
    slots.length ≤ count) : DmxBuffer.holding (slots.take count) = .holding slots := by
  apply DmxBuffer.ext (DmxBuffer.holding_allocated _)
  unfold DmxBuffer.holding
  dsimp only
  rw [take_take]
  cases enough with
  | inl large => rw [Nat.min_eq_left large]
  | inr all =>
    by_cases small : dmxUniverseSize ≤ count
    · rw [Nat.min_eq_left small]
    · rw [Nat.min_eq_right (by omega), take_of_length_le all,
        take_of_length_le (by omega)]

theorem becomes_same (focus : Focus heap others buffer) :
    Becomes heap others (heap, buffer) (contents heap buffer) :=
  ⟨focus, fun _ _ => rfl, rfl⟩

theorem contents_size (sound : Sound heap buffer) :
    (contents heap buffer).size = buffer.length := by
  unfold DmxBuffer.size
  cases points : buffer.block with
  | none =>
    rw [sound.blank points]
    unfold contents
    rw [points]
    rfl
  | some block => rw [contents_slots sound points, Heap.bytes_length]

theorem contents_allocated : (contents heap buffer).allocated = buffer.block.isSome := by
  unfold contents
  cases buffer.block <;> rfl

end Reading

section Filling

variable {heap : Heap} {others : List (Option Buffer)} {buffer : Buffer}

/-- New slots for a buffer, whatever it held. -/
theorem renew_put (focus : Focus heap others buffer) {data : List UInt8}
    (bounded : data.length ≤ dmxUniverseSize) :
    Becomes heap others
      ((buffer.renew heap).2.put (buffer.renew heap).1 0 data,
        { (buffer.renew heap).2 with length := data.length }) (.holding data) := by
  have renewed := renew_focus focus
  exact (put_all renewed.1 renewed.2.1 bounded).of_kept (kept_of_memory renewed.2.2)

section
variable (focus : Focus heap others buffer)
include focus

/-- `Set` from bytes of the caller. -/
theorem set_outside (data : Option (List UInt8)) :
    Becomes heap others (dropResult (buffer.set heap (data.map .outside)))
      ((contents heap buffer).set data).1 := by
  cases data with
  | none => exact becomes_same focus
  | some data =>
    have length : (data.take (min data.length dmxUniverseSize)).length =
        min data.length dmxUniverseSize := by
      rw [length_take]
      omega
    have filled := @renew_put _ _ _ focus (data.take (min data.length dmxUniverseSize))
      (by rw [length]; omega)
    rw [length, holding_take _ _ (by omega)] at filled
    exact filled

/-- `Set` from a block that is not freed on the way. -/
theorem set_inside {block length : Nat} (bounded : length ≤ dmxUniverseSize)
    (live : length ≠ 0 → (buffer.renew heap).1.count block ≠ 0) :
    Becomes heap others (dropResult (buffer.set heap (some (.inside block length))))
      (.holding (heap.bytes block 0 length)) := by
  have renewed := renew_focus focus
  have filled := @renew_put _ _ _ focus (heap.bytes block 0 length)
    (by rw [Heap.bytes_length]; exact bounded)
  rw [Heap.bytes_length] at filled
  unfold Buffer.set Source.load Source.length
  dsimp only
  rw [Nat.min_eq_left bounded, Heap.read_live renewed.1.safe live,
    Heap.bytes_of_memory renewed.2.2]
  exact filled

/-- The slots are dropped, the memory is not. -/
theorem emptied_becomes (present : buffer.block ≠ none) :
    Becomes heap others (heap, { buffer with length := 0 }) (.holding []) := by
  refine ⟨⟨focus.counted, ⟨focus.own.alone, fun _ => rfl, Nat.zero_le _⟩, focus.rest, focus.fresh,
    focus.safe⟩, fun _ _ => rfl, ?_⟩
  obtain ⟨block, points⟩ := Option.ne_none_iff_exists'.mp present
  rw [points]
  rfl

theorem setFromString_becomes (input : List UInt8) :
    Becomes heap others (dropResult (buffer.setFromString heap input))
      ((contents heap buffer).setFromString input).1 := by
  unfold setFromString DmxBuffer.setFromString
  dsimp only
  by_cases none : input.isEmpty
  · rw [if_pos none, if_pos none]
    have renewed := renew_focus focus
    obtain ⟨block, points, _⟩ := renewed.2.1
    exact (emptied_becomes renewed.1 (by rw [points]; simp)).of_kept (kept_of_memory renewed.2.2)
  · rw [if_neg none, if_neg none]
    have filled := @renew_put _ _ _ focus
      (((stringSplit input [44]).take dmxUniverseSize).map (fun value => UInt8.ofInt (atoi value)))
      (by rw [length_map]; exact length_take_le _ _)
    rw [map_take, holding_take _ _ (Or.inl (Nat.le_refl _)), ← map_take] at filled
    exact filled

theorem reset_becomes :
    Becomes heap others (heap, buffer.reset) (contents heap buffer).reset := by
  unfold reset DmxBuffer.reset
  rw [contents_allocated]
  by_cases present : buffer.block.isSome
  · rw [if_pos present, if_pos present]
    exact emptied_becomes focus (Option.isSome_iff_ne_none.mp present)
  · rw [if_neg present, if_neg present]
    exact becomes_same focus

theorem blackout_becomes :
    Becomes heap others (dropResult (buffer.blackout heap)) (contents heap buffer).blackout.1 := by
  have filled := @renew_put _ _ _ focus (List.replicate dmxUniverseSize 0)
    (by rw [length_replicate])
  rw [length_replicate] at filled
  exact filled

end

end Filling

section Duplicating

variable {heap : Heap} {others : List (Option Buffer)} {buffer : Buffer} {block : Nat}

theorem renew_own (flag : buffer.copyOnWrite = false) (points : buffer.block = some block) :
    buffer.renew heap = (heap, buffer) := by
  unfold renew
  rw [flag, if_neg Bool.false_ne_true]
  unfold initIfNeeded
  dsimp only
  rw [points]

theorem set_own {other length : Nat} (flag : buffer.copyOnWrite = false)
    (points : buffer.block = some block) (safe : heap.readFreed = false)
    (live : heap.count other ≠ 0) (bounded : length ≤ dmxUniverseSize) :
    buffer.set heap (some (.inside other length)) =
      (buffer.put heap 0 (heap.bytes other 0 length), { buffer with length := length }, true) := by
  unfold Buffer.set Source.load Source.length
  dsimp only
  rw [renew_own flag points, Nat.min_eq_left bounded, Heap.read_live safe (fun _ => live)]

section
variable (focus : Focus heap others buffer) (points : buffer.block = some block)
include focus points

theorem duplicateIfNeeded_shared (shared : 1 < heap.count block) (flag : buffer.copyOnWrite = true) :
    buffer.duplicateIfNeeded heap =
      let own := init (buffer.cleanupMemory heap).1 ⟨none, false, 0⟩
      (own.2.put own.1 0 (heap.bytes block 0 buffer.length),
        { own.2 with length := buffer.length }) := by
  have fresh : block ≠ heap.next := by
    rintro rfl
    rw [focus.fresh _ (Nat.le_refl _)] at shared
    omega
  have kept : (init heap { buffer with copyOnWrite := false }).1.count block =
      heap.count block := if_neg fresh
  have filled := @set_own (init heap { buffer with copyOnWrite := false }).1
    (init heap { buffer with copyOnWrite := false }).2 _ block buffer.length rfl rfl
    focus.safe (by omega) focus.own.bounded
  have several : ¬ heap.count block = 1 := by omega
  have unfolded : buffer.duplicateIfNeeded heap =
      let own := init heap { buffer with copyOnWrite := false }
      let result := own.2.set own.1 (some (.inside block buffer.length))
      (result.1.setCount block (result.1.count block - 1), result.2.1) := by
    unfold duplicateIfNeeded
    rw [points]
    simp only [several, and_false, if_false, flag, shared, and_self, if_true]
    rfl
  rw [unfolded]
  dsimp only
  rw [filled]
  have counts : ∀ other, (if other = block then heap.count block - 1 else
      if other = heap.next then 1 else heap.count other) =
        if other = heap.next then 1 else
          if other = block then heap.count block - 1 else heap.count other := by
    intro other
    by_cases same : other = block
    · rw [if_pos same, if_neg (by omega), if_pos same]
    · rw [if_neg same, if_neg same]
  unfold cleanupMemory
  rw [points]
  apply Prod.ext
  · apply Heap.ext
    · funext other
      exact (congrArg (fun count => if other = block then count - 1 else
        if other = heap.next then 1 else heap.count other) kept).trans (counts other)
    · rfl
    · rfl
    · rfl
  · rfl

theorem duplicate_shared (shared : 1 < heap.count block) (flag : buffer.copyOnWrite = true) :
    Becomes heap others (buffer.duplicateIfNeeded heap) (contents heap buffer) ∧
      Owned (buffer.duplicateIfNeeded heap).1 (buffer.duplicateIfNeeded heap).2 ∧
      (buffer.duplicateIfNeeded heap).2.length = buffer.length := by
  have cleaned := cleanupMemory_focus focus
  have counted := cleaned.1.counted
  rw [cleaned.2.1] at counted
  have alone : Focus (buffer.cleanupMemory heap).1 others ⟨none, false, 0⟩ := by
    refine ⟨counted, ⟨?_, fun _ => rfl, Nat.zero_le _⟩, cleaned.1.rest, cleaned.1.fresh,
      cleaned.1.safe⟩
    intro _ other holds
    cases holds
  have fresh := init_focus alone rfl
  have owned : Owned (init (buffer.cleanupMemory heap).1 ⟨none, false, 0⟩).1
      (init (buffer.cleanupMemory heap).1 ⟨none, false, 0⟩).2 := ⟨_, rfl, fresh.2⟩
  have filled := @put_all _ _ _ fresh.1 owned (heap.bytes block 0 buffer.length)
    (by rw [Heap.bytes_length]; exact focus.own.bounded)
  rw [Heap.bytes_length, ← contents_of_block points] at filled
  rw [duplicateIfNeeded_shared focus points shared flag]
  have kept : Kept heap (init (buffer.cleanupMemory heap).1 ⟨none, false, 0⟩).1 others :=
    kept_of_memory cleaned.2.2
  exact ⟨filled.of_kept kept, ⟨_, rfl, fresh.2⟩, rfl⟩

theorem duplicateIfNeeded_becomes :
    Becomes heap others (buffer.duplicateIfNeeded heap) (contents heap buffer) ∧
      Owned (buffer.duplicateIfNeeded heap).1 (buffer.duplicateIfNeeded heap).2 ∧
      (buffer.duplicateIfNeeded heap).2.length = buffer.length := by
  have count := focus.count_own points
  cases flag : buffer.copyOnWrite with
  | false =>
    have once := focus.own.alone flag block points
    have same : buffer.duplicateIfNeeded heap = (heap, buffer) := by
      simp [duplicateIfNeeded, points, flag]
    rw [same]
    exact ⟨becomes_same focus, ⟨block, points, once⟩, rfl⟩
  | true =>
    by_cases once : heap.count block = 1
    · have cleared : buffer.duplicateIfNeeded heap =
          (heap, { buffer with copyOnWrite := false }) := by
        simp [duplicateIfNeeded, points, flag, once]
      rw [cleared]
      refine ⟨⟨?_, fun _ _ => rfl, rfl⟩, ⟨block, points, once⟩, rfl⟩
      refine ⟨focus.counted, ⟨?_, focus.own.blank, focus.own.bounded⟩, focus.rest, focus.fresh,
        focus.safe⟩
      intro _ other holds
      rw [points] at holds
      cases holds
      exact once
    · exact duplicate_shared focus points (by omega) flag

end

end Duplicating

section Ranges

variable {heap : Heap} {others : List (Option Buffer)} {buffer : Buffer}

section

variable (focus : Focus heap others buffer)
include focus

theorem blackoutIfNeeded_becomes :
    Becomes heap others (buffer.blackoutIfNeeded heap) (contents heap buffer).prepared ∧
      (buffer.blackoutIfNeeded heap).2.block ≠ none := by
  have allocated := @contents_allocated heap buffer
  unfold blackoutIfNeeded DmxBuffer.prepared
  cases points : buffer.block with
  | none =>
    rw [points] at allocated
    rw [allocated]
    have black := blackout_becomes focus
    refine ⟨black, ?_⟩
    obtain ⟨block, own, _⟩ := (renew_focus focus).2.1
    exact Option.ne_none_iff_exists'.mpr ⟨block, own⟩
  | some block =>
    rw [points, Option.isSome_some] at allocated
    rw [if_pos allocated]
    exact ⟨becomes_same focus, by rw [points]; simp⟩

/-- The slots from an offset on are written, unless the offset is behind them. -/
theorem setSlots_becomes {offset : Nat} {data : List UInt8}
    (bounded : offset + data.length ≤ dmxUniverseSize) :
    Becomes heap others (dropResult (buffer.setSlots heap offset data))
      (if (contents heap buffer).prepared.size < offset then (contents heap buffer).prepared
        else .holding (DmxBuffer.overlay (contents heap buffer).prepared.slots offset data)) := by
  obtain ⟨black, present⟩ := blackoutIfNeeded_becomes focus
  obtain ⟨block, points⟩ := Option.ne_none_iff_exists'.mp present
  have size := contents_size black.focus.own
  rw [black.value] at size
  unfold setSlots
  dsimp only
  by_cases behind : (buffer.blackoutIfNeeded heap).2.length < offset
  · rw [if_pos behind, if_pos (by omega)]
    exact black
  · rw [if_neg behind, if_neg (by omega)]
    obtain ⟨duplicated, owned, length⟩ := duplicateIfNeeded_becomes black.focus points
    have written := put_inside duplicated.focus owned (by rw [length]; omega) bounded
    rw [duplicated.value, black.value] at written
    exact (written.of_kept duplicated.kept).of_kept black.kept

theorem setRange_becomes (offset : Nat) (data : Option (List UInt8)) :
    Becomes heap others (dropResult (buffer.setRange heap offset data))
      ((contents heap buffer).setRange offset data).1 := by
  cases data with
  | none => exact becomes_same focus
  | some data =>
    unfold setRange DmxBuffer.setRange
    dsimp only
    by_cases above : dmxUniverseSize ≤ offset
    · rw [if_pos above, if_pos above]
      exact becomes_same focus
    · rw [if_neg above, if_neg above]
      have written := @setSlots_becomes _ _ _ focus offset (data.take (dmxUniverseSize - offset))
        (by rw [length_take]; omega)
      split at written
      · next behind =>
          rw [if_pos behind]
          exact written
      · next inside =>
          rw [if_neg inside]
          exact written

theorem setRangeToValue_becomes (offset : Nat) (value : UInt8) (length : Nat) :
    Becomes heap others (dropResult (buffer.setRangeToValue heap offset value length))
      ((contents heap buffer).setRangeToValue offset value length).1 := by
  rw [DmxBuffer.setRangeToValue_eq]
  have range := setRange_becomes focus offset (some (List.replicate length value))
  unfold setRange at range
  dsimp only at range
  rw [take_replicate, Nat.min_comm] at range
  exact range

theorem setChannel_becomes (channel : Nat) (data : UInt8) :
    Becomes heap others (buffer.setChannel heap channel data)
      ((contents heap buffer).setChannel channel data) := by
  unfold setChannel DmxBuffer.setChannel
  by_cases above : dmxUniverseSize ≤ channel
  · rw [if_pos above, if_pos above]
    exact becomes_same focus
  · rw [if_neg above, if_neg above]
    exact setSlots_becomes focus (by rw [length_singleton]; omega)

end

end Ranges

section Merging

variable {heap : Heap} {others : List (Option Buffer)} {buffer : Buffer}

/-- What `HTPMerge` starts with. -/
theorem prepareMerge_becomes (focus : Focus heap others buffer) :
    Becomes heap others (buffer.prepareMerge heap) (.holding (contents heap buffer).slots) ∧
      Owned (buffer.prepareMerge heap).1 (buffer.prepareMerge heap).2 := by
  unfold prepareMerge initIfNeeded
  cases points : buffer.block with
  | none =>
    have fresh := init_focus focus points
    have duplicated := duplicateIfNeeded_becomes fresh.1 rfl
    have kept : Kept heap (buffer.init heap).1 others := kept_of_memory rfl
    have empty : contents (buffer.init heap).1 (buffer.init heap).2 =
        .holding (contents heap buffer).slots := by
      unfold contents
      rw [points]
      rfl
    rw [empty] at duplicated
    exact ⟨duplicated.1.of_kept kept, duplicated.2.1⟩
  | some block =>
    have duplicated := duplicateIfNeeded_becomes focus points
    have allocated : (contents heap buffer).allocated = true := by
      rw [contents_allocated, points]
      rfl
    rw [DmxBuffer.holding_self allocated]
    exact ⟨duplicated.1, duplicated.2.1⟩

theorem Heap.bytes_slice {block offset length size : Nat} (inside : offset + length ≤ size) :
    heap.bytes block offset length = ((heap.bytes block 0 size).drop offset).take length := by
  apply ext_getElem?
  intro index
  rw [Heap.bytes_getElem?]
  by_cases below : index < length
  · rw [if_pos below, List.getElem?_take_of_lt below, List.getElem?_drop, Heap.bytes_getElem?,
      if_pos (by omega), Nat.zero_add]
  · rw [if_neg below, List.getElem?_take_eq_none (by omega)]

theorem fetch_eq (focus : Focus heap others buffer) {other : Buffer}
    (present : other = buffer ∨ some other ∈ others) {offset length : Nat}
    (inside : offset + length ≤ other.length) :
    other.fetch heap offset length =
      (heap, ((contents heap other).slots.drop offset).take length) := by
  have sound : Sound heap other := by
    cases present with
    | inl same =>
      rw [same]
      exact focus.own
    | inr member => exact focus.rest other member
  unfold fetch
  cases points : other.block with
  | none =>
    have nothing : (contents heap other).slots = [] := by
      unfold contents
      rw [points]
      rfl
    rw [nothing, drop_nil, take_nil]
  | some block =>
    have live : heap.count block ≠ 0 := by
      cases present with
      | inl same =>
        rw [same] at points
        have count := focus.count_own points
        omega
      | inr member =>
        have shared := references_pos member points
        have count := focus.counted block
        omega
    dsimp only
    rw [Heap.read_live focus.safe (fun _ => live), contents_slots sound points,
      Heap.bytes_slice inside]

theorem owned_put (owned : Owned heap buffer) (offset : Nat) (data : List UInt8) :
    Owned (buffer.put heap offset data) buffer := by
  obtain ⟨block, points, once⟩ := owned
  refine ⟨block, points, ?_⟩
  unfold put
  rw [points]
  exact once

/-- The slots that both buffers have. -/
theorem mergeCommon_becomes (focus : Focus heap others buffer) (owned : Owned heap buffer)
    (slots : List UInt8) :
    Becomes heap others
      (buffer.put heap 0 (List.zipWith SlotMaximum.larger (contents heap buffer).slots slots),
        buffer)
      (.holding (List.zipWith SlotMaximum.larger (contents heap buffer).slots slots ++
        (contents heap buffer).slots.drop slots.length)) := by
  have size := contents_size focus.own
  have bounded := focus.own.bounded
  unfold DmxBuffer.size at size
  have length : (List.zipWith SlotMaximum.larger (contents heap buffer).slots slots).length =
      min buffer.length slots.length := by
    rw [length_zipWith, size]
  have written := put_inside focus owned (Nat.zero_le _)
    (by rw [Nat.zero_add, length]; exact Nat.le_trans (Nat.min_le_left _ _) bounded)
  have same : max buffer.length (0 + (List.zipWith SlotMaximum.larger
      (contents heap buffer).slots slots).length) = buffer.length := by
    omega
  have rest : (contents heap buffer).slots.drop (0 + (List.zipWith SlotMaximum.larger
      (contents heap buffer).slots slots).length) = (contents heap buffer).slots.drop slots.length := by
    rw [length, Nat.zero_add]
    by_cases longer : slots.length ≤ buffer.length
    · rw [Nat.min_eq_right longer]
    · rw [Nat.min_eq_left (by omega), drop_eq_nil_of_le (by omega),
        drop_eq_nil_of_le (by omega)]
  rw [same] at written
  unfold DmxBuffer.overlay at written
  rw [rest] at written
  exact written

theorem mergeFrom_becomes (focus : Focus heap others buffer) (owned : Owned heap buffer)
    {other : Buffer} (present : other = buffer ∨ some other ∈ others)
    (bounded : other.length ≤ dmxUniverseSize)
    (sizes : (contents heap other).slots.length = other.length) :
    Becomes heap others (buffer.mergeFrom heap other)
      (.holding (SlotMaximum.merge (contents heap buffer).slots (contents heap other).slots)) := by
  have size : (contents heap buffer).slots.length = buffer.length := contents_size focus.own
  have common := mergeCommon_becomes focus owned (contents heap other).slots
  have own := @fetch_eq _ _ _ focus _ (Or.inl rfl) 0 (min buffer.length other.length) (by omega)
  have theirs := @fetch_eq _ _ _ focus _ present 0 (min buffer.length other.length) (by omega)
  have both : List.zipWith SlotMaximum.larger
      ((contents heap buffer).slots.take (min buffer.length other.length))
      ((contents heap other).slots.take (min buffer.length other.length)) =
        List.zipWith SlotMaximum.larger (contents heap buffer).slots (contents heap other).slots := by
    rw [← size, ← sizes]
    exact zipWith_eq_zipWith_take_min.symm
  unfold mergeFrom
  dsimp only
  rw [own, theirs, drop_zero, drop_zero, both, Nat.min_eq_right bounded]
  rw [SlotMaximum.merge_eq]
  by_cases shorter : buffer.length < other.length
  · rw [if_pos shorter, Nat.min_eq_left (Nat.le_of_lt shorter)]
    rw [drop_eq_nil_of_le (by omega), append_nil] at common
    have member : some other ∈ others := by
      cases present with
      | inl same => rw [same] at shorter; omega
      | inr member => exact member
    have rest := @fetch_eq _ _ _ common.focus _ (Or.inr member) buffer.length
      (other.length - buffer.length) (by omega)
    rw [common.kept other member, take_of_length_le (by rw [length_drop]; omega)] at rest
    rw [rest]
    have more : ((contents heap other).slots.drop buffer.length).length =
        other.length - buffer.length := by
      rw [length_drop, sizes]
    have filled := @put_inside _ _ _ common.focus (owned_put owned _ _) buffer.length
      ((contents heap other).slots.drop buffer.length) (Nat.le_refl _) (by rw [more]; omega)
    have total : max buffer.length (buffer.length + (other.length - buffer.length)) =
        other.length := by omega
    rw [common.value, more, total] at filled
    have kept := filled.of_kept common.kept
    have merged : DmxBuffer.overlay (DmxBuffer.holding (List.zipWith SlotMaximum.larger
        (contents heap buffer).slots (contents heap other).slots)).slots buffer.length
          ((contents heap other).slots.drop buffer.length) =
        List.zipWith SlotMaximum.larger (contents heap buffer).slots (contents heap other).slots ++
          ((contents heap buffer).slots.drop (contents heap other).slots.length ++
            (contents heap other).slots.drop (contents heap buffer).slots.length) := by
      have length : (List.zipWith SlotMaximum.larger (contents heap buffer).slots
          (contents heap other).slots).length = buffer.length := by
        rw [length_zipWith, size, sizes]
        omega
      have nothing : (contents heap buffer).slots.drop (contents heap other).slots.length = [] :=
        drop_eq_nil_of_le (by omega)
      rw [DmxBuffer.holding_slots (by omega), nothing, nil_append, size]
      nth_rewrite 1 [← length]
      exact DmxBuffer.overlay_end _ _
    rw [merged] at kept
    exact kept
  · rw [if_neg shorter]
    rw [drop_eq_nil_of_le (show (contents heap other).slots.length ≤
      (contents heap buffer).slots.length by omega), append_nil]
    exact common

end Merging

end OpenLighting.DmxMemory
