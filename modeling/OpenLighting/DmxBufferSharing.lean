import OpenLighting.DmxBufferMemory

/- What a change to one buffer leaves of the others. -/
namespace OpenLighting.DmxMemory

def contents (heap : Heap) (buffer : Buffer) : DmxBuffer :=
  match buffer.block with
  | none => .new
  | some block => .holding (heap.bytes block 0 buffer.length)

def refers (block : Nat) : Option Buffer → Bool
  | some ⟨some other, _, _⟩ => other == block
  | _ => false

/-- How many buffers point to a block. -/
def references (block : Nat) (buffers : List (Option Buffer)) : Nat :=
  buffers.countP (refers block)

/-- A buffer without `m_copy_on_write` has its block to itself. -/
structure Sound (heap : Heap) (buffer : Buffer) : Prop where
  alone : buffer.copyOnWrite = false → ∀ block, buffer.block = some block → heap.count block = 1
  blank : buffer.block = none → buffer.length = 0
  bounded : buffer.length ≤ dmxUniverseSize

/-- One buffer beside the others. -/
structure Focus (heap : Heap) (others : List (Option Buffer)) (buffer : Buffer) : Prop where
  counted : ∀ block, heap.count block =
    references block others + if buffer.block = some block then 1 else 0
  own : Sound heap buffer
  rest : ∀ other, some other ∈ others → Sound heap other
  fresh : ∀ block, heap.next ≤ block → heap.count block = 0
  safe : heap.readFreed = false

/-- The other buffers hold what they held. -/
def Kept (heap after : Heap) (others : List (Option Buffer)) : Prop :=
  ∀ other, some other ∈ others → contents after other = contents heap other

section Reading

variable {heap : Heap} {block : Nat}

theorem Heap.bytes_getElem? (offset length index : Nat) :
    (heap.bytes block offset length)[index]? =
      if index < length then some (heap.memory block (offset + index)) else none := by
  unfold Heap.bytes
  rw [List.getElem?_map]
  by_cases inside : index < length
  · rw [if_pos inside, List.getElem?_range inside, Option.map_some]
  · rw [if_neg inside, List.getElem?_eq_none (by rw [List.length_range]; omega), Option.map_none]

@[simp] theorem Heap.bytes_length (offset length : Nat) :
    (heap.bytes block offset length).length = length := by
  unfold Heap.bytes
  rw [List.length_map, List.length_range]

theorem Heap.write_memory (offset : Nat) (data : List UInt8) (index : Nat) :
    (heap.write block offset data).memory block index =
      if offset ≤ index then data.getD (index - offset) (heap.memory block index)
      else heap.memory block index := by
  unfold Heap.write
  simp

/-- What is read behind a write that starts inside. -/
theorem Heap.bytes_write {offset length : Nat} {data : List UInt8} (inside : offset ≤ length) :
    (heap.write block offset data).bytes block 0 (max length (offset + data.length)) =
      DmxBuffer.overlay (heap.bytes block 0 length) offset data := by
  apply List.ext_getElem?
  intro index
  rw [Heap.bytes_getElem?, DmxBuffer.overlay_getElem? (by rw [Heap.bytes_length]; exact inside),
    Heap.bytes_getElem?, Nat.zero_add, Heap.write_memory]
  by_cases written : offset ≤ index ∧ index < offset + data.length
  · rw [if_pos written, if_pos (by omega), if_pos written.1, List.getD_eq_getElem?_getD,
      List.getElem?_eq_getElem (by omega), Option.getD_some]
  · rw [if_neg written]
    by_cases below : index < length
    · rw [if_pos (by omega), if_pos below]
      split
      · rw [List.getD_eq_getElem?_getD, List.getElem?_eq_none (by omega), Option.getD_none]
      · rfl
    · rw [if_neg (by omega), if_neg below]

theorem Heap.bytes_write_all (data : List UInt8) :
    (heap.write block 0 data).bytes block 0 data.length = data := by
  have written := @Heap.bytes_write heap block 0 0 data (Nat.le_refl 0)
  rw [Nat.zero_add, Nat.max_eq_right (Nat.zero_le _)] at written
  rw [written]
  simp [DmxBuffer.overlay, Heap.bytes]

theorem Heap.write_apart {other offset : Nat} (data : List UInt8) (apart : other ≠ block)
    (start length : Nat) :
    (heap.write block offset data).bytes other start length = heap.bytes other start length := by
  unfold Heap.bytes Heap.write
  simp only [apart, false_and, if_false]

end Reading

section Others

variable {heap : Heap} {others : List (Option Buffer)} {buffer : Buffer}

theorem refers_iff (block : Nat) (other : Buffer) :
    refers block (some other) = true ↔ other.block = some block := by
  obtain ⟨own, flag, length⟩ := other
  cases own with
  | none | some own => simp [refers]

variable {block : Nat} {other : Buffer} {after : Heap}

theorem references_pos (member : some other ∈ others) (points : other.block = some block) :
    0 < references block others :=
  List.countP_pos_iff.mpr ⟨some other, member, (refers_iff block other).mpr points⟩

theorem Focus.count_own (focus : Focus heap others buffer) (points : buffer.block = some block) :
    heap.count block = references block others + 1 := by
  rw [focus.counted block, if_pos points]

/-- A block that is counted once is not shared. -/
theorem Focus.apart (focus : Focus heap others buffer) (points : buffer.block = some block)
    (once : heap.count block = 1) (member : some other ∈ others) : other.block ≠ some block := by
  intro same
  have shared := references_pos member same
  have count := focus.count_own points
  omega

theorem contents_congr
    (same : ∀ block, other.block = some block →
      after.bytes block 0 other.length = heap.bytes block 0 other.length) :
    contents after other = contents heap other := by
  unfold contents
  cases points : other.block with
  | none => rfl
  | some block =>
    dsimp only
    rw [same block points]

theorem kept_of_memory (same : after.memory = heap.memory) :
    Kept heap after others := by
  intro other _
  apply contents_congr
  intro block _
  unfold Heap.bytes
  rw [same]

theorem Kept.trans {middle : Heap} (first : Kept heap middle others)
    (second : Kept middle after others) : Kept heap after others :=
  fun other member => (second other member).trans (first other member)

end Others

section Private

variable {heap : Heap} {others : List (Option Buffer)} {buffer : Buffer}

theorem Heap.setCount_count (block count other : Nat) :
    (heap.setCount block count).count other =
      if other = block then count else heap.count other := rfl

theorem cleanupMemory_focus (focus : Focus heap others buffer) :
    Focus (buffer.cleanupMemory heap).1 others (buffer.cleanupMemory heap).2 ∧
      (buffer.cleanupMemory heap).2.block = none ∧
      (buffer.cleanupMemory heap).1.memory = heap.memory := by
  unfold Buffer.cleanupMemory
  cases points : buffer.block with
  | none => exact ⟨focus, points, rfl⟩
  | some block =>
    have count := focus.count_own points
    refine ⟨⟨?_, ⟨?_, fun _ => rfl, Nat.zero_le _⟩, ?_, ?_, focus.safe⟩, rfl, rfl⟩
    · intro other
      have counted := focus.counted other
      rw [Heap.setCount_count]
      by_cases same : other = block
      · subst same
        rw [if_pos rfl, count]
        rfl
      · rw [if_neg same, counted, if_neg
          (by rw [points]; exact fun h => same (Option.some_inj.mp h).symm)]
        rfl
    · intro _ other absent
      cases absent
    · intro other member
      have sound := focus.rest other member
      refine ⟨?_, sound.blank, sound.bounded⟩
      intro flag shared holds
      have once := sound.alone flag shared holds
      rw [Heap.setCount_count, if_neg]
      · exact once
      · rintro rfl
        exact focus.apart points once member holds
    · intro other above
      have zero := focus.fresh other above
      rw [Heap.setCount_count, if_neg]
      · exact zero
      · rintro rfl
        omega

/-- `Init` gives the buffer a block of its own. -/
theorem init_focus (focus : Focus heap others buffer) (absent : buffer.block = none) :
    Focus (buffer.init heap).1 others (buffer.init heap).2 ∧
      (buffer.init heap).1.count heap.next = 1 := by
  have zero := focus.fresh heap.next (Nat.le_refl _)
  have counted := focus.counted
  simp only [absent, reduceCtorEq, if_false, Nat.add_zero] at counted
  have once : (buffer.init heap).1.count heap.next = 1 := if_pos rfl
  refine ⟨⟨?_, ⟨?_, ?_, Nat.zero_le _⟩, ?_, ?_, focus.safe⟩, once⟩
  · intro other
    have refs := counted other
    unfold Buffer.init
    rw [Heap.setCount_count]
    by_cases same : other = heap.next
    · subst same
      rw [if_pos rfl, if_pos rfl]
      omega
    · rw [if_neg same, if_neg (fun h => same (Option.some_inj.mp h).symm), refs]
      rfl
  · intro _ other points
    cases points
    exact once
  · intro points
    cases points
  · intro other member
    have sound := focus.rest other member
    refine ⟨?_, sound.blank, sound.bounded⟩
    intro flag block holds
    have alone := sound.alone flag block holds
    unfold Buffer.init
    rw [Heap.setCount_count, if_neg]
    · exact alone
    · rintro rfl
      omega
  · intro other above
    unfold Buffer.init at above ⊢
    dsimp only at above ⊢
    rw [Heap.setCount_count, if_neg (by omega)]
    exact focus.fresh other (by omega)

/-- The buffer has a block that no other buffer points to. -/
def Owned (heap : Heap) (buffer : Buffer) : Prop :=
  ∃ block, buffer.block = some block ∧ heap.count block = 1

theorem initIfNeeded_focus (focus : Focus heap others buffer)
    (flag : buffer.block ≠ none → buffer.copyOnWrite = false) :
    Focus (buffer.initIfNeeded heap).1 others (buffer.initIfNeeded heap).2 ∧
      Owned (buffer.initIfNeeded heap).1 (buffer.initIfNeeded heap).2 := by
  unfold Buffer.initIfNeeded
  cases points : buffer.block with
  | none =>
    have fresh := init_focus focus points
    exact ⟨fresh.1, heap.next, rfl, fresh.2⟩
  | some block =>
    have clear := flag (by rw [points]; simp)
    exact ⟨focus, block, points, focus.own.alone clear block points⟩

theorem initIfNeeded_memory : (buffer.initIfNeeded heap).1.memory = heap.memory := by
  unfold Buffer.initIfNeeded
  split <;> rfl

/-- What a write starts with that does not ask for the old slots. -/
theorem renew_focus (focus : Focus heap others buffer) :
    Focus (buffer.renew heap).1 others (buffer.renew heap).2 ∧
      Owned (buffer.renew heap).1 (buffer.renew heap).2 ∧
      (buffer.renew heap).1.memory = heap.memory := by
  unfold Buffer.renew
  cases flag : buffer.copyOnWrite with
  | false =>
    have next := initIfNeeded_focus focus (fun _ => flag)
    exact ⟨next.1, next.2, initIfNeeded_memory⟩
  | true =>
    have cleaned := cleanupMemory_focus focus
    have next := initIfNeeded_focus cleaned.1 (fun some => absurd cleaned.2.1 some)
    exact ⟨next.1, next.2, initIfNeeded_memory.trans cleaned.2.2⟩

/-- After a change the counts are right, the other buffers hold what they held, and the buffer
holds the value. -/
structure Becomes (heap : Heap) (others : List (Option Buffer)) (result : Heap × Buffer)
    (value : DmxBuffer) : Prop where
  focus : Focus result.1 others result.2
  kept : Kept heap result.1 others
  value : contents result.1 result.2 = value

theorem put_focus (focus : Focus heap others buffer) (owned : Owned heap buffer) (offset : Nat)
    (data : List UInt8) {length : Nat} (bounded : length ≤ dmxUniverseSize) :
    Focus (buffer.put heap offset data) others { buffer with length := length } ∧
      Kept heap (buffer.put heap offset data) others := by
  obtain ⟨block, points, once⟩ := owned
  unfold Buffer.put
  rw [points]
  constructor
  · refine ⟨?_, ⟨?_, ?_, bounded⟩, ?_, focus.fresh, focus.safe⟩
    · intro other
      have counted := focus.counted other
      rw [points] at counted
      exact counted
    · intro flag other holds
      cases holds
      exact once
    · intro absent
      cases absent
    · intro other member
      have sound := focus.rest other member
      exact { sound with }
  · intro other member
    apply contents_congr
    intro shared holds
    apply Heap.write_apart
    rintro rfl
    exact focus.apart points once member holds

/-- The buffer is filled with new slots. -/
theorem put_all (focus : Focus heap others buffer) (owned : Owned heap buffer) {data : List UInt8}
    (bounded : data.length ≤ dmxUniverseSize) :
    Becomes heap others (buffer.put heap 0 data, { buffer with length := data.length })
      (.holding data) := by
  have put := put_focus focus owned 0 data bounded
  refine ⟨put.1, put.2, ?_⟩
  obtain ⟨block, points, _⟩ := owned
  unfold contents Buffer.put
  rw [points]
  dsimp only
  rw [Heap.bytes_write_all]

theorem contents_of_block {block : Nat} (points : buffer.block = some block) :
    contents heap buffer = .holding (heap.bytes block 0 buffer.length) := by
  unfold contents
  rw [points]

theorem contents_slots {block : Nat} (sound : Sound heap buffer)
    (points : buffer.block = some block) :
    (contents heap buffer).slots = heap.bytes block 0 buffer.length := by
  rw [contents_of_block points]
  apply DmxBuffer.holding_slots
  rw [Heap.bytes_length]
  exact sound.bounded

/-- Some slots of the buffer are written. -/
theorem put_inside (focus : Focus heap others buffer) (owned : Owned heap buffer) {offset : Nat}
    {data : List UInt8} (inside : offset ≤ buffer.length)
    (bounded : offset + data.length ≤ dmxUniverseSize) :
    Becomes heap others
      (buffer.put heap offset data,
        { buffer with length := max buffer.length (offset + data.length) })
      (.holding (DmxBuffer.overlay (contents heap buffer).slots offset data)) := by
  have put := put_focus focus owned offset data (Nat.max_le.mpr ⟨focus.own.bounded, bounded⟩)
  refine ⟨put.1, put.2, ?_⟩
  obtain ⟨block, points, _⟩ := owned
  rw [contents_slots focus.own points]
  unfold contents Buffer.put
  rw [points]
  dsimp only
  rw [Heap.bytes_write inside]

theorem Becomes.of_kept {middle : Heap} {result : Heap × Buffer} {value : DmxBuffer}
    (kept : Kept heap middle others) (becomes : Becomes middle others result value) :
    Becomes heap others result value :=
  ⟨becomes.focus, kept.trans becomes.kept, becomes.value⟩

end Private

end OpenLighting.DmxMemory
