import OpenLighting.DmxBufferRefinement

/- Programs of `DmxBuffer`s. -/
namespace OpenLighting.DmxMemory

/-- `Set` from itself does not free what it is about to read. -/
def Reads (world : World) : Operation → Prop
  | .setBuffer name other =>
    name = other → ∀ buffer block, world.find name = some buffer → buffer.block = some block →
      buffer.copyOnWrite = true → world.heap.count block = 1 → buffer.length = 0
  | _ => True

section Steps

variable {world : World} {name other : Nat} {buffer source : Buffer}

variable {heap : Heap} {block : Nat} {others : List (Option Buffer)}

theorem contents_of_none (absent : source.block = none) :
    contents heap source = .new := by
  unfold contents
  rw [absent]

theorem contents_data (points : source.block = some block) :
    (contents heap source).data = some (contents heap source).slots := by
  unfold DmxBuffer.data
  rw [contents_allocated, points]
  rfl

/-- A block is still counted after the buffer was made ready to be filled. -/
theorem renew_live (focus : Focus heap others buffer) (shared : 0 < references block others) :
    (buffer.renew heap).1.count block ≠ 0 := by
  have counted := (renew_focus focus).1.counted block
  omega

theorem renew_live_self (focus : Focus heap others buffer) (points : buffer.block = some block)
    (shared : buffer.copyOnWrite = true → heap.count block ≠ 1) :
    (buffer.renew heap).1.count block ≠ 0 := by
  have count := focus.count_own points
  cases flag : buffer.copyOnWrite with
  | false =>
    rw [renew_own flag points]
    dsimp only
    omega
  | true =>
    have several := shared flag
    exact renew_live focus (by omega)

/-- A change that needs another buffer. -/
theorem mutateFrom_refines (valid : Valid world) (name other : Nat)
    {change : Buffer → Heap → Buffer → Heap × Buffer}
    {update : DmxBuffer → DmxBuffer → DmxBuffer}
    (becomes : ∀ source buffer, world.find other = some source → world.find name = some buffer →
      Becomes world.heap (world.buffers.set name none) (change source world.heap buffer)
        (update (contents world.heap buffer) (contents world.heap source))) :
    let after := match world.find other with
      | none => world
      | some source => world.mutate name (change source)
    Valid after ∧ after.values = world.values.mutateFrom name other update := by
  rw [Values.mutateFrom, values_find]
  cases found : world.find other with
  | none => exact ⟨valid, rfl⟩
  | some source =>
    dsimp only [Option.map_some]
    cases target : world.find name with
    | none =>
      rw [mutate_absent target, values_mutate_absent target]
      exact ⟨valid, rfl⟩
    | some buffer =>
      rw [mutate_eq target, values_mutate target]
      exact becomes_store target (becomes source buffer found target)

theorem setBuffer_refines (valid : Valid world) (ok : Reads world (.setBuffer name other)) :
    Valid (world.setBuffer name other) ∧
      (world.setBuffer name other).values = world.values.step (.setBuffer name other) := by
  apply mutateFrom_refines valid
  intro source buffer found target
  have focus := valid.focus target
  unfold DmxBuffer.setBuffer
  cases points : source.block with
  | none =>
    rw [contents_of_none points]
    exact becomes_same focus
  | some block =>
    rw [contents_data points]
    have sound : Sound world.heap source :=
      valid.sound source (List.mem_of_getElem? (find_iff.mp found))
    have filled : Becomes world.heap (world.buffers.set name none)
        (dropResult (buffer.set world.heap (some (.inside block source.length))))
        (.holding (world.heap.bytes block 0 source.length)) := by
      apply set_inside focus sound.bounded
      intro some
      by_cases same : name = other
      · subst same
        rw [target] at found
        cases found
        apply renew_live_self focus points
        intro flag once
        exact some (ok rfl _ block target points flag once)
      · exact renew_live focus
          (references_pos (mem_set_none_of_ne same (find_iff.mp found)) points)
    rw [contents_slots sound points]
    exact filled

theorem htpMerge_refines (valid : Valid world) :
    Valid (world.htpMerge name other) ∧
      (world.htpMerge name other).values = world.values.step (.htpMerge name other) := by
  apply mutateFrom_refines valid
  intro source buffer found target
  have focus := valid.focus target
  obtain ⟨prepared, owned⟩ := prepareMerge_becomes focus
  have slots : (contents (buffer.prepareMerge world.heap).1
      (buffer.prepareMerge world.heap).2).slots = (contents world.heap buffer).slots := by
    rw [prepared.value]
    exact DmxBuffer.holding_slots (contents world.heap buffer).bounded
  change Becomes world.heap _ (Buffer.mergeFrom (buffer.prepareMerge world.heap).1
    (buffer.prepareMerge world.heap).2
    (if name = other then (buffer.prepareMerge world.heap).2 else source)) _
  by_cases same : name = other
  · subst same
    rw [target] at found
    cases found
    rw [if_pos rfl]
    have merged := mergeFrom_becomes prepared.focus owned (Or.inl rfl)
      prepared.focus.own.bounded (contents_size prepared.focus.own)
    rw [slots] at merged
    exact merged.of_kept prepared.kept
  · rw [if_neg same]
    have member := mem_set_none_of_ne same (find_iff.mp found)
    have sound := prepared.focus.rest source member
    have merged := mergeFrom_becomes prepared.focus owned (Or.inr member) sound.bounded
      (contents_size sound)
    rw [slots, prepared.kept source member] at merged
    exact merged.of_kept prepared.kept

theorem step_refines (valid : Valid world) (operation : Operation) (ok : Reads world operation) :
    Valid (world.step operation) ∧
      (world.step operation).values = world.values.step operation := by
  cases operation with
  | construct => exact construct_refines valid
  | copyConstruct other => exact copyConstruct_refines valid
  | assign name other => exact assign_refines valid
  | set name data =>
    exact mutate_refines valid _ (fun buffer => (buffer.set data).1)
      (fun focus => set_outside focus data)
  | setBuffer name other => exact setBuffer_refines valid ok
  | setFromString name input =>
    exact mutate_refines valid _ (fun buffer => (buffer.setFromString input).1)
      (fun focus => setFromString_becomes focus input)
  | setRange name offset data =>
    exact mutate_refines valid _ (fun buffer => (buffer.setRange offset data).1)
      (fun focus => setRange_becomes focus offset data)
  | setRangeToValue name offset value length =>
    exact mutate_refines valid _ (fun buffer => (buffer.setRangeToValue offset value length).1)
      (fun focus => setRangeToValue_becomes focus offset value length)
  | setChannel name channel data =>
    exact mutate_refines valid _ (fun buffer => buffer.setChannel channel data)
      (fun focus => setChannel_becomes focus channel data)
  | htpMerge name other => exact htpMerge_refines valid
  | blackout name =>
    exact mutate_refines valid _ (fun buffer => buffer.blackout.1)
      (fun focus => blackout_becomes focus)
  | reset name =>
    exact mutate_refines valid _ (fun buffer => buffer.reset) (fun focus => reset_becomes focus)
  | destroy name => exact destroy_refines valid

theorem put_readFreed (heap : Heap) (offset : Nat) (data : List UInt8) :
    (buffer.put heap offset data).readFreed = heap.readFreed := by
  unfold Buffer.put
  split <;> rfl

/-- A buffer that is marked as shared leaves its block before it is filled. -/
theorem renew_marked (points : buffer.block = some block) (flag : buffer.copyOnWrite = true) :
    buffer.renew heap = Buffer.init (heap.setCount block (heap.count block - 1))
      { buffer with block := none, length := 0 } := by
  unfold Buffer.renew Buffer.cleanupMemory
  rw [flag, points]
  rfl

theorem set_freed (focus : Focus heap others buffer) (points : buffer.block = some block)
    (flag : buffer.copyOnWrite = true) (once : heap.count block = 1) (nonempty : buffer.length ≠ 0) :
    (buffer.set heap (some (.inside block buffer.length))).1.readFreed = true := by
  have bounded := focus.own.bounded
  have old : block ≠ heap.next := by
    rintro rfl
    rw [focus.fresh _ (Nat.le_refl _)] at once
    cases once
  have freed : (buffer.renew heap).1.count block = 0 := by
    rw [renew_marked points flag, once]
    unfold Buffer.init
    rw [Heap.setCount_count, Heap.setCount_count]
    unfold Heap.setCount
    rw [if_neg old, if_pos rfl]
  unfold Buffer.set Source.load Source.length Heap.read
  rw [put_readFreed, Nat.min_eq_left bounded, freed]
  simp [nonempty]

/-- The only other operation reads memory that it has freed. -/
theorem step_reads_freed (valid : Valid world) (operation : Operation)
    (wrong : ¬ Reads world operation) : (world.step operation).heap.readFreed = true := by
  cases operation with
  | setBuffer name other =>
    unfold Reads at wrong
    push Not at wrong
    obtain ⟨rfl, buffer, block, found, points, flag, once, nonempty⟩ := wrong
    have freed := set_freed (valid.focus found) points flag once nonempty
    have stepped : world.step (.setBuffer name name) = world.store name
        (dropResult (buffer.set world.heap (some (.inside block buffer.length)))) := by
      rw [World.step, World.setBuffer, found]
      dsimp only
      rw [mutate_eq found, points]
      rfl
    rw [stepped]
    exact freed
  | _ => exact absurd trivial wrong

end Steps

/-- The same program with shared memory and with deep copies. -/
def step (state : World × Values) (operation : Operation) : World × Values :=
  (state.1.step operation, state.2.step operation)

/-- Nothing freed was read, every count is the number of buffers that point to the block, and
the buffers hold what deep copies would. -/
structure Faithful (state : World × Values) : Prop where
  safe : state.1.heap.readFreed = false
  counted : ∀ block, state.1.heap.count block = references block state.1.buffers
  values : state.1.values = state.2

theorem valid_start (memory : Nat → Nat → UInt8) : Valid (.start memory) := by
  refine ⟨fun _ => rfl, ?_, fun _ _ => rfl, rfl⟩
  intro buffer member
  cases member

/-- A program has value semantics at every point if and only if no `Set` of a buffer from
itself frees the slots it is about to read. -/
theorem faithful_iff (memory : Nat → Nat → UInt8) (operations : List Operation) :
    (∀ count, Faithful (TransitionSystem.run step (.start memory, []) (operations.take count))) ↔
      TransitionSystem.Permitted step (fun state operation => Reads state.1 operation)
        (.start memory, []) operations := by
  apply @TransitionSystem.always_iff_permitted _ _ _ _
    (fun state : World × Values => Valid state.1 ∧ state.1.values = state.2)
  · rintro state ⟨valid, same⟩
    exact ⟨valid.safe, valid.counted, same⟩
  · rintro ⟨world, values⟩ operation ⟨valid, same⟩ ok
    have refined := step_refines valid operation ok
    rw [same] at refined
    exact refined
  · rintro ⟨world, values⟩ operation ⟨valid, _⟩ wrong faithful
    have freed := step_reads_freed valid operation wrong
    have safe : (world.step operation).heap.readFreed = false := faithful.safe
    rw [freed] at safe
    cases safe
  · exact ⟨valid_start memory, rfl⟩

/-- A copy that is gone leaves the mark that makes the buffer free its own slots. -/
def selfSet : List Operation :=
  [.construct, .set 0 (some [1, 2, 3]), .copyConstruct 0, .destroy 1, .setBuffer 0 0]

theorem selfSet_not_faithful :
    ¬ Faithful (TransitionSystem.run step (.start (fun _ _ => 0), []) selfSet) := by
  intro faithful
  have safe := faithful.safe
  cases safe

end OpenLighting.DmxMemory
