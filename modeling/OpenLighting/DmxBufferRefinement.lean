import OpenLighting.DmxBufferOperations

/- Buffers that share memory are buffers that do not. -/
namespace OpenLighting.DmxMemory

open World List

/-- Every count is the number of buffers that point to the block. -/
structure Valid (world : World) : Prop where
  counted : ∀ block, world.heap.count block = references block world.buffers
  sound : ∀ buffer, some buffer ∈ world.buffers → Sound world.heap buffer
  fresh : ∀ block, world.heap.next ≤ block → world.heap.count block = 0
  safe : world.heap.readFreed = false

/-- What the buffers hold. -/
def World.values (world : World) : Values :=
  world.buffers.map (Option.map (contents world.heap))

section Lists

variable {buffers : List (Option Buffer)} {name : Nat} {buffer : Buffer}

theorem references_set (block : Nat) (inside : name < buffers.length) :
    references block (buffers.set name (some buffer)) =
      references block (buffers.set name none) + if buffer.block = some block then 1 else 0 := by
  unfold references
  rw [countP_set inside, countP_set inside]
  have absent : refers block none = false := rfl
  by_cases points : buffer.block = some block
  · rw [if_pos points, absent, (refers_iff block buffer).mpr points]
    simp
  · have other : refers block (some buffer) = false := by
      rw [Bool.eq_false_iff]
      exact fun same => points ((refers_iff block buffer).mp same)
    rw [if_neg points, absent, other, Nat.add_zero]

theorem set_self (found : buffers[name]? = some (some buffer)) :
    buffers.set name (some buffer) = buffers := by
  obtain ⟨inside, same⟩ := List.getElem?_eq_some_iff.mp found
  rw [← same]
  exact set_getElem_self inside

theorem mem_set_none {other : Buffer} (member : some other ∈ buffers.set name none) :
    some other ∈ buffers := by
  cases mem_or_eq_of_mem_set member with
  | inl member => exact member
  | inr absent => cases absent

theorem mem_set_cases {other : Buffer} (member : some other ∈ buffers.set name (some buffer)) :
    other = buffer ∨ some other ∈ buffers.set name none := by
  obtain ⟨index, found⟩ := mem_iff_getElem?.mp member
  by_cases same : name = index
  · rw [same, List.getElem?_set_self'] at found
    left
    obtain ⟨_, _, equal⟩ := Option.map_eq_some_iff.mp found
    exact (Option.some_inj.mp equal).symm
  · rw [List.getElem?_set_ne same] at found
    right
    apply @List.mem_of_getElem? _ _ index
    rw [List.getElem?_set_ne same]
    exact found

theorem mem_set_none_of_ne {other : Nat} {source : Buffer} (apart : name ≠ other)
    (found : buffers[other]? = some (some source)) : some source ∈ buffers.set name none := by
  apply mem_of_getElem?
  rw [List.getElem?_set_ne apart]
  exact found

end Lists

variable {result : Heap × Buffer}

section Worlds

variable {world : World} {name : Nat} {buffer : Buffer}

theorem find_iff : world.find name = some buffer ↔ world.buffers[name]? = some (some buffer) := by
  unfold find
  cases world.buffers[name]? <;> simp

theorem values_find (world : World) (name : Nat) :
    world.values.find name = (world.find name).map (contents world.heap) := by
  unfold Values.find values find
  rw [List.getElem?_map]
  cases world.buffers[name]? with
  | none => rfl
  | some found => cases found <;> rfl

theorem Valid.focus (valid : Valid world) (found : world.find name = some buffer) :
    Focus world.heap (world.buffers.set name none) buffer := by
  rw [find_iff] at found
  obtain ⟨inside, same⟩ := List.getElem?_eq_some_iff.mp found
  have member : some buffer ∈ world.buffers := mem_of_getElem? found
  refine ⟨?_, valid.sound buffer member, ?_, valid.fresh, valid.safe⟩
  · intro block
    rw [valid.counted block, ← references_set block inside, set_self found]
  · intro other member
    exact valid.sound other (mem_set_none member)

theorem values_set {after : Heap} {result : Buffer}
    (kept : Kept world.heap after (world.buffers.set name none)) :
    (world.buffers.set name (some result)).map (Option.map (contents after)) =
      world.values.set name (some (contents after result)) := by
  have others : (world.buffers.set name none).map (Option.map (contents after)) =
      (world.buffers.set name none).map (Option.map (contents world.heap)) := by
    apply map_congr_left
    intro other member
    cases other with
    | none => rfl
    | some other => exact congrArg some (kept other member)
  unfold values
  rw [map_set, map_set] at others
  rw [map_set]
  have same := congrArg (fun values : Values => values.set name (some (contents after result))) others
  simpa using same

/-- A change to one buffer is a change to its value. -/
theorem becomes_store {value : DmxBuffer} (found : world.find name = some buffer)
    (becomes : Becomes world.heap (world.buffers.set name none) result value) :
    Valid (world.store name result) ∧
      (world.store name result).values = world.values.set name (some value) := by
  rw [find_iff] at found
  obtain ⟨inside, _⟩ := List.getElem?_eq_some_iff.mp found
  constructor
  · refine ⟨?_, ?_, becomes.focus.fresh, becomes.focus.safe⟩
    · intro block
      unfold store
      rw [references_set block inside]
      exact becomes.focus.counted block
    · intro other member
      cases mem_set_cases member with
      | inl same =>
        rw [same]
        exact becomes.focus.own
      | inr member => exact becomes.focus.rest other member
  · rw [← becomes.value]
    exact values_set becomes.kept

theorem mutate_eq (found : world.find name = some buffer)
    (change : Heap → Buffer → Heap × Buffer) :
    world.mutate name change = world.store name (change world.heap buffer) := by
  unfold mutate
  rw [found]

theorem mutate_absent (absent : world.find name = none)
    (change : Heap → Buffer → Heap × Buffer) : world.mutate name change = world := by
  unfold mutate
  rw [absent]

theorem values_mutate (found : world.find name = some buffer) (update : DmxBuffer → DmxBuffer) :
    world.values.mutate name update =
      world.values.set name (some (update (contents world.heap buffer))) := by
  unfold Values.mutate
  rw [values_find, found]
  rfl

theorem values_mutate_absent (absent : world.find name = none) (update : DmxBuffer → DmxBuffer) :
    world.values.mutate name update = world.values := by
  unfold Values.mutate
  rw [values_find, absent]
  rfl

/-- A member function that does to a buffer what it does to its value does so among others. -/
theorem mutate_refines (valid : Valid world) (change : Heap → Buffer → Heap × Buffer)
    (update : DmxBuffer → DmxBuffer)
    (spec : ∀ {heap others buffer}, Focus heap others buffer →
      Becomes heap others (change heap buffer) (update (contents heap buffer))) :
    Valid (world.mutate name change) ∧
      (world.mutate name change).values = world.values.mutate name update := by
  cases found : world.find name with
  | none =>
    rw [mutate_absent found, values_mutate_absent found]
    exact ⟨valid, rfl⟩
  | some buffer =>
    rw [mutate_eq found, values_mutate found]
    exact becomes_store found (spec (valid.focus found))

end Worlds

section Copying

variable {world : World} {name other : Nat} {buffer source : Buffer}

theorem cleanupMemory_becomes {heap : Heap} {others : List (Option Buffer)}
    (focus : Focus heap others buffer) :
    Becomes heap others (buffer.cleanupMemory heap) .new := by
  have cleaned := cleanupMemory_focus focus
  refine ⟨cleaned.1, kept_of_memory cleaned.2.2, ?_⟩
  unfold contents
  rw [cleaned.2.1]

theorem values_set_self (found : world.find name = some buffer) :
    world.values.set name (some (contents world.heap buffer)) = world.values := by
  rw [find_iff] at found
  have same := congrArg (List.map (Option.map (contents world.heap))) (set_self found)
  rw [map_set] at same
  exact same

/-- How many buffers point to a block when one more does. -/
theorem references_copy {buffers : List (Option Buffer)} {own shared : Nat}
    (apart : name ≠ other) (target : buffers[name]? = some (some buffer))
    (empty : buffer.block = none) (found : buffers[other]? = some (some source))
    (points : source.block = some own) :
    references shared ((buffers.set other (some ⟨some own, true, source.length⟩)).set name
        (some ⟨some own, true, source.length⟩)) =
      references shared buffers + if own = shared then 1 else 0 := by
  obtain ⟨inside, _⟩ := List.getElem?_eq_some_iff.mp target
  obtain ⟨insideOther, _⟩ := List.getElem?_eq_some_iff.mp found
  have before := @references_set buffers name buffer shared inside
  rw [set_self target, empty, if_neg (by simp), Nat.add_zero] at before
  have here : (buffers.set name none)[other]? = some (some source) := by
    rw [List.getElem?_set_ne apart]
    exact found
  have middle := @references_set (buffers.set name none) other source shared
    (by rw [length_set]; exact insideOther)
  rw [set_self here, points] at middle
  rw [references_set shared (by rw [length_set]; exact inside), set_comm _ _ apart.symm,
    references_set shared (by rw [length_set]; exact insideOther)]
  simp only [Option.some_inj] at *
  omega

theorem copyFromOther_eq {own : Nat} (found : world.find other = some source)
    (points : source.block = some own) :
    world.copyFromOther name other =
      ⟨world.heap.setCount own (world.heap.count own + 1),
        (world.buffers.set other (some ⟨some own, true, source.length⟩)).set name
          (some ⟨some own, true, source.length⟩)⟩ := by
  unfold copyFromOther
  rw [found]
  dsimp only
  rw [points]

theorem copyFromOther_valid {own : Nat} (valid : Valid world)
    (target : world.find name = some buffer) (empty : buffer.block = none)
    (found : world.find other = some source) (points : source.block = some own)
    (apart : name ≠ other) : Valid (world.copyFromOther name other) := by
  have sharing := valid.focus found
  have count := sharing.count_own points
  have sound := sharing.own
  rw [copyFromOther_eq found points]
  refine ⟨?_, ?_, ?_, valid.safe⟩
  · intro block
    have counted := valid.counted block
    rw [references_copy apart (find_iff.mp target) empty (find_iff.mp found) points]
    rw [Heap.setCount_count]
    by_cases same : block = own
    · rw [if_pos same, if_pos same.symm, ← same, counted]
    · rw [if_neg same, if_neg (Ne.symm same), counted, Nat.add_zero]
  · intro third member
    cases mem_set_cases member with
    | inl same =>
      rw [same]
      exact ⟨(fun clear => by cases clear), (fun absent => by cases absent), sound.bounded⟩
    | inr member =>
      cases mem_set_cases (mem_set_none member) with
      | inl same =>
        rw [same]
        exact ⟨(fun clear => by cases clear), (fun absent => by cases absent), sound.bounded⟩
      | inr member =>
        have others := sharing.rest third member
        refine ⟨?_, others.blank, others.bounded⟩
        intro clear block holds
        have once := others.alone clear block holds
        rw [Heap.setCount_count, if_neg]
        · exact once
        · intro same
          rw [same] at once holds
          exact sharing.apart points once member holds
  · intro block above
    have zero := valid.fresh block above
    rw [Heap.setCount_count, if_neg]
    · exact zero
    · rintro rfl
      omega

theorem copyFromOther_values {own : Nat} (found : world.find other = some source)
    (points : source.block = some own) :
    (world.copyFromOther name other).values =
      world.values.set name (some (contents world.heap source)) := by
  have memory : contents (world.heap.setCount own (world.heap.count own + 1)) =
      contents world.heap := rfl
  have copied : contents world.heap ⟨some own, true, source.length⟩ =
      contents world.heap source := by
    unfold contents
    rw [points]
  have same := values_set_self found
  rw [copyFromOther_eq found points]
  unfold values at same ⊢
  rw [map_set, map_set, memory, Option.map_some, copied, same]

theorem copyFromOther_refines (valid : Valid world) (target : world.find name = some buffer)
    (empty : buffer.block = none) (found : world.find other = some source) (apart : name ≠ other) :
    Valid (world.copyFromOther name other) ∧
      (world.copyFromOther name other).values =
        world.values.set name (some (contents world.heap source)) := by
  cases points : source.block with
  | some own =>
    exact ⟨copyFromOther_valid valid target empty found points apart,
      copyFromOther_values found points⟩
  | none =>
    have unchanged : world.copyFromOther name other = world := by
      unfold copyFromOther
      rw [found]
      dsimp only
      rw [points]
    have same : contents world.heap source = contents world.heap buffer := by
      unfold contents
      rw [points, empty]
    rw [unchanged, same, values_set_self target]
    exact ⟨valid, rfl⟩

theorem construct_refines (valid : Valid world) :
    Valid world.construct ∧ world.construct.values = world.values ++ [some .new] := by
  constructor
  · refine ⟨?_, ?_, valid.fresh, valid.safe⟩
    · intro block
      have counted := valid.counted block
      unfold construct references
      rw [countP_append]
      exact counted
    · intro buffer member
      unfold construct at member
      rw [mem_append, mem_singleton] at member
      cases member with
      | inl member => exact valid.sound buffer member
      | inr same =>
        cases same
        exact ⟨(fun _ block holds => by cases holds), fun _ => rfl, Nat.zero_le _⟩
  · unfold values construct
    rw [map_append]
    rfl

theorem find_lt (found : world.find name = some buffer) : name < world.buffers.length := by
  rw [find_iff] at found
  exact (List.getElem?_eq_some_iff.mp found).1

theorem copyConstruct_refines (valid : Valid world) :
    Valid (world.copyConstruct other) ∧
      (world.copyConstruct other).values = world.values.step (.copyConstruct other) := by
  unfold copyConstruct
  rw [Values.step, values_find]
  cases found : world.find other with
  | none => exact ⟨valid, rfl⟩
  | some source =>
    have inside := find_lt found
    have constructed := construct_refines valid
    have target : world.construct.find world.buffers.length = some .new := by
      unfold find construct
      rw [List.getElem?_concat_length]
      rfl
    have there : world.construct.find other = some source := by
      rw [find_iff] at found ⊢
      unfold construct
      rw [List.getElem?_append_left inside]
      exact found
    have copied := copyFromOther_refines constructed.1 target rfl there (by omega)
    refine ⟨copied.1, ?_⟩
    rw [copied.2, constructed.2]
    have length : world.buffers.length = world.values.length := by
      unfold values
      rw [length_map]
    rw [length, set_append_right _ _ (Nat.le_refl _), Nat.sub_self]
    rfl

theorem find_store_of_ne (apart : name ≠ other) :
    (world.store name result).find other = world.find other := by
  unfold find store
  rw [List.getElem?_set_ne apart]

theorem find_store_self (found : world.find name = some buffer) :
    (world.store name result).find name = some result.2 := by
  rw [find_iff]
  unfold store
  rw [List.getElem?_set_self (find_lt found)]

theorem assign_refines (valid : Valid world) :
    Valid (world.assign name other) ∧
      (world.assign name other).values = world.values.step (.assign name other) := by
  unfold assign
  rw [Values.step, Values.mutateFrom, values_find]
  cases found : world.find other with
  | none =>
    cases world.find name <;> exact ⟨valid, rfl⟩
  | some source =>
    dsimp only [Option.map_some]
    cases target : world.find name with
    | none =>
      rw [values_mutate_absent target]
      exact ⟨valid, rfl⟩
    | some buffer =>
      rw [values_mutate target]
      by_cases same : name = other
      · subst same
        rw [if_pos rfl]
        rw [target] at found
        cases found
        exact ⟨valid, (values_set_self target).symm⟩
      · rw [if_neg same, mutate_eq target]
        have cleaned := cleanupMemory_focus (valid.focus target)
        have becomes := cleanupMemory_becomes (valid.focus target)
        have stored := becomes_store target becomes
        have copied := copyFromOther_refines stored.1 (find_store_self target) cleaned.2.1
          ((find_store_of_ne same).trans found) same
        have kept : contents (buffer.cleanupMemory world.heap).1 source =
            contents world.heap source :=
          becomes.kept source (mem_set_none_of_ne same (find_iff.mp found))
        refine ⟨copied.1, ?_⟩
        rw [copied.2, stored.2, set_set]
        exact congrArg (fun value => world.values.set name (some value)) kept

theorem destroy_refines (valid : Valid world) :
    Valid (world.destroy name) ∧ (world.destroy name).values = world.values.set name none := by
  unfold destroy
  dsimp only
  cases found : world.find name with
  | none =>
    rw [mutate_absent found]
    have same : world.buffers.set name none = world.buffers := by
      unfold find at found
      apply ext_getElem?
      intro index
      rw [List.getElem?_set]
      by_cases here : name = index
      · subst here
        cases entry : world.buffers[name]? with
        | none =>
          rw [if_pos rfl, if_neg (by rw [List.getElem?_eq_none_iff] at entry; omega)]
        | some buffer =>
          rw [entry] at found
          cases found
          rw [if_pos rfl, if_pos (List.getElem?_eq_some_iff.mp entry).1]
      · rw [if_neg here]
    rw [same]
    refine ⟨valid, ?_⟩
    have values := congrArg (List.map (Option.map (contents world.heap))) same
    rw [map_set] at values
    exact values.symm
  | some buffer =>
    rw [mutate_eq found]
    have becomes := cleanupMemory_becomes (valid.focus found)
    have cleaned := cleanupMemory_focus (valid.focus found)
    have stored := becomes_store found becomes
    unfold store
    rw [set_set]
    constructor
    · refine ⟨?_, ?_, becomes.focus.fresh, becomes.focus.safe⟩
      · intro block
        have counted := becomes.focus.counted block
        rw [cleaned.2.1, if_neg (by simp), Nat.add_zero] at counted
        exact counted
      · exact becomes.focus.rest
    · have values := congrArg (fun values : Values => values.set name none) stored.2
      unfold World.values World.store at values
      rw [map_set, set_set, set_set] at values
      unfold World.values
      rw [map_set]
      exact values

end Copying

end OpenLighting.DmxMemory
