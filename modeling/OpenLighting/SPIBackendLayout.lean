import OpenLighting.SPIBackend

namespace OpenLighting.Spi

open TransitionSystem Output List

section Joining
variable {α : Type}

theorem foldl_add_toNat {number : α → UInt32} {bytes : α → List UInt8}
    (sized : ∀ value, (number value).toNat = (bytes value).length % 2 ^ 32) (values : List α)
    (start : UInt32) : ((values.map number).foldl (· + ·) start).toNat =
      (start.toNat + (values.flatMap bytes).length) % 2 ^ 32 := by
  induction values generalizing start with
  | nil => exact (Nat.mod_eq_of_lt start.toNat_lt).symm
  | cons value values ih =>
    rw [map_cons, foldl_cons, ih, UInt32.toNat_add, sized, flatMap_cons,
      length_append]
    omega

theorem accumulate_sizes (outputs : List Output) :
    (accumulate (outputs.map (fun output => UInt32.ofNat output.data.length))).toNat =
      (joined outputs).length % 2 ^ 32 := by
  have sum := foldl_add_toNat (fun output : Output => UInt32.toNat_ofNat' (n := output.data.length))
    outputs 0
  rwa [show (0 : UInt32).toNat = 0 from rfl, Nat.zero_add] at sum

theorem accumulate_latches (outputs : List Output) :
    (accumulate (outputs.map Output.latchBytes)).toNat = (latches outputs).length % 2 ^ 32 := by
  have sized : ∀ output : Output, output.latchBytes.toNat =
      (List.replicate output.latchBytes.toNat (0 : UInt8)).length % 2 ^ 32 := fun output => by
    rw [length_replicate, Nat.mod_eq_of_lt output.latchBytes.toNat_lt]
  have sum := foldl_add_toNat sized outputs 0
  rwa [show (0 : UInt32).toNat = 0 from rfl, Nat.zero_add] at sum

@[simp] theorem joined_append (front back : List Output) :
    joined (front ++ back) = joined front ++ joined back := flatMap_append

@[simp] theorem joined_cons (output : Output) (outputs : List Output) :
    joined (output :: outputs) = output.data ++ joined outputs := flatMap_cons

@[simp] theorem latches_append (front back : List Output) :
    latches (front ++ back) = latches front ++ latches back := flatMap_append

@[simp] theorem latches_cons (output : Output) (outputs : List Output) :
    latches (output :: outputs) =
      List.replicate output.latchBytes.toNat 0 ++ latches outputs := flatMap_cons

/-- The buffer ends with so many zeros. -/
theorem latches_eq (outputs : List Output) :
    latches outputs = List.replicate (latches outputs).length 0 := by
  rw [eq_replicate_iff]
  refine ⟨rfl, ?_⟩
  intro byte inside
  have ⟨output, _, member⟩ := mem_flatMap.mp inside
  exact eq_of_mem_replicate member

theorem split_at_index {outputs : List Output} {index : Nat} {output : Output}
    (found : outputs[index]? = some output) :
    ∃ front back, outputs = front ++ output :: back ∧ front.length = index := by
  have ⟨below, equal⟩ := List.getElem?_eq_some_iff.mp found
  refine ⟨outputs.take index, outputs.drop (index + 1), ?_, ?_⟩
  · rw [← equal, ← drop_eq_getElem_cons below, take_append_drop]
  · rw [length_take]
    omega

theorem drop_split (front : List α) (value : α) (back : List α) :
    (front ++ value :: back).drop (front.length + 1) = back := by
  rw [append_cons, drop_left' (by rw [length_append, length_singleton])]

theorem set_split (front : List α) (value other : α) (back : List α) :
    (front ++ value :: back).set front.length other = front ++ other :: back := by
  rw [set_append_right _ _ (Nat.le_refl _), Nat.sub_self, set_cons_zero]

theorem getElem?_split (front : List α) (value : α) (back : List α) :
    (front ++ value :: back)[front.length]? = some value := by
  rw [List.getElem?_append_right (Nat.le_refl _), Nat.sub_self, List.getElem?_cons_zero]

end Joining

@[simp] theorem length_fill (data : List UInt8) (writes : List (Nat × UInt8)) :
    (fill data writes).length = data.length := by
  induction writes generalizing data with
  | nil => rfl
  | cons write writes ih =>
    show (fill (data.set write.1 write.2) writes).length = data.length
    rw [ih, length_set]

variable {writes : List (Nat × UInt8)}

/-- What is written over does not matter. -/
theorem fill_congr {first second : List UInt8} (length : first.length = second.length)
    (agree : ∀ i < first.length, first[i]? = second[i]? ∨ i ∈ writes.map Prod.fst) :
    fill first writes = fill second writes := by
  induction writes generalizing first second with
  | nil =>
    apply ext_getElem?
    intro i
    by_cases below : i < first.length
    · exact (agree i below).resolve_right not_mem_nil
    · rw [fill, fill, foldl_nil, foldl_nil, List.getElem?_eq_none (by omega),
        List.getElem?_eq_none (by omega)]
  | cons write writes ih =>
    apply ih (by rw [length_set, length_set, length])
    intro i below
    rw [length_set] at below
    by_cases same : write.1 = i
    · left
      rw [List.getElem?_set, List.getElem?_set, if_pos same, if_pos same, length]
    · rw [List.getElem?_set_ne same, List.getElem?_set_ne same]
      apply (agree i below).imp_right
      intro member
      rw [map_cons] at member
      exact mem_of_ne_of_mem (fun equal => same equal.symm) member

/-- Writes through a pointer stay in the region. -/
theorem poke_region {front data back : List UInt8}
    (inside : ∀ write ∈ writes, write.1 < data.length) :
    poke (front ++ (data ++ back)) front.length writes =
      some (front ++ (fill data writes ++ back)) := by
  induction writes generalizing data with
  | nil => rfl
  | cons write writes ih =>
    have below := inside write mem_cons_self
    rw [poke, if_pos (by simp only [length_append]; omega),
      set_append_right _ _ (by omega), Nat.add_sub_cancel_left,
      set_append_left _ _ below, ih]
    · rfl
    · intro other member
      rw [length_set]
      exact inside other (mem_cons_of_mem _ member)

/-- The backend is as its outputs see it. -/
structure Lays (backend : SoftwareBackend) (outputs : List Output) : Prop where
  sizes : backend.outputSizes = outputs.map (fun output => UInt32.ofNat output.data.length)
  latches : backend.latchBytes = outputs.map Output.latchBytes
  buffer : backend.output = layout outputs
  small : (layout outputs).length < 2 ^ 32
  length : backend.length = UInt32.ofNat (layout outputs).length

section Checkout
variable {backend : SoftwareBackend} {front back : List Output} {output : Output}
  {length latchBytes : UInt32}

theorem layout_length (outputs : List Output) :
    (layout outputs).length = (joined outputs).length + (latches outputs).length :=
  length_append

theorem place_split : place (front ++ output :: back) front.length = (joined front).length := by
  rw [place, take_left' rfl]

section

variable (lays : Lays backend (front ++ output :: back))
include lays

/-- What `Checkout` counts in front of the output, behind it, and of latch bytes. -/
theorem Lays.leading :
    (accumulate (backend.outputSizes.take front.length)).toNat = (joined front).length := by
  have small := lays.small
  rw [layout_length, joined_append, length_append] at small
  rw [lays.sizes, ← map_take, take_left' rfl, accumulate_sizes]
  omega

theorem Lays.trailing :
    (accumulate (backend.outputSizes.drop (front.length + 1))).toNat = (joined back).length := by
  have small := lays.small
  rw [layout_length, joined_append, joined_cons, length_append, length_append] at small
  rw [lays.sizes, ← map_drop, drop_split, accumulate_sizes]
  omega

theorem Lays.set_latches (data : List UInt8) :
    backend.latchBytes.set front.length latchBytes =
      (front ++ ⟨data, latchBytes⟩ :: back).map Output.latchBytes := by
  have set := set_split (front.map Output.latchBytes) output.latchBytes latchBytes
    (back.map Output.latchBytes)
  rw [length_map] at set
  rw [lays.latches, map_append, map_cons, set, map_append, map_cons]

theorem Lays.required {data : List UInt8} (sized : data.length = length.toNat) :
    accumulate (backend.outputSizes.take front.length) + length +
        accumulate (backend.outputSizes.drop (front.length + 1)) +
        accumulate (backend.latchBytes.set front.length latchBytes) =
      UInt32.ofNat (layout (front ++ ⟨data, latchBytes⟩ :: back)).length := by
  apply UInt32.toNat_inj.mp
  rw [lays.set_latches data, UInt32.toNat_add, UInt32.toNat_add, UInt32.toNat_add, lays.leading,
    lays.trailing, accumulate_latches, UInt32.toNat_ofNat', layout_length, joined_append,
    joined_cons, length_append, length_append, sized]
  omega

theorem Lays.valid : ¬ backend.outputSizes.length ≤ front.length := by
  rw [lays.sizes, length_map, length_append, length_cons]
  omega

/-- An output that asks for what it has. -/
theorem checkout_same (same : output.data.length = length.toNat)
    (latch : output.latchBytes = latchBytes) :
    backend.checkout front.length length latchBytes =
      some (backend, some (joined front).length) := by
  have required := @Lays.required backend front back output length latchBytes lays _ same
  have unchanged : (⟨output.data, latchBytes⟩ : Output) = output := by rw [← latch]
  have latches : backend.latchBytes.set front.length latchBytes = backend.latchBytes := by
    rw [lays.set_latches output.data, unchanged, lays.latches]
  rw [unchanged, ← lays.length] at required
  unfold SoftwareBackend.checkout
  rw [if_neg lays.valid, if_neg (not_not_intro required), lays.leading, latches]

theorem checkout_moves
    (moves : Moves (front ++ output :: back) front.length output length latchBytes writes) :
    ∃ after, backend.checkout front.length length latchBytes =
        some (after, some (joined front).length) ∧
      Lays after (front ++ ⟨List.replicate length.toNat 0, latchBytes⟩ :: back) := by
  have ⟨total, small, behind, _⟩ := moves
  rw [set_split] at small
  rw [drop_split] at behind
  have required := @Lays.required backend front back output length latchBytes lays
    (List.replicate length.toNat 0) length_replicate
  have size := UInt32.toNat_ofNat_of_lt' small
  have before := lays.small
  have changed : UInt32.ofNat
      (layout (front ++ ⟨List.replicate length.toNat 0, latchBytes⟩ :: back)).length ≠
      backend.length := by
    intro same
    have lengths := congrArg UInt32.toNat (same.trans lays.length)
    rw [size, UInt32.toNat_ofNat_of_lt' before] at lengths
    simp only [layout_length, joined_append, joined_cons, latches_append, latches_cons,
      length_append, length_replicate] at lengths
    omega
  have front' : copy backend.output 0 (joined front).length = some (joined front) := by
    rw [copy, lays.buffer, layout, joined_append, append_assoc, if_pos, drop_zero,
      take_left' rfl]
    rw [length_append]
    omega
  have back' : copy backend.output (joined front).length (joined back).length =
      some (joined back) := by
    have first := prefix_iff_eq_take.mp (behind.trans (prefix_append _ (latches
      (front ++ output :: back))))
    rw [copy, lays.buffer, layout, joined_append, joined_cons, append_assoc, if_pos,
      drop_left' rfl, ← first]
    simp only [length_append]
    omega
  have zeros : List.replicate (accumulate (backend.latchBytes.set front.length latchBytes)).toNat 0 =
      latches (front ++ ⟨List.replicate length.toNat 0, latchBytes⟩ :: back) := by
    rw [layout_length] at small
    rw [lays.set_latches (List.replicate length.toNat 0), accumulate_latches,
      Nat.mod_eq_of_lt (by omega), ← latches_eq]
  have built : joined front ++ List.replicate length.toNat 0 ++ joined back ++
      latches (front ++ ⟨List.replicate length.toNat 0, latchBytes⟩ :: back) =
      layout (front ++ ⟨List.replicate length.toNat 0, latchBytes⟩ :: back) := by
    rw [layout, joined_append, joined_cons, append_assoc (joined front)]
  have sizes := set_split (front.map (fun output => UInt32.ofNat output.data.length))
    (UInt32.ofNat output.data.length) length
    (back.map (fun output => UInt32.ofNat output.data.length))
  rw [length_map] at sizes
  unfold SoftwareBackend.checkout
  dsimp only
  rw [if_neg lays.valid, required, if_pos changed, lays.leading, lays.trailing, front', back']
  dsimp only [bind, Option.bind]
  rw [zeros, built, if_neg (not_not_intro size.symm)]
  refine ⟨_, rfl, ?_, ?_, rfl, small, rfl⟩
  · rw [lays.sizes, map_append, map_cons, sizes, map_append, map_cons,
      length_replicate, UInt32.ofNat_toNat]
  · exact lays.set_latches _

end

theorem Lays.commit {outputs : List Output} (lays : Lays backend outputs) (index : Nat) :
    Lays (backend.commit index) outputs := by
  unfold SoftwareBackend.commit
  split
  · exact lays
  · split
    · exact { lays with }
    · exact lays

theorem Lays.run {outputs : List Output} (lays : Lays backend outputs) :
    ∃ after, backend.run = some after ∧ Lays after outputs ∧
      after.written = backend.written ++ if backend.writePending then [layout outputs] else [] := by
  have whole : copy backend.output 0 backend.length.toNat = some (layout outputs) := by
    rw [lays.length, UInt32.toNat_ofNat_of_lt' lays.small, copy, lays.buffer,
      if_pos (Nat.le_of_eq (Nat.zero_add _)), drop_zero, take_length]
  unfold SoftwareBackend.run
  by_cases pending : backend.writePending = true
  · rw [if_pos pending, whole, if_pos pending]
    exact ⟨_, rfl, { lays with }, rfl⟩
  · rw [if_neg pending, if_neg pending, append_nil]
    exact ⟨backend, rfl, lays, rfl⟩

/-- What is checked out, and what the outputs are then before they are written. -/
theorem checkout_lays (lays : Lays backend (front ++ output :: back))
    (keeps : (output.data.length = length.toNat ∧ output.latchBytes = latchBytes) ∨
      Moves (front ++ output :: back) front.length output length latchBytes writes) :
    ∃ after data, backend.checkout front.length length latchBytes =
        some (after, some (joined front).length) ∧
      Lays after (front ++ ⟨data, latchBytes⟩ :: back) ∧ data.length = length.toNat ∧
      fill data writes = fill (output.start length.toNat) writes := by
  rcases keeps with ⟨same, latch⟩ | moves
  · refine ⟨backend, output.data, checkout_same lays same latch, ?_, same, ?_⟩
    · rwa [← latch]
    · rw [Output.start, if_pos same]
  · have ⟨after, ran, done⟩ := checkout_moves lays moves
    refine ⟨after, _, ran, done, length_replicate, ?_⟩
    unfold Output.start
    by_cases same : output.data.length = length.toNat
    · rw [if_pos same]
      apply fill_congr (by rw [length_replicate, same])
      intro i below
      rw [length_replicate] at below
      apply (moves.2.2.2 same i below).imp_left
      intro zero
      rw [zero, List.getElem?_replicate, if_pos below]
    · rw [if_neg same]

end Checkout

/-- The bytes that are checked out lie in the buffer, and no other output has data there. -/
structure Region (outputs : List Output) (index pointer length : Nat) (buffer : List UInt8) :
    Prop where
  inside : pointer + length ≤ buffer.length
  apart : ∀ (other : Nat) (output : Output), outputs[other]? = some output → other ≠ index →
    pointer + length ≤ place outputs other ∨ place outputs other + output.data.length ≤ pointer

section Places
variable {outputs : List Output} {output : Output} {first second : Nat}

theorem place_succ (found : outputs[first]? = some output) :
    place outputs (first + 1) = place outputs first + output.data.length := by
  rw [place, place, take_add_one, found, Option.toList_some, joined_append,
    length_append, joined_cons]
  simp [joined]

theorem place_mono (before : first ≤ second) : place outputs first ≤ place outputs second := by
  have split : outputs.take second = outputs.take first ++ (outputs.take second).drop first := by
    have whole := take_append_drop first (outputs.take second)
    rwa [take_take, Nat.min_eq_left before, eq_comm] at whole
  rw [place, place, split, joined_append, length_append]
  omega

theorem place_le (outputs : List Output) (index : Nat) :
    place outputs index ≤ (layout outputs).length := by
  have mono := @place_mono outputs index (max index outputs.length) (Nat.le_max_left _ _)
  rw [place, place, take_of_length_le (Nat.le_max_right _ _)] at mono
  rw [place, layout_length]
  omega

theorem region_place {buffer : List UInt8} (found : outputs[first]? = some output)
    (laid : buffer.length = (layout outputs).length) :
    Region outputs first (place outputs first) output.data.length buffer where
  inside := by
    rw [← place_succ found, laid]
    exact place_le outputs (first + 1)
  apart other neighbour held distinct := by
    rcases Nat.lt_or_gt_of_ne distinct with before | behind
    · right
      rw [← place_succ held]
      exact place_mono before
    · left
      rw [← place_succ found]
      exact place_mono behind

end Places

section Steps
variable {backend : SoftwareBackend} {outputs : List Output}

theorem Lays.write {front back : List Output} {data filled : List UInt8} {latchBytes : UInt32}
    (lays : Lays backend (front ++ ⟨data, latchBytes⟩ :: back))
    (same : filled.length = data.length) :
    Lays { backend with output := layout (front ++ ⟨filled, latchBytes⟩ :: back) }
      (front ++ ⟨filled, latchBytes⟩ :: back) := by
  have length : (layout (front ++ ⟨filled, latchBytes⟩ :: back)).length =
      (layout (front ++ ⟨data, latchBytes⟩ :: back)).length := by
    simp only [layout_length, joined_append, joined_cons, latches_append, latches_cons,
      length_append, same]
  constructor
  case sizes => simp only [lays.sizes, map_append, map_cons, same]
  case latches => simp only [lays.latches, map_append, map_cons]
  case buffer => rfl
  case small => rw [length]; exact lays.small
  case length => rw [length]; exact lays.length

/-- One call of a port: what it is given to write on, and the state after its commit. -/
theorem update_lays {index : UInt8} {size latchBytes : UInt32}
    {writes : List (Fin size.toNat × UInt8)} {output : Output} (lays : Lays backend outputs)
    (keeps : Keeps outputs (.update index size latchBytes writes))
    (found : outputs[index.toNat]? = some output) :
    ∃ after pointer last, backend.checkout index.toNat size latchBytes =
        some (after, some pointer) ∧
      Region (Output.update outputs (.update index size latchBytes writes)) index.toNat pointer
        size.toNat after.output ∧
      step (some backend) (.update index size latchBytes writes) = some last ∧
      Lays last (Output.update outputs (.update index size latchBytes writes)) := by
  have ⟨front, back, split, place⟩ := split_at_index found
  subst split
  have kept := keeps output found
  have updated : Output.update (front ++ output :: back) (.update index size latchBytes writes) =
      front ++ ⟨fill (output.start size.toNat) (plain writes), latchBytes⟩ :: back := by
    rw [Output.update, found]
    dsimp only
    rw [← place, set_split]
  rw [← place] at kept
  have ⟨after, data, checked, laid, sized, filled⟩ := checkout_lays lays kept
  have length : (fill data (plain writes)).length = data.length := length_fill _ _
  have within : ∀ write ∈ plain writes, write.1 < data.length := by
    intro write member
    have ⟨origin, _, equal⟩ := mem_map.mp member
    rw [← equal, sized]
    exact origin.1.isLt
  have written : poke after.output (joined front).length (plain writes) =
      some (layout (front ++ ⟨fill data (plain writes), latchBytes⟩ :: back)) := by
    have poked := @poke_region _ (joined front) data
      (joined back ++ latches (front ++ ⟨data, latchBytes⟩ :: back)) within
    simpa [laid.buffer, layout] using poked
  rw [filled] at written length
  have region := @region_place
    (front ++ ⟨fill (output.start size.toNat) (plain writes), latchBytes⟩ :: back) _ front.length
    after.output (getElem?_split ..) (by
      rw [laid.buffer]
      simp only [layout_length, joined_append, joined_cons, latches_append, latches_cons,
        length_append, length])
  rw [updated]
  refine ⟨after, (joined front).length, _, ?_, ?_, ?_, (laid.write length).commit front.length⟩
  · rw [← place, checked]
  · rw [place_split] at region
    rw [length, sized] at region
    rwa [← place]
  · unfold step
    dsimp only [bind, Option.bind]
    rw [← place, checked]
    dsimp only
    rw [written]

theorem lays_step (state : Option SoftwareBackend) (outputs : List Output) (event : Event)
    (before : ∃ backend, state = some backend ∧ Lays backend outputs)
    (keeps : Keeps outputs event) :
    ∃ backend, step state event = some backend ∧ Lays backend (Output.update outputs event) := by
  have ⟨backend, held, lays⟩ := before
  subst held
  cases event with
  | run =>
    have ⟨after, ran, done, _⟩ := lays.run
    exact ⟨after, ran, done⟩
  | update index length latchBytes writes =>
    cases found : outputs[index.toNat]? with
    | some output =>
      have ⟨_, _, last, _, _, done, after⟩ := update_lays lays keeps found
      exact ⟨last, done, after⟩
    | none =>
      refine ⟨backend, ?_, ?_⟩
      · have beyond : backend.outputSizes.length ≤ index.toNat := by
          rw [lays.sizes, length_map]
          exact List.getElem?_eq_none_iff.mp found
        unfold step SoftwareBackend.checkout
        dsimp only [bind, Option.bind]
        rw [if_pos beyond]
      · rw [Output.update, found]
        exact lays

end Steps

theorem lays_new (outputs : UInt8) (syncOutput : Int) :
    Lays (.new outputs syncOutput) (blank outputs) := by
  have empty : layout (blank outputs) = [] := by
    rw [layout, joined, latches, append_eq_nil_iff, flatMap_eq_nil_iff,
      flatMap_eq_nil_iff]
    constructor
    all_goals
      intro output member
      cases eq_of_mem_replicate member
      rfl
  refine ⟨?_, ?_, empty.symm, ?_, ?_⟩
  · rw [blank, map_replicate]
    rfl
  · rw [blank, map_replicate]
    rfl
  · rw [empty]
    decide
  · rw [empty]
    rfl

theorem length_update (outputs : List Output) (event : Event) :
    (Output.update outputs event).length = outputs.length := by
  cases event with
  | run => rfl
  | update index length latchBytes writes =>
    rw [Output.update]
    split
    · rfl
    · exact length_set

/-- In every run of events that the backend gets right, the buffer is laid out as it should be
after every event, and the bytes that a port is given are its own. -/
theorem buffer_lays_out {outputs : UInt8} {syncOutput : Int} {events : List Event}
    (keeps : Permitted Output.update Keeps (blank outputs) events) :
    ∀ past future, events = past ++ future →
      ∃ backend, run step (some (.new outputs syncOutput)) past = some backend ∧
        backend.output = layout (run Output.update (blank outputs) past) ∧
        backend.length.toNat = (layout (run Output.update (blank outputs) past)).length ∧
        (∃ after, backend.run = some after ∧ after.written = backend.written ++
          if backend.writePending then [backend.output] else []) ∧
        ∀ index length latchBytes writes rest,
          future = .update index length latchBytes writes :: rest → index < outputs →
          ∃ after pointer, backend.checkout index.toNat length latchBytes =
              some (after, some pointer) ∧
            Region
              (run Output.update (blank outputs) (past ++ [.update index length latchBytes writes]))
              index.toNat pointer length.toNat after.output := by
  intro past future split
  subst split
  have ⟨front, back⟩ := permitted_append_iff.mp keeps
  have ⟨backend, reached, lays⟩ := @run_related _ _ _ step Output.update Keeps
    (fun state outputs => ∃ backend, state = some backend ∧ Lays backend outputs) lays_step _ _ _
    ⟨_, rfl, lays_new outputs syncOutput⟩ front
  have size := lays.length
  refine ⟨backend, reached, lays.buffer, ?_, ?_, ?_⟩
  · rw [size, UInt32.toNat_ofNat_of_lt' lays.small]
  · have ⟨after, ran, _, written⟩ := lays.run
    rw [lays.buffer]
    exact ⟨after, ran, written⟩
  · intro index length latchBytes writes rest next valid
    subst next
    have same : (run Output.update (blank outputs) past).length = outputs.toNat :=
      @run_invariant _ _ Output.update Keeps (fun state => state.length = outputs.toNat)
        (fun state event length _ => (length_update state event).trans length) _ _
        List.length_replicate front
    have below : index.toNat < (run Output.update (blank outputs) past).length :=
      same ▸ UInt8.lt_iff_toNat_lt.mp valid
    have ⟨after, pointer, _, checked, region, _⟩ := update_lays lays back.1
      (List.getElem?_eq_getElem below)
    rw [run_append, run_cons, run_nil]
    exact ⟨after, pointer, checked, region⟩

/-- Two outputs are filled, and then the first one grows. -/
def growing : List Event :=
  [.update 0 2 0 [(⟨0, by decide⟩, 1), (⟨1, by decide⟩, 2)],
    .update 1 1 0 [(⟨0, by decide⟩, 9)],
    .update 0 3 0 [(⟨0, by decide⟩, 4), (⟨1, by decide⟩, 5), (⟨2, by decide⟩, 6)]]

/-- The first output has two latch bytes, which turn into data. -/
def trading : List Event :=
  [.update 0 1 2 [(⟨0, by decide⟩, 1)],
    .update 1 1 0 [(⟨0, by decide⟩, 9)],
    .update 0 3 0 [(⟨0, by decide⟩, 4), (⟨1, by decide⟩, 5), (⟨2, by decide⟩, 6)]]

/-- The second output gets the bytes that the first one had, or those that the first one writes. -/
theorem second_output_lost :
    (run step (some (.new 2 (-1))) growing).map SoftwareBackend.output = some [4, 5, 6, 1] ∧
      layout (run Output.update (blank 2) growing) = [4, 5, 6, 9] ∧
      (run step (some (.new 2 (-1))) trading).map SoftwareBackend.output = some [4, 5, 6, 0] ∧
      layout (run Output.update (blank 2) trading) = [4, 5, 6, 9] := by
  decide

/-- The last output grows, and the first one has nothing yet. -/
def appending : List Event :=
  [.update 1 1 0 [(⟨0, by decide⟩, 9)], .update 1 2 1 [(⟨1, by decide⟩, 7)],
    .update 0 1 0 [(⟨0, by decide⟩, 3)]]

theorem buffer_lays_out_appending :
    ∃ backend, run step (some (.new 2 0)) appending = some backend ∧
      backend.output = layout (run Output.update (blank 2) appending) := by
  have ⟨backend, reached, laid, _⟩ := @buffer_lays_out 2 0 appending (by decide) appending []
    (List.append_nil _).symm
  exact ⟨backend, reached, laid⟩

end OpenLighting.Spi
