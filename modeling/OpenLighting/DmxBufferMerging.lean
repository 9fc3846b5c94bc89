import OpenLighting.DmxBufferSemantics

/- `HTPMerge` between buffers that share their memory. -/
namespace OpenLighting.DmxMemory

open SlotMaximum

/-- A program comes here that reads no memory it has freed. -/
def Reached (world : World) : Prop :=
  ∃ memory operations,
    TransitionSystem.Permitted World.step Reads (.start memory) operations ∧
      TransitionSystem.run World.step (.start memory) operations = world

def World.slots (world : World) (name : Nat) : List UInt8 :=
  match world.find name with
  | none => []
  | some buffer => (contents world.heap buffer).slots

/-- `HTPMergeSources`, into the buffer of this name. -/
def World.htpMergeSources (world : World) (name : Nat) (sources : List Nat) : World :=
  sources.foldl (fun world source => world.htpMerge name source) (world.step (.reset name))

/-- The larger value wherever both buffers have a slot. No other buffer is changed. -/
structure HtpMerged (world after : World) (name other : Nat) : Prop where
  size : (after.slots name).length = max (world.slots name).length (world.slots other).length
  slot : ∀ index : Nat, (after.slots name)[index]? =
    Option.merge max (world.slots name)[index]? (world.slots other)[index]?
  others : ∀ candidate, candidate ≠ name → after.slots candidate = world.slots candidate

namespace Values

def slots (values : Values) (name : Nat) : List UInt8 :=
  ((values.find name).map DmxBuffer.slots).getD []

def htpMergeSources (values : Values) (name : Nat) (sources : List Nat) : Values :=
  sources.foldl (fun values source => values.step (.htpMerge name source))
    (values.step (.reset name))

variable {values : Values} {name : Nat}

theorem find_mutate (change : DmxBuffer → DmxBuffer) (other : Nat) :
    (values.mutate name change).find other =
      if other = name then (values.find name).map change else values.find other := by
  cases found : values.find name with
  | none =>
    unfold mutate
    rw [found]
    split_ifs with same
    · rw [same]
      exact found
    · rfl
  | some buffer =>
    have inside : name < values.length := by
      unfold find at found
      by_contra outside
      rw [List.getElem?_eq_none (Nat.le_of_not_lt outside)] at found
      cases found
    unfold mutate
    rw [found]
    unfold find
    split_ifs with same
    · rw [same, List.getElem?_set_self inside]
      rfl
    · rw [List.getElem?_set_ne (Ne.symm same)]

theorem slots_reset (other : Nat) :
    (values.step (.reset name)).slots other = if other = name then [] else values.slots other := by
  unfold slots
  rw [step, find_mutate]
  split_ifs with same
  · cases values.find name with
    | none => rfl
    | some buffer => exact DmxBuffer.reset_slots buffer
  · rfl

theorem slots_htpMerge {source : Nat} (present : (values.find name).isSome)
    (there : (values.find source).isSome) (other : Nat) :
    (values.step (.htpMerge name source)).slots other =
      if other = name then merge (values.slots name) (values.slots source)
      else values.slots other := by
  obtain ⟨buffer, found⟩ := Option.isSome_iff_exists.mp present
  obtain ⟨data, stored⟩ := Option.isSome_iff_exists.mp there
  unfold slots
  rw [step, mutateFrom, stored]
  rw [find_mutate, found]
  split_ifs with same
  · exact DmxBuffer.htpMerge_slots buffer data
  · rfl

theorem present_mutate (change : DmxBuffer → DmxBuffer) (other : Nat) :
    ((values.mutate name change).find other).isSome = (values.find other).isSome := by
  rw [find_mutate]
  split_ifs with same
  · rw [same, Option.isSome_map]
  · rfl

theorem present_htpMerge (source other : Nat) :
    ((values.step (.htpMerge name source)).find other).isSome = (values.find other).isSome := by
  rw [step, mutateFrom]
  split
  · rfl
  · exact present_mutate _ other

section

variable (present : (values.find name).isSome) (sources : List Nat)
  (there : ∀ source ∈ sources, (values.find source).isSome)
include present sources there

/-- What is merged of a buffer into itself has no effect. -/
theorem foldl_slots :
    (sources.foldl (fun values source => values.step (.htpMerge name source)) values).slots name =
      ((sources.filter (· ≠ name)).map values.slots).foldl merge (values.slots name) := by
  induction sources generalizing values with
  | nil => rfl
  | cons source sources ih =>
    have first := there source List.mem_cons_self
    have later := @ih (values.step (.htpMerge name source))
      (by rw [present_htpMerge]; exact present)
      (fun other member => by
        rw [present_htpMerge]
        exact there other (List.mem_cons_of_mem _ member))
    have kept : (sources.filter (· ≠ name)).map (values.step (.htpMerge name source)).slots =
        (sources.filter (· ≠ name)).map values.slots := by
      apply List.map_congr_left
      intro other member
      have apart : other ≠ name := by simpa using (List.mem_filter.mp member).2
      rw [slots_htpMerge present first, if_neg apart]
    rw [List.foldl_cons, later, kept, slots_htpMerge present first, if_pos rfl]
    by_cases self : source = name
    · rw [List.filter_cons_of_neg (by simpa using self), self, merge_self]
    · rw [List.filter_cons_of_pos (by simpa using self)]
      rfl

/-- Merging one buffer after the other finds the largest value of every slot. -/
theorem htpMergeSources_maximum :
    IsMaximum {row | ∃ source ∈ sources, source ≠ name ∧ values.slots source = row}
      ((values.htpMergeSources name sources).slots name) := by
  have still : ∀ other, ((values.step (.reset name)).find other).isSome = (values.find other).isSome :=
    present_mutate _
  have kept : (sources.filter (· ≠ name)).map (values.step (.reset name)).slots =
      (sources.filter (· ≠ name)).map values.slots := by
    apply List.map_congr_left
    intro other member
    have apart : other ≠ name := by simpa using (List.mem_filter.mp member).2
    rw [slots_reset, if_neg apart]
  unfold htpMergeSources
  rw [foldl_slots (by rw [still]; exact present) sources
    (fun source member => by rw [still]; exact there source member), kept, slots_reset, if_pos rfl]
  have merged := (@isMaximum_empty UInt8 _).foldl ((sources.filter (· ≠ name)).map values.slots)
  convert merged using 1
  ext row
  simp [and_assoc]

end

end Values

section Memory

variable {world : World} {name : Nat}

theorem Reached.valid (reached : Reached world) : Valid world := by
  obtain ⟨memory, operations, permitted, rfl⟩ := reached
  refine TransitionSystem.run_invariant ?_ (valid_start memory) permitted
  intro world operation valid ok
  exact (step_refines valid operation ok).1

theorem values_slots (world : World) (name : Nat) : world.values.slots name = world.slots name := by
  unfold Values.slots World.slots
  rw [values_find]
  cases world.find name <;> rfl

theorem values_present (world : World) (name : Nat) :
    (world.values.find name).isSome = (world.find name).isSome := by
  rw [values_find, Option.isSome_map]

theorem htpMergeSources_refines (valid : Valid world) (name : Nat) (sources : List Nat) :
    Valid (world.htpMergeSources name sources) ∧
      (world.htpMergeSources name sources).values = world.values.htpMergeSources name sources := by
  have reset := step_refines valid (.reset name) trivial
  unfold World.htpMergeSources Values.htpMergeSources
  rw [← reset.2]
  generalize world.step (.reset name) = start at reset ⊢
  have valid := reset.1
  clear reset
  induction sources generalizing start with
  | nil => exact ⟨valid, rfl⟩
  | cons source sources ih =>
    have merged := step_refines valid (.htpMerge name source) trivial
    rw [List.foldl_cons, List.foldl_cons, ← merged.2]
    exact ih _ merged.1

theorem htpMerge_merged (valid : Valid world) (present : (world.find name).isSome) {other : Nat}
    (there : (world.find other).isSome) :
    HtpMerged world (world.htpMerge name other) name other := by
  have slots : ∀ candidate, (world.htpMerge name other).slots candidate =
      if candidate = name then merge (world.slots name) (world.slots other)
      else world.slots candidate := by
    intro candidate
    rw [← values_present] at present there
    rw [← values_slots, (htpMerge_refines valid).2, Values.slots_htpMerge present there,
      values_slots, values_slots, values_slots]
  refine ⟨?_, ?_, ?_⟩
  · rw [slots, if_pos rfl, merge_length]
  · intro index
    rw [slots, if_pos rfl, merge_getElem?]
    rfl
  · intro candidate apart
    rw [slots, if_neg apart]

theorem htpMergeSources_isMaximum (valid : Valid world) (present : (world.find name).isSome)
    (sources : List Nat) (there : ∀ source ∈ sources, (world.find source).isSome) :
    IsMaximum {row | ∃ source ∈ sources, source ≠ name ∧ world.slots source = row}
      ((world.htpMergeSources name sources).slots name) := by
  have maximum := @Values.htpMergeSources_maximum world.values name
    (by rw [values_present]; exact present) sources
    (fun source member => by rw [values_present]; exact there source member)
  rw [← values_slots, (htpMergeSources_refines valid name sources).2]
  simp only [values_slots] at maximum
  exact maximum

end Memory

/-- `HTPMerge` finds the larger value of every slot, and of the slots of many buffers only these
decide what `HTPMergeSources` leaves: neither their order, nor how often one is there, nor the memory,
nor what the buffer held before. -/
theorem htpMerge_algebra {world again : World} (reached : Reached world)
    (reachedAgain : Reached again) {name target : Nat} (present : (world.find name).isSome)
    (presentAgain : (again.find target).isSome) :
    (∀ other, (world.find other).isSome →
      HtpMerged world (world.htpMerge name other) name other) ∧
    ∀ sources more : List Nat, (∀ source ∈ sources, (world.find source).isSome) →
      (∀ source ∈ more, (again.find source).isSome) →
      (∀ row, (∃ source ∈ sources, source ≠ name ∧ world.slots source = row) ↔
        ∃ source ∈ more, source ≠ target ∧ again.slots source = row) →
      (again.htpMergeSources target more).slots target =
        (world.htpMergeSources name sources).slots name := by
  constructor
  · intro other there
    exact htpMerge_merged reached.valid present there
  · intro sources more there thereAgain same
    have maximum := htpMergeSources_isMaximum reached.valid present sources there
    have maximumAgain := htpMergeSources_isMaximum reachedAgain.valid presentAgain more thereAgain
    rw [Set.ext same] at maximum
    exact maximumAgain.unique maximum

/-- A buffer that shares its slots, and two others. -/
def sharedBuffers : World :=
  TransitionSystem.run World.step (.start (fun _ _ => 9))
    [.construct, .set 0 (some [8, 8, 8, 8]), .copyConstruct 0, .construct, .set 2 (some [1, 5]),
      .construct, .set 3 (some [3])]

theorem htpMerge_algebra_shared :
    (sharedBuffers.htpMergeSources 1 [3, 2, 3]).slots 1 =
      (sharedBuffers.htpMergeSources 1 [2, 3]).slots 1 := by
  have reached : Reached sharedBuffers := ⟨_, _, by simp [TransitionSystem.Permitted, Reads], rfl⟩
  apply (@htpMerge_algebra sharedBuffers sharedBuffers reached reached 1 1 rfl rfl).2 [2, 3] [3, 2, 3]
  · decide
  · decide
  · simp only [List.mem_cons, List.not_mem_nil, or_false, exists_eq_or_imp, exists_eq_left]
    tauto

end OpenLighting.DmxMemory
