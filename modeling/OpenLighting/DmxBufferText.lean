import OpenLighting.DmxBufferSemantics
import OpenLighting.StringSplit

/- The slots of a buffer as text. -/
namespace OpenLighting.DmxMemory

open OpenLighting.StringUtils

/-- The slots from `i` on, with a comma in front of all but the first. -/
def slotsText (i : Nat) : List UInt8 → List UInt8
  | [] => []
  | slot :: rest =>
    (if i ≠ 0 then [44] else []) ++ intToString slot.toNat ++ slotsText (i + 1) rest

def Buffer.toString (heap : Heap) (buffer : Buffer) : Heap × List UInt8 :=
  match buffer.block with
  | none => (heap, [])
  | some block =>
    ((heap.read block 0 buffer.length).1, slotsText 0 (heap.read block 0 buffer.length).2)

/-- `c.SetFromString(b.ToString())`, with its result. -/
def World.setFromText (world : World) (name other : Nat) : World × Bool :=
  match world.find name, world.find other with
  | some buffer, some source =>
    let text := source.toString world.heap
    let result := buffer.setFromString text.1 text.2
    (world.store name (dropResult result), result.2.2)
  | _, _ => (world, false)

theorem slotsText_succ (i : Nat) (slot : UInt8) (slots : List UInt8) :
    slotsText (i + 1) (slot :: slots) =
      [44] ++ stringJoin [44] ((slot :: slots).map (fun slot => intToString slot.toNat)) := by
  induction slots generalizing i slot with
  | nil => simp [slotsText, stringJoin]
  | cons next rest ih =>
    rw [slotsText, ih]
    simp [stringJoin]

theorem slotsText_eq (slots : List UInt8) :
    slotsText 0 slots = stringJoin [44] (slots.map (fun slot => intToString slot.toNat)) := by
  cases slots with
  | nil => rfl
  | cons first rest =>
    cases rest with
    | nil => simp [slotsText, stringJoin]
    | cons next rest =>
      rw [slotsText, slotsText_succ]
      simp [stringJoin]

theorem comma_notMem_intToString (number : Nat) : 44 ∉ intToString number := by
  intro member
  exact absurd (isDigit_intToString number 44 member) (by decide)

theorem setFromString_slotsText (buffer : DmxBuffer) (slots : List UInt8) :
    (buffer.setFromString (slotsText 0 slots)).1 = .holding slots := by
  cases slots with
  | nil => rfl
  | cons first rest =>
    have apart : ∀ text ∈ (first :: rest).map (fun slot => intToString slot.toNat), 44 ∉ text := by
      intro text member
      obtain ⟨slot, _, rfl⟩ := List.mem_map.mp member
      exact comma_notMem_intToString slot.toNat
    have parts := stringSplit_stringJoin apart (by simp)
    have filled : (slotsText 0 (first :: rest)).isEmpty = false := by
      obtain ⟨digit, others, shape⟩ :=
        List.exists_cons_of_ne_nil (intToString_ne_nil first.toNat)
      rw [slotsText, shape]
      rfl
    have read : (fun value => UInt8.ofInt (atoi value)) ∘ (fun slot => intToString slot.toNat) =
        (id : UInt8 → UInt8) := by
      funext slot
      have small := slot.toNat_lt
      have same : ((slot.toNat : Int) % 2 ^ 8).toNat = slot.toNat := by omega
      rw [Function.comp_apply, atoi_intToString, UInt8.ofInt, same]
      exact UInt8.ofNat_toNat
    unfold DmxBuffer.setFromString
    rw [filled, if_neg (by decide), slotsText_eq, parts, List.map_map, read, List.map_id]

section Worlds
variable {world : World} {name other : Nat} {buffer source : Buffer}

theorem setFromString_succeeds (heap : Heap) (buffer : Buffer) (input : List UInt8) :
    (buffer.setFromString heap input).2.2 = true := by
  unfold Buffer.setFromString
  dsimp only
  split <;> rfl

theorem toString_eq (valid : Valid world) (found : world.find other = some source) :
    (source.toString world.heap).1 = world.heap ∧
      ∀ block, source.block = some block →
        (source.toString world.heap).2 = slotsText 0 (contents world.heap source).slots := by
  have focus := valid.focus found
  unfold Buffer.toString
  cases points : source.block with
  | none => exact ⟨rfl, fun block some => by cases some⟩
  | some own =>
    have count := focus.count_own points
    have live := @Heap.read_live world.heap own 0 source.length valid.safe (by omega)
    dsimp only
    rw [live, contents_slots focus.own points]
    exact ⟨rfl, fun _ _ => rfl⟩

/-- What was a buffer with memory is written and read back: the call succeeds, the target has the
same length and the same slots, whatever it was before, and every other buffer holds what it
held, also where it shared its memory with the target, or is the source. -/
theorem setFromText_roundTrips (valid : Valid world) (target : world.find name = some buffer)
    (found : world.find other = some source) (initialised : source.block.isSome = true) :
    (world.setFromText name other).2 = true ∧ Valid (world.setFromText name other).1 ∧
      (∃ result, (world.setFromText name other).1.find name = some result ∧
        result.length = source.length ∧
        contents (world.setFromText name other).1.heap result = contents world.heap source) ∧
      ∀ third ≠ name, (world.setFromText name other).1.values.find third =
        world.values.find third := by
  obtain ⟨block, points⟩ := Option.isSome_iff_exists.mp initialised
  have text := toString_eq valid found
  have sourceFocus := valid.focus found
  have becomes := setFromString_becomes (valid.focus target) (source.toString world.heap).2
  have holds : contents world.heap source = .holding (contents world.heap source).slots := by
    rw [contents_slots sourceFocus.own points]
    exact contents_of_block points
  have result : (world.setFromText name other) =
      (world.store name (dropResult (buffer.setFromString world.heap
        (source.toString world.heap).2)), true) := by
    unfold World.setFromText
    rw [target, found]
    dsimp only
    rw [text.1, setFromString_succeeds]
  rw [text.2 block points, setFromString_slotsText, ← holds] at becomes
  rw [← text.2 block points] at becomes
  have stored := becomes_store target becomes
  rw [result]
  refine ⟨rfl, stored.1, ⟨_, find_store_self target, ?_, becomes.value⟩, ?_⟩
  · have size := contents_size becomes.focus.own
    rw [becomes.value, contents_size sourceFocus.own] at size
    exact size.symm
  · intro third apart
    rw [stored.2]
    unfold Values.find
    rw [List.getElem?_set_ne apart.symm]

/-- Every program that reads no freed slots comes to such a world. -/
theorem valid_run {memory : Nat → Nat → UInt8} {operations : List Operation}
    (reads : TransitionSystem.Permitted World.step Reads (.start memory) operations) :
    Valid (TransitionSystem.run World.step (.start memory) operations) := by
  apply @TransitionSystem.run_invariant _ _ _ _ Valid _ _ _ (valid_start memory) reads
  intro world operation valid ok
  exact (step_refines valid operation ok).1

/-- A buffer with two slots, and two longer ones that share their slots. -/
def sharingWorld : World :=
  TransitionSystem.run World.step (.start fun _ _ => 0)
    [.construct, .set 0 (some [1, 200]), .construct, .set 1 (some [9, 9, 9]), .copyConstruct 1]

theorem setFromText_sharing : (sharingWorld.setFromText 1 0).2 = true ∧
    (sharingWorld.setFromText 1 0).1.values.find 2 = sharingWorld.values.find 2 := by
  have valid : Valid sharingWorld :=
    valid_run ⟨trivial, trivial, trivial, trivial, trivial, trivial⟩
  have written := @setFromText_roundTrips sharingWorld 1 0 ⟨some 1, true, 3⟩ ⟨some 0, false, 2⟩
    valid rfl rfl rfl
  exact ⟨written.1, written.2.2.2 2 (by decide)⟩

end Worlds

end OpenLighting.DmxMemory
