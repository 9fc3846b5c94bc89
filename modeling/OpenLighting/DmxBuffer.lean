import OpenLighting.SlotMaximum
import OpenLighting.StringUtils
import Mathlib.Data.UInt

/- A `DmxBuffer` as its users see it. How buffers share their memory is another
matter. -/
namespace OpenLighting

open OpenLighting.StringUtils List

def dmxUniverseSize : Nat := 512

/-- The slots in use, and whether there is any memory to hold them. -/
structure DmxBuffer where
  allocated : Bool
  slots : List UInt8
  bounded : slots.length ≤ dmxUniverseSize
  blank : allocated = false → slots = []

namespace DmxBuffer

/-- `DmxBuffer()`. -/
def new : DmxBuffer := ⟨false, [], Nat.zero_le _, fun _ => rfl⟩

/-- A buffer with memory that holds these slots. -/
def holding (slots : List UInt8) : DmxBuffer :=
  ⟨true, slots.take dmxUniverseSize, List.length_take_le _ _, fun absent => by cases absent⟩

def size (buffer : DmxBuffer) : Nat := buffer.slots.length

/-- `m_data` with the slots behind it; `none` is the NULL pointer. -/
def data (buffer : DmxBuffer) : Option (List UInt8) :=
  if buffer.allocated then some buffer.slots else none

/-- `Get` for one channel. -/
def get (buffer : DmxBuffer) (channel : Nat) : UInt8 := buffer.slots.getD channel 0

/-- `Set` from a pointer and a length. -/
def set (buffer : DmxBuffer) (data : Option (List UInt8)) : DmxBuffer × Bool :=
  match data with
  | none => (buffer, false)
  | some data => (holding data, true)

/-- `Set` from another buffer. -/
def setBuffer (buffer other : DmxBuffer) : DmxBuffer × Bool := buffer.set other.data

def setFromString (_ : DmxBuffer) (input : List UInt8) : DmxBuffer × Bool :=
  if input.isEmpty then (holding [], true)
  else
    (holding ((stringSplit input [44]).map (fun value => UInt8.ofInt (atoi value))), true)

def blackout (_ : DmxBuffer) : DmxBuffer × Bool :=
  (holding (List.replicate dmxUniverseSize 0), true)

def reset (buffer : DmxBuffer) : DmxBuffer :=
  if buffer.allocated then holding [] else buffer

/-- The first write to a buffer without memory blacks it out. -/
def prepared (buffer : DmxBuffer) : DmxBuffer :=
  if buffer.allocated then buffer else buffer.blackout.1

/-- Bytes copied over the slots from an offset on. -/
def overlay (slots : List UInt8) (offset : Nat) (data : List UInt8) : List UInt8 :=
  slots.take offset ++ data ++ slots.drop (offset + data.length)

def setRangeToValue (buffer : DmxBuffer) (offset : Nat) (value : UInt8) (length : Nat) :
    DmxBuffer × Bool :=
  if dmxUniverseSize ≤ offset then (buffer, false)
  else
    let buffer := buffer.prepared
    if buffer.size < offset then (buffer, false)
    else
      let copyLength := min length (dmxUniverseSize - offset)
      (holding (overlay buffer.slots offset (List.replicate copyLength value)), true)

def setRange (buffer : DmxBuffer) (offset : Nat) (data : Option (List UInt8)) : DmxBuffer × Bool :=
  match data with
  | none => (buffer, false)
  | some data =>
    if dmxUniverseSize ≤ offset then (buffer, false)
    else
      let buffer := buffer.prepared
      if buffer.size < offset then (buffer, false)
      else (holding (overlay buffer.slots offset (data.take (dmxUniverseSize - offset))), true)

def setChannel (buffer : DmxBuffer) (channel : Nat) (data : UInt8) : DmxBuffer :=
  if dmxUniverseSize ≤ channel then buffer
  else
    let buffer := buffer.prepared
    if buffer.size < channel then buffer
    else holding (overlay buffer.slots channel [data])

def htpMerge (buffer other : DmxBuffer) : DmxBuffer :=
  holding (SlotMaximum.merge buffer.slots other.slots)

theorem ext {first second : DmxBuffer} (memory : first.allocated = second.allocated)
    (slots : first.slots = second.slots) : first = second := by
  cases first
  cases second
  simp only at memory slots
  subst memory slots
  rfl

@[simp] theorem holding_allocated (slots : List UInt8) : (holding slots).allocated = true := rfl

variable {slots data : List UInt8} {buffer : DmxBuffer} {offset : Nat}

theorem holding_slots (bounded : slots.length ≤ dmxUniverseSize) :
    (holding slots).slots = slots := take_of_length_le bounded

theorem allocated_of_size (some : buffer.size ≠ 0) :
    buffer.allocated = true := by
  by_contra absent
  apply some
  unfold size
  rw [buffer.blank (Bool.eq_false_iff.mpr absent), length_nil]

/-- The slots behind the last one of a universe are not set. -/
theorem set_take (buffer : DmxBuffer) (slots : List UInt8) :
    buffer.set (some (slots.take dmxUniverseSize)) = buffer.set (some slots) := by
  have same : holding (slots.take dmxUniverseSize) = holding slots := by
    apply ext
    · rfl
    · simp only [holding, take_take, Nat.min_self]
  simp only [set, same]

theorem holding_self (memory : buffer.allocated = true) :
    holding buffer.slots = buffer :=
  ext memory.symm (holding_slots buffer.bounded)

theorem htpMerge_slots (buffer other : DmxBuffer) :
    (buffer.htpMerge other).slots = SlotMaximum.merge buffer.slots other.slots := by
  apply holding_slots
  rw [SlotMaximum.merge_length]
  exact max_le buffer.bounded other.bounded

theorem reset_slots (buffer : DmxBuffer) : buffer.reset.slots = [] := by
  unfold reset
  by_cases memory : buffer.allocated = true
  · rw [if_pos memory]
    rfl
  · rw [if_neg memory]
    exact buffer.blank (Bool.eq_false_iff.mpr memory)

section Merging
variable {Source : Type} (data : Source → DmxBuffer)

theorem foldl_htpMerge_slots (buffer : DmxBuffer) (sources : List Source) :
    (sources.foldl (fun buffer source => buffer.htpMerge (data source)) buffer).slots =
      (sources.map (fun source => (data source).slots)).foldl SlotMaximum.merge buffer.slots := by
  induction sources generalizing buffer with
  | nil => rfl
  | cons source sources ih =>
    rw [foldl_cons, ih, htpMerge_slots, map_cons, foldl_cons]

/-- HTP merging finds the largest value of every slot. -/
theorem foldl_htpMerge_maximum (buffer : DmxBuffer) (sources : List Source) :
    SlotMaximum.IsMaximum {row | ∃ source ∈ sources, row = (data source).slots}
      (sources.foldl (fun buffer source => buffer.htpMerge (data source)) buffer.reset).slots := by
  rw [foldl_htpMerge_slots, reset_slots]
  have merged := (@SlotMaximum.isMaximum_empty UInt8 _).foldl
    (sources.map (fun source => (data source).slots))
  have same : {row | row ∈ sources.map (fun source => (data source).slots) ∨
      row ∈ (∅ : Set (List UInt8))} = {row | ∃ source ∈ sources, row = (data source).slots} := by
    ext row
    simp [eq_comm]
  rwa [same] at merged

end Merging

theorem setBuffer_of_allocated {other : DmxBuffer} (buffer : DmxBuffer)
    (memory : other.allocated = true) : (buffer.setBuffer other).1 = other := by
  unfold setBuffer set data
  rw [if_pos memory]
  exact holding_self memory

theorem overlay_length (inside : offset ≤ slots.length) :
    (overlay slots offset data).length = max slots.length (offset + data.length) := by
  unfold overlay
  simp only [length_append, length_take, length_drop]
  omega

theorem overlay_end (slots data : List UInt8) :
    overlay slots slots.length data = slots ++ data := by
  unfold overlay
  rw [take_length, drop_eq_nil_of_le (Nat.le_add_right _ _), append_nil]

theorem prepared_of_allocated (memory : buffer.allocated = true) :
    buffer.prepared = buffer := if_pos memory

@[simp] theorem prepared_allocated (buffer : DmxBuffer) : buffer.prepared.allocated = true := by
  unfold prepared
  split
  · assumption
  · rfl

theorem setRangeToValue_eq (buffer : DmxBuffer) (offset : Nat) (value : UInt8) (length : Nat) :
    buffer.setRangeToValue offset value length =
      buffer.setRange offset (some (List.replicate length value)) := by
  unfold setRangeToValue setRange
  simp only [take_replicate, Nat.min_comm]

theorem setRange_inside (below : offset < dmxUniverseSize) (inside : offset ≤ buffer.prepared.size) :
    (buffer.setRange offset (some data)).1 =
      holding (overlay buffer.prepared.slots offset (data.take (dmxUniverseSize - offset))) := by
  unfold setRange
  dsimp only
  rw [if_neg (Nat.not_le.mpr below), if_neg (Nat.not_lt.mpr inside)]

theorem setRange_inside_slots (below : offset < dmxUniverseSize)
    (inside : offset ≤ buffer.prepared.size) :
    (buffer.setRange offset (some data)).1.slots =
      overlay buffer.prepared.slots offset (data.take (dmxUniverseSize - offset)) := by
  rw [setRange_inside below inside]
  apply holding_slots
  have bounded := buffer.prepared.bounded
  rw [overlay_length inside, length_take]
  omega

/-- A range that starts behind the slots is not. -/
theorem setRange_outside (memory : buffer.allocated = true)
    (outside : dmxUniverseSize ≤ offset ∨ buffer.size < offset) :
    (buffer.setRange offset (some data)).1 = buffer := by
  unfold setRange
  dsimp only
  rw [prepared_of_allocated memory]
  by_cases above : dmxUniverseSize ≤ offset
  · rw [if_pos above]
  · rw [if_neg above, if_pos (outside.resolve_left above)]

theorem overlay_getElem? (inside : offset ≤ slots.length) (index : Nat) :
    (overlay slots offset data)[index]? =
      if offset ≤ index ∧ index < offset + data.length then data[index - offset]?
      else slots[index]? := by
  unfold overlay
  have front : (slots.take offset).length = offset := by rw [length_take]; omega
  by_cases before : index < offset
  · rw [if_neg (by omega), append_assoc, List.getElem?_append_left (by omega),
      List.getElem?_take_of_lt before]
  · by_cases within : index < offset + data.length
    · rw [if_pos (by omega), append_assoc, List.getElem?_append_right (by omega), front,
        List.getElem?_append_left (by omega)]
    · rw [if_neg (by omega), List.getElem?_append_right (by rw [length_append]; omega),
        List.getElem?_drop, length_append, front]
      congr 1
      omega

theorem get_prepared (buffer : DmxBuffer) (channel : Nat) :
    buffer.prepared.get channel = buffer.get channel := by
  by_cases memory : buffer.allocated = true
  · rw [prepared_of_allocated memory]
  · have dark : buffer.prepared = holding (List.replicate dmxUniverseSize 0) := if_neg memory
    unfold get
    rw [dark, holding_slots (by simp), buffer.blank (Bool.eq_false_iff.mpr memory)]
    simp [getD_eq_getElem?_getD, List.getElem?_replicate]
    split <;> rfl

section
variable (whole : buffer.prepared.size = dmxUniverseSize) (below : offset < dmxUniverseSize)
  (inside : offset + data.length ≤ dmxUniverseSize)
include whole below inside

/-- What a range leaves in a channel of a buffer that is as long as can be. -/
theorem get_setRange (channel : Nat) :
    (buffer.setRange offset (some data)).1.get channel =
      if offset ≤ channel ∧ channel < offset + data.length then data.getD (channel - offset) 0
      else buffer.get channel := by
  have start : offset ≤ buffer.prepared.size := by omega
  rw [← get_prepared buffer channel]
  unfold get
  rw [setRange_inside_slots below start, take_of_length_le (by omega),
    getD_eq_getElem?_getD, overlay_getElem? start, apply_ite (Option.getD · 0),
    ← getD_eq_getElem?_getD, ← getD_eq_getElem?_getD]

theorem size_setRange :
    (buffer.setRange offset (some data)).1.size = dmxUniverseSize := by
  have start : offset ≤ buffer.prepared.size := by omega
  have length : buffer.prepared.slots.length = dmxUniverseSize := whole
  unfold size
  rw [setRange_inside_slots below start, overlay_length start, length_take]
  omega

end

end DmxBuffer

end OpenLighting
