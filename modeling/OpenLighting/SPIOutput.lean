import OpenLighting.BoundedReads
import OpenLighting.DmxBufferBounds
import OpenLighting.DmxBufferMerging
import OpenLighting.ResponderPersonality

/- What an `SPIOutput` makes of DMX data. -/
namespace OpenLighting.Spi

open BoundedReads (minus)
open DmxMemory (Heap Buffer)
open Rdm (Fixture Personality Placement textBytes)

/-- `WS2801_SLOTS_PER_PIXEL` and `LPD8806_SLOTS_PER_PIXEL`. -/
def slotsPerPixel : Nat := 3

structure SPIOutput where
  pixelCount : UInt8
  fixture : Fixture
  identifyMode : Bool

/-- What an output asks its backend for, and the bytes that it writes to what it gets. -/
structure Frame where
  length : Nat
  latchBytes : UInt8
  writes : List (Nat × UInt8)
  deriving DecidableEq

/-- `Get` for one channel. -/
def getChannel (heap : Heap) (buffer : Buffer) (channel : Nat) : UInt8 :=
  match buffer.block with
  | none => 0
  | some block => if channel < buffer.length then heap.memory block channel else 0

def lpd8806Byte (value : UInt8) : UInt8 := (0x80 : UInt8) ||| (value >>> 1)

def writePixels (count : Nat) (bytes : Nat → List UInt8) : List (Nat × UInt8) :=
  (List.range count).flatMap fun pixel =>
    (bytes pixel).mapIdx fun index value => (pixel * slotsPerPixel + index, value)

variable (output : SPIOutput) (pixelCount : UInt8)

namespace SPIOutput

/-- The personalities of an output with so many pixels. -/
def personalities : List Personality :=
  [⟨UInt16.ofNat (pixelCount.toNat * slotsPerPixel), textBytes "WS2801 Individual Control"⟩,
    ⟨UInt16.ofNat slotsPerPixel, textBytes "WS2801 Combined Control"⟩,
    ⟨UInt16.ofNat (pixelCount.toNat * slotsPerPixel), textBytes "LPD8806 Individual Control"⟩,
    ⟨UInt16.ofNat slotsPerPixel, textBytes "LPD8806 Combined Control"⟩]

/-- An output after its personality and start address have been set some times. -/
def after (operations : List Placement) (identifyMode : Bool) : SPIOutput :=
  ⟨pixelCount, TransitionSystem.run Placement.step (.new (personalities pixelCount)) operations,
    identifyMode⟩

def personality : UInt8 := output.fixture.manager.activePersonality

def outputLength : Nat := output.pixelCount.toNat * slotsPerPixel

/-- `latch_bytes`, in 8 bits. -/
def latchBytes : UInt8 := UInt8.ofNat ((output.pixelCount.toNat + 31) / 32)

/-- `m_start_address - 1`, as an `unsigned int`. -/
def firstSlot : Nat := minus output.fixture.startAddress.toNat 1

variable (heap : Heap) (buffer : Buffer)

def individualWS2801Control : Option Frame :=
  some ⟨output.outputLength, 0,
    (buffer.getRange heap output.firstSlot output.outputLength).mapIdx Prod.mk⟩

def combinedWS2801Control : Option Frame :=
  let pixelData := buffer.getRange heap output.firstSlot slotsPerPixel
  if pixelData.length ≠ slotsPerPixel then none
  else some ⟨output.outputLength, 0, writePixels output.pixelCount.toNat fun _ => pixelData⟩

def individualLPD8806Control : Option Frame :=
  if minus buffer.length output.firstSlot < slotsPerPixel then none
  else
    let length := min output.outputLength (minus buffer.length output.firstSlot)
    some ⟨output.outputLength, output.latchBytes, writePixels (length / slotsPerPixel) fun pixel =>
      let offset := output.firstSlot + pixel * slotsPerPixel
      let r := getChannel heap buffer offset
      let g := getChannel heap buffer (offset + 1)
      let b := getChannel heap buffer (offset + 2)
      [lpd8806Byte g, lpd8806Byte r, lpd8806Byte b]⟩

def combinedLPD8806Control : Option Frame :=
  match buffer.getRange heap output.firstSlot slotsPerPixel with
  | [r, g, b] =>
    some ⟨output.outputLength, output.latchBytes,
      writePixels output.pixelCount.toNat fun _ => [g, r, b].map lpd8806Byte⟩
  | _ => none

/-- `WriteDMX`, up to the backend: `none` if it is not asked for anything. Where it gives no
memory, the writes do not take place. -/
def writeDMX : Option Frame :=
  if output.identifyMode then none
  else if output.personality = 1 then output.individualWS2801Control heap buffer
  else if output.personality = 2 then output.combinedWS2801Control heap buffer
  else if output.personality = 3 then output.individualLPD8806Control heap buffer
  else if output.personality = 4 then output.combinedLPD8806Control heap buffer
  else none

variable (personality : UInt8)

/-- Whether a personality has one pixel for all. -/
def combined : Bool := personality == 2 || personality == 4

/-- Whether a personality is for LPD8806s, which take green before red, with 7 bits each. -/
def lpd8806 : Bool := personality == 3 || personality == 4

/-- The slot of a pixel that a byte of it comes from. -/
def place (color : Nat) : Nat :=
  if lpd8806 personality ∧ color < 2 then 1 - color else color

/-- The slot for a byte of the output, counted from the first slot of the output. -/
def sourceSlot (index : Nat) : Nat :=
  (if combined personality then 0 else index / slotsPerPixel * slotsPerPixel) +
    place personality (index % slotsPerPixel)

/-- The byte for the value of a slot. -/
def convert (value : UInt8) : UInt8 :=
  if lpd8806 personality then lpd8806Byte value else value

def present : List UInt8 := buffer.get heap buffer.length

/-- The slots of a pixel are all present. -/
def PixelPresent (pixel : Nat) : Prop :=
  ∀ color < slotsPerPixel,
    output.firstSlot + sourceSlot output.personality (pixel * slotsPerPixel + color) <
      (present heap buffer).length

/-- Some byte of a pixel is written. -/
def Touched (frame : Option Frame) (pixel : Nat) : Prop :=
  ∃ written, frame = some written ∧ ∃ write ∈ written.writes, write.1 / slotsPerPixel = pixel

/-- All bytes of a pixel are written. -/
def Rewritten (frame : Option Frame) (pixel : Nat) : Prop :=
  ∃ written, frame = some written ∧ ∀ color < slotsPerPixel,
    ∃ write ∈ written.writes, write.1 = pixel * slotsPerPixel + color

/-- The pixels of an output come from the buffer. -/
structure Converts (output : SPIOutput) (heap : Heap) (buffer : Buffer) : Prop where
  inside : ∀ frame, output.writeDMX heap buffer = some frame →
    frame.length = output.outputLength ∧ ∀ write ∈ frame.writes, write.1 < frame.length
  converted : ∀ frame, output.writeDMX heap buffer = some frame → ∀ write ∈ frame.writes,
    ∃ value, (present heap buffer)[output.firstSlot + sourceSlot output.personality write.1]? =
      some value ∧ write.2 = convert output.personality value
  rewritten : output.identifyMode = false → output.personality ≠ 1 →
    ∀ pixel < output.pixelCount.toNat,
      (Rewritten (output.writeDMX heap buffer) pixel ↔ output.PixelPresent heap buffer pixel) ∧
        (Touched (output.writeDMX heap buffer) pixel → output.PixelPresent heap buffer pixel)

/-- The frame does not end before the start address, or nothing is written. -/
def Reaches : Prop :=
  output.firstSlot ≤ buffer.length ∨ output.identifyMode = true ∨ output.pixelCount = 0 ∨
    (buffer.block = none ∧ output.personality ≠ 3)

section Slots
variable {heap : Heap} {buffer : Buffer}

theorem length_present (blank : buffer.block = none → buffer.length = 0) :
    (present heap buffer).length = buffer.length := by
  unfold present Buffer.get
  cases points : buffer.block with
  | none => exact (blank points).symm
  | some block => simp

theorem getChannel_present (channel : Nat) :
    getChannel heap buffer channel = (present heap buffer).getD channel 0 := by
  unfold getChannel present Buffer.get
  cases points : buffer.block with
  | none => rfl
  | some block =>
    simp only [Nat.min_self, List.getD_eq_getElem?_getD, DmxMemory.Heap.bytes_getElem?,
      Nat.zero_add]
    split <;> rfl

/-- Where the difference does not wrap, the slots are those of the buffer. -/
theorem getRange_present {first : Nat} (short : buffer.length ≤ dmxUniverseSize)
    (reached : first ≤ buffer.length ∨ buffer.block = none) (count : Nat) :
    buffer.getRange heap first count = ((present heap buffer).drop first).take count := by
  have small : buffer.length ≤ 512 := short
  unfold present Buffer.getRange Buffer.get
  cases points : buffer.block with
  | none => simp
  | some block =>
    have starts : first ≤ buffer.length := by simpa [points] using reached
    have left : (buffer.length + 2 ^ 32 - first) % 2 ^ 32 = buffer.length - first := by omega
    have inside : first + min count (buffer.length - first) ≤ buffer.length := by omega
    dsimp only
    rw [left, Nat.min_self, DmxMemory.Heap.bytes_slice inside]
    apply List.ext_getElem?
    intro index
    simp only [List.getElem?_take, List.getElem?_drop, DmxMemory.Heap.bytes_getElem?]
    split_ifs <;> first | rfl | omega

end Slots

variable {bytes : Nat → List UInt8}

theorem mem_writePixels {count : Nat} {write : Nat × UInt8}
    (three : ∀ pixel, (bytes pixel).length = slotsPerPixel) :
    write ∈ writePixels count bytes ↔ write.1 / slotsPerPixel < count ∧
      (bytes (write.1 / slotsPerPixel))[write.1 % slotsPerPixel]? = some write.2 := by
  obtain ⟨offset, byte⟩ := write
  unfold writePixels slotsPerPixel
  simp only [List.mem_flatMap, List.mem_range, List.mem_mapIdx, Prod.mk.injEq]
  constructor
  · rintro ⟨pixel, below, index, inside, rfl, rfl⟩
    have color : index < 3 := by
      rw [three] at inside
      exact inside
    have own : (pixel * 3 + index) / 3 = pixel := by omega
    have rest : (pixel * 3 + index) % 3 = index := by omega
    rw [own, rest]
    exact ⟨below, List.getElem?_eq_getElem inside⟩
  · rintro ⟨below, found⟩
    obtain ⟨inside, same⟩ := List.getElem?_eq_some_iff.mp found
    exact ⟨offset / 3, below, offset % 3, inside, by omega, same⟩

theorem writePixels_covers {count pixel color : Nat}
    (three : ∀ pixel, (bytes pixel).length = slotsPerPixel) (below : pixel < count)
    (small : color < slotsPerPixel) :
    ∃ write ∈ writePixels count bytes, write.1 = pixel * slotsPerPixel + color := by
  have inside : color < (bytes pixel).length := by
    rw [three]
    exact small
  refine ⟨(pixel * slotsPerPixel + color, (bytes pixel)[color]), ?_, rfl⟩
  apply (mem_writePixels three).mpr
  unfold slotsPerPixel at *
  have own : (pixel * 3 + color) / 3 = pixel := by omega
  have rest : (pixel * 3 + color) % 3 = color := by omega
  rw [own, rest]
  exact ⟨below, List.getElem?_eq_getElem inside⟩

theorem writePixels_ne_nil {count : Nat} (three : ∀ pixel, (bytes pixel).length = slotsPerPixel)
    (any : 0 < count) : writePixels count bytes ≠ [] := by
  obtain ⟨write, member, _⟩ := @writePixels_covers bytes count 0 0 three any (by decide)
  exact List.ne_nil_of_mem member

theorem sourceSlot_pixel (pixel : Nat) {color : Nat} (small : color < slotsPerPixel) :
    sourceSlot personality (pixel * slotsPerPixel + color) =
      (if combined personality then 0 else pixel * slotsPerPixel) + place personality color := by
  unfold slotsPerPixel at small
  have own : (pixel * 3 + color) / 3 = pixel := by omega
  have rest : (pixel * 3 + color) % 3 = color := by omega
  unfold sourceSlot slotsPerPixel
  rw [own, rest]

theorem place_swapped {personality : UInt8} (swaps : lpd8806 personality = true) :
    place personality 0 = 1 ∧ place personality 1 = 0 ∧ place personality 2 = 2 := by
  simp [place, swaps]

theorem place_plain {personality : UInt8} (plain : lpd8806 personality = false) (color : Nat) :
    place personality color = color := by
  simp [place, plain]

theorem place_lt {color : Nat} (small : color < slotsPerPixel) :
    place personality color < slotsPerPixel := by
  unfold place slotsPerPixel at *
  split <;> omega

section Modes
variable {output : SPIOutput} {heap : Heap} {buffer : Buffer} {pixel : Nat}

theorem pixelPresent_iff : output.PixelPresent heap buffer pixel ↔
    output.firstSlot + (if combined output.personality then 0 else pixel * slotsPerPixel) +
      slotsPerPixel ≤ (present heap buffer).length := by
  constructor
  · intro all
    have last := all 2 (by decide)
    have blue : place output.personality 2 = 2 := by simp [place]
    rw [sourceSlot_pixel output.personality pixel (by decide), blue] at last
    unfold slotsPerPixel at last ⊢
    omega
  · intro enough color small
    have near := place_lt output.personality small
    rw [sourceSlot_pixel output.personality pixel small]
    omega

/-- The first pixels, of which all slots are present, are written from these. -/
theorem converts_of_pixels {shown : Nat} {latch : UInt8}
    (frame : output.writeDMX heap buffer =
      some ⟨output.outputLength, latch, writePixels shown bytes⟩)
    (three : ∀ pixel, (bytes pixel).length = slotsPerPixel) (fits : shown ≤ output.pixelCount.toNat)
    (shownPixels : ∀ pixel < output.pixelCount.toNat,
      output.PixelPresent heap buffer pixel ↔ pixel < shown)
    (content : ∀ pixel < shown, ∀ color < slotsPerPixel, (bytes pixel)[color]? =
      some (convert output.personality ((present heap buffer).getD (output.firstSlot +
      sourceSlot output.personality (pixel * slotsPerPixel + color)) 0))) :
    output.Converts heap buffer := by
  have parts (offset : Nat) :
      offset / slotsPerPixel * slotsPerPixel + offset % slotsPerPixel = offset :=
    Nat.div_add_mod' offset slotsPerPixel
  have color (offset : Nat) : offset % slotsPerPixel < slotsPerPixel :=
    Nat.mod_lt offset (by decide)
  have there {pixel : Nat} (below : pixel < shown) : output.PixelPresent heap buffer pixel :=
    (shownPixels pixel (Nat.lt_of_lt_of_le below fits)).mpr below
  constructor
  · intro other same
    cases frame.symm.trans same
    refine ⟨rfl, fun write member => ?_⟩
    have below := ((mem_writePixels three).mp member).1
    unfold outputLength slotsPerPixel at *
    dsimp only
    omega
  · intro other same write member
    cases frame.symm.trans same
    obtain ⟨below, byte⟩ := (mem_writePixels three).mp member
    have inside := there below _ (color write.1)
    have written := byte.symm.trans (content _ below _ (color write.1))
    rw [parts] at inside written
    have found := List.getElem?_eq_getElem inside
    rw [List.getD_eq_getElem?_getD, found, Option.getD_some] at written
    exact ⟨_, found, Option.some.inj written⟩
  · intro _ _ pixel inside
    have touched : Touched (output.writeDMX heap buffer) pixel →
        output.PixelPresent heap buffer pixel := by
      rintro ⟨other, same, write, member, rfl⟩
      cases frame.symm.trans same
      exact there ((mem_writePixels three).mp member).1
    refine ⟨⟨?_, ?_⟩, touched⟩
    · rintro ⟨other, same, every⟩
      obtain ⟨write, member, at_⟩ := every 0 (by decide)
      exact touched ⟨other, same, write, member, by rw [at_]; unfold slotsPerPixel; omega⟩
    · intro complete
      have below := (shownPixels pixel inside).mp complete
      exact ⟨_, frame, fun color small => writePixels_covers three below small⟩

/-- No pixel has all its slots, and nothing is written. -/
theorem converts_of_none (frame : output.writeDMX heap buffer = none)
    (absent : output.identifyMode = false → output.personality ≠ 1 →
      ∀ pixel < output.pixelCount.toNat, ¬ output.PixelPresent heap buffer pixel) :
    output.Converts heap buffer := by
  have silent {written : Frame} (same : output.writeDMX heap buffer = some written) : False := by
    rw [frame] at same
    cases same
  constructor
  · exact fun written same => (silent same).elim
  · exact fun written same => (silent same).elim
  · intro running several pixel inside
    have missing := absent running several pixel inside
    refine ⟨iff_of_false ?_ missing, ?_⟩
    · exact fun rewritten => silent rewritten.choose_spec.1
    · exact fun touched => (silent touched.choose_spec.1).elim

/-- What comes from behind the last slot is no slot of the buffer. -/
theorem not_converts_of_write {frame : Frame}
    (shown : output.writeDMX heap buffer = some frame) (any : frame.writes ≠ [])
    (behind : (present heap buffer).length ≤ output.firstSlot) :
    ¬ output.Converts heap buffer := by
  intro converts
  obtain ⟨write, member⟩ := List.exists_mem_of_ne_nil frame.writes any
  obtain ⟨value, found, _⟩ := converts.converted frame shown write member
  have inside := (List.getElem?_eq_some_iff.mp found).1
  omega

end Modes

section Personalities
variable {output : SPIOutput} {heap : Heap} {buffer : Buffer}

theorem take_pixel {slots : List UInt8} {first : Nat}
    (enough : first + slotsPerPixel ≤ slots.length) :
    (slots.drop first).take slotsPerPixel =
      [slots.getD first 0, slots.getD (first + 1) 0, slots.getD (first + 2) 0] := by
  unfold slotsPerPixel at *
  have found (color : Nat) (small : color < 3) :
      slots[first + color]? = some (slots.getD (first + color) 0) := by
    rw [List.getD_eq_getElem?_getD, List.getElem?_eq_getElem (by omega), Option.getD_some]
  apply List.ext_getElem?
  intro index
  rw [List.getElem?_take, List.getElem?_drop]
  match index with
  | 0 => exact found 0 (by decide)
  | 1 => exact found 1 (by decide)
  | 2 => exact found 2 (by decide)
  | index + 3 => simp

theorem converts_individualWS2801 (running : output.identifyMode = false)
    (active : output.personality = 1) (short : buffer.length ≤ dmxUniverseSize)
    (reached : output.firstSlot ≤ buffer.length ∨ buffer.block = none) :
    output.Converts heap buffer := by
  have frame : output.writeDMX heap buffer = some ⟨output.outputLength, 0,
      (((present heap buffer).drop output.firstSlot).take output.outputLength).mapIdx Prod.mk⟩ := by
    rw [← getRange_present short reached]
    simp [writeDMX, running, active, individualWS2801Control]
  have mem {write : Nat × UInt8} (member : write ∈ List.mapIdx Prod.mk
      (((present heap buffer).drop output.firstSlot).take output.outputLength)) :
      write.1 < output.outputLength ∧
        (present heap buffer)[output.firstSlot + write.1]? = some write.2 := by
    obtain ⟨index, inside, rfl⟩ := List.mem_mapIdx.mp member
    have found := List.getElem?_eq_getElem inside
    rw [List.length_take] at inside
    rw [List.getElem?_take_of_lt (by omega), List.getElem?_drop] at found
    exact ⟨by omega, found⟩
  have slot (index : Nat) : sourceSlot output.personality index = index := by
    have alone : combined 1 = false := rfl
    have plain : lpd8806 1 = false := rfl
    simp [sourceSlot, place, active, alone, plain, Nat.div_add_mod']
  constructor
  · intro other same
    cases frame.symm.trans same
    exact ⟨rfl, fun write member => (mem member).1⟩
  · intro other same write member
    cases frame.symm.trans same
    rw [slot, active]
    exact ⟨write.2, (mem member).2, rfl⟩
  · exact fun _ several => absurd active several

theorem converts_combined (combinedMode : combined output.personality = true)
    {latch : UInt8} {bytes : List UInt8} 
    (full : output.firstSlot + slotsPerPixel ≤ (present heap buffer).length →
      output.writeDMX heap buffer = some ⟨output.outputLength, latch,
        writePixels output.pixelCount.toNat fun _ => bytes⟩)
    (three : bytes.length = slotsPerPixel)
    (content : ∀ color < slotsPerPixel, bytes[color]? =
      some (convert output.personality ((present heap buffer).getD
        (output.firstSlot + place output.personality color) 0)))
    (little : ¬ output.firstSlot + slotsPerPixel ≤ (present heap buffer).length →
      output.writeDMX heap buffer = none) : output.Converts heap buffer := by
  have there (pixel : Nat) : output.PixelPresent heap buffer pixel ↔
      output.firstSlot + slotsPerPixel ≤ (present heap buffer).length := by
    rw [pixelPresent_iff, combinedMode, if_pos rfl, Nat.add_zero]
  by_cases enough : output.firstSlot + slotsPerPixel ≤ (present heap buffer).length
  · apply converts_of_pixels (full enough) (fun _ => three) (Nat.le_refl _)
    · intro pixel below
      rw [there]
      exact iff_of_true enough below
    · intro pixel below color small
      rw [sourceSlot_pixel output.personality pixel small, combinedMode, if_pos rfl, Nat.zero_add]
      exact content color small
  · apply converts_of_none (little enough)
    intro _ _ pixel _
    rw [there]
    exact enough

section

variable (running : output.identifyMode = false)
include running

theorem converts_combinedWS2801 (active : output.personality = 2)
    (short : buffer.length ≤ dmxUniverseSize)
    (reached : output.firstSlot ≤ buffer.length ∨ buffer.block = none) :
    output.Converts heap buffer := by
  have range := @getRange_present heap buffer output.firstSlot short reached slotsPerPixel
  have frame : output.writeDMX heap buffer = output.combinedWS2801Control heap buffer := by
    simp [writeDMX, running, active]
  have both : combined output.personality = true := by rw [active]; rfl
  have plain (value : UInt8) : convert output.personality value = value := by rw [active]; rfl
  apply @converts_combined output heap buffer both 0
    [(present heap buffer).getD output.firstSlot 0,
      (present heap buffer).getD (output.firstSlot + 1) 0,
      (present heap buffer).getD (output.firstSlot + 2) 0]
  · intro enough
    rw [frame, combinedWS2801Control, range, take_pixel enough]
    rfl
  · rfl
  · intro color small
    rw [plain, place_plain (by rw [active]; rfl)]
    match color with
    | 0 =>
      rw [Nat.add_zero output.firstSlot]
      rfl
    | 1 | 2 => rfl
  · intro little
    rw [frame, combinedWS2801Control, range]
    have less : (((present heap buffer).drop output.firstSlot).take slotsPerPixel).length ≠ 3 := by
      rw [List.length_take, List.length_drop]
      unfold slotsPerPixel at *
      omega
    exact if_pos less

theorem converts_combinedLPD8806 (active : output.personality = 4)
    (short : buffer.length ≤ dmxUniverseSize)
    (reached : output.firstSlot ≤ buffer.length ∨ buffer.block = none) :
    output.Converts heap buffer := by
  have range := @getRange_present heap buffer output.firstSlot short reached slotsPerPixel
  have frame : output.writeDMX heap buffer = output.combinedLPD8806Control heap buffer := by
    simp [writeDMX, running, active]
  have both : combined output.personality = true := by rw [active]; rfl
  have seven (value : UInt8) : convert output.personality value = lpd8806Byte value := by
    rw [active]; rfl
  have swapped := @place_swapped output.personality (by rw [active]; rfl)
  apply @converts_combined output heap buffer both output.latchBytes
    ([(present heap buffer).getD (output.firstSlot + 1) 0,
      (present heap buffer).getD output.firstSlot 0,
      (present heap buffer).getD (output.firstSlot + 2) 0].map lpd8806Byte)
  · intro enough
    rw [frame, combinedLPD8806Control, range, take_pixel enough]
  · rfl
  · intro color small
    rw [seven]
    match color with
    | 0 =>
      rw [swapped.1]
      rfl
    | 1 =>
      rw [swapped.2.1, Nat.add_zero output.firstSlot]
      rfl
    | 2 =>
      rw [swapped.2.2]
      rfl
  · intro little
    rw [frame, combinedLPD8806Control, range]
    have less : (((present heap buffer).drop output.firstSlot).take slotsPerPixel).length ≠ 3 := by
      rw [List.length_take, List.length_drop]
      unfold slotsPerPixel at *
      omega
    split
    · rename_i shape
      rw [shape] at less
      exact absurd rfl less
    · rfl

theorem converts_individualLPD8806 (active : output.personality = 3)
    (short : buffer.length ≤ dmxUniverseSize) (blank : buffer.block = none → buffer.length = 0)
    (reached : output.firstSlot ≤ buffer.length) : output.Converts heap buffer := by
  have size := @length_present heap buffer blank
  have small : buffer.length ≤ 512 := short
  have left : minus buffer.length output.firstSlot = buffer.length - output.firstSlot :=
    BoundedReads.minus_eq reached (by omega)
  have frame : output.writeDMX heap buffer = output.individualLPD8806Control heap buffer := by
    simp [writeDMX, running, active]
  have alone : combined output.personality = false := by rw [active]; rfl
  have seven (value : UInt8) : convert output.personality value = lpd8806Byte value := by
    rw [active]; rfl
  have swapped := @place_swapped output.personality (by rw [active]; rfl)
  have there (pixel : Nat) : output.PixelPresent heap buffer pixel ↔
      output.firstSlot + pixel * slotsPerPixel + slotsPerPixel ≤ buffer.length := by
    rw [pixelPresent_iff, alone, size, if_neg Bool.false_ne_true]
  by_cases little : minus buffer.length output.firstSlot < slotsPerPixel
  · apply converts_of_none
    · rw [frame]
      exact if_pos little
    · intro _ _ pixel _
      rw [there]
      omega
  · have control := frame
    rw [individualLPD8806Control, if_neg little] at control
    apply converts_of_pixels control
    · exact fun _ => rfl
    · unfold outputLength slotsPerPixel
      omega
    · intro pixel below
      rw [there, left]
      unfold outputLength slotsPerPixel
      omega
    · intro pixel _ color near
      rw [sourceSlot_pixel output.personality pixel near, alone, seven, if_neg Bool.false_ne_true,
        ← Nat.add_assoc]
      simp only [getChannel_present]
      match color with
      | 0 =>
        rw [swapped.1]
        rfl
      | 1 =>
        rw [swapped.2.1, Nat.add_zero (output.firstSlot + pixel * slotsPerPixel)]
        rfl
      | 2 =>
        rw [swapped.2.2]
        rfl

/-- A frame that ends before the first slot: the difference wraps, and slots are taken from behind
the last one. -/
theorem not_converts_of_behind
    (known : output.personality = 1 ∨ output.personality = 2 ∨ output.personality = 3 ∨
      output.personality = 4) (any : output.pixelCount ≠ 0)
    (near : output.firstSlot < 65535) (behind : buffer.length < output.firstSlot)
    (filled : buffer.block ≠ none ∨ output.personality = 3) : ¬ output.Converts heap buffer := by
  have some : output.pixelCount.toNat ≠ 0 := fun zero => any (UInt8.toNat_inj.mp zero)
  have few := output.pixelCount.toNat_lt
  have past : (present heap buffer).length ≤ output.firstSlot :=
    Nat.le_trans (DmxMemory.length_get buffer.length) (Nat.le_of_lt behind)
  have range {count : Nat} (below : count ≤ 1000) (own : buffer.block ≠ none) :
      (buffer.getRange heap output.firstSlot count).length = count := by
    obtain ⟨block, points⟩ := Option.ne_none_iff_exists'.mp own
    rw [DmxMemory.length_getRange points]
    omega
  rcases known with active | active | active | active
  · have own : buffer.block ≠ none := filled.resolve_right (by rw [active]; decide)
    have frame : output.writeDMX heap buffer = output.individualWS2801Control heap buffer := by
      simp [writeDMX, running, active]
    apply not_converts_of_write frame _ past
    intro empty
    have none := congrArg List.length empty
    rw [List.length_mapIdx, range (by unfold outputLength slotsPerPixel; omega) own] at none
    unfold outputLength slotsPerPixel at none
    simp only [List.length_nil] at none
    omega
  · have own : buffer.block ≠ none := filled.resolve_right (by rw [active]; decide)
    have three := @range slotsPerPixel (by decide) own
    have frame : output.writeDMX heap buffer = output.combinedWS2801Control heap buffer := by
      simp [writeDMX, running, active]
    rw [combinedWS2801Control, if_neg (not_not.mpr three)] at frame
    apply not_converts_of_write frame _ past
    exact writePixels_ne_nil (fun _ => three) (Nat.pos_of_ne_zero some)
  · have wrapped : minus buffer.length output.firstSlot =
        buffer.length + 2 ^ 32 - output.firstSlot := by
      unfold minus
      omega
    have frame : output.writeDMX heap buffer = output.individualLPD8806Control heap buffer := by
      simp [writeDMX, running, active]
    rw [individualLPD8806Control, wrapped, if_neg (by unfold slotsPerPixel; omega)] at frame
    apply not_converts_of_write frame _ past
    apply writePixels_ne_nil (fun _ => rfl)
    unfold outputLength slotsPerPixel
    omega
  · have own : buffer.block ≠ none := filled.resolve_right (by rw [active]; decide)
    have three := @range slotsPerPixel (by decide) own
    have frame : output.writeDMX heap buffer = output.combinedLPD8806Control heap buffer := by
      simp [writeDMX, running, active]
    obtain ⟨r, g, b, shape⟩ := List.length_eq_three.mp three
    rw [combinedLPD8806Control, shape] at frame
    apply not_converts_of_write frame _ past
    exact writePixels_ne_nil (fun _ => rfl) (Nat.pos_of_ne_zero some)

end

/-- Without pixels nothing is written. -/
theorem converts_of_no_pixels (none : output.pixelCount = 0) : output.Converts heap buffer := by
  have zero : output.pixelCount.toNat = 0 := by rw [none]; rfl
  have blank {frame : Frame} (shown : output.writeDMX heap buffer = some frame) :
      frame.length = output.outputLength ∧ frame.writes = [] := by
    have length : output.outputLength = 0 := by rw [outputLength, zero, Nat.zero_mul]
    unfold writeDMX at shown
    split_ifs at shown
    · cases shown
      refine ⟨rfl, ?_⟩
      rw [length]
      unfold Buffer.getRange
      cases buffer.block with
      | none => rfl
      | some block => simp [Heap.bytes]
    · unfold combinedWS2801Control at shown
      dsimp only at shown
      split_ifs at shown
      cases shown
      exact ⟨rfl, by rw [zero]; rfl⟩
    · unfold individualLPD8806Control at shown
      split_ifs at shown
      cases shown
      refine ⟨rfl, ?_⟩
      rw [length, Nat.zero_min]
      rfl
    · unfold combinedLPD8806Control at shown
      split at shown
      · cases shown
        exact ⟨rfl, by rw [zero]; rfl⟩
      · cases shown
  constructor
  · intro frame shown
    refine ⟨(blank shown).1, ?_⟩
    rw [(blank shown).2]
    exact fun write member => absurd member List.not_mem_nil
  · intro frame shown
    rw [(blank shown).2]
    exact fun write member => absurd member List.not_mem_nil
  · intro _ _ pixel inside
    omega

end Personalities

theorem standing_after (operations : List Placement) (identifyMode : Bool) :
    (after pixelCount operations identifyMode).fixture.Standing (personalities pixelCount) :=
  Rdm.standing_run (List.cons_ne_nil _ _) operations

/-- An output makes its pixels from what is in the buffer exactly if the slots reach up to its start
address, or there is nothing to write. -/
theorem converts_iff {world : DmxMemory.World} {name : Nat} {buffer : Buffer}
    (reached : DmxMemory.Reached world) (found : world.find name = some buffer)
    (pixelCount : UInt8) (operations : List Placement) (identifyMode : Bool) :
    (after pixelCount operations identifyMode).Converts world.heap buffer ↔
      (after pixelCount operations identifyMode).Reaches buffer := by
  have sound := (reached.valid.focus found).own
  have standing := standing_after pixelCount operations identifyMode
  generalize after pixelCount operations identifyMode = output at standing ⊢
  have known : output.personality = 1 ∨ output.personality = 2 ∨ output.personality = 3 ∨
      output.personality = 4 := by
    have active := standing.active
    have count : (personalities pixelCount).length = 4 := rfl
    have number (value : UInt8) : output.personality = value ↔
        output.fixture.manager.activePersonality.toNat = value.toNat := UInt8.toNat_inj.symm
    rw [number, number, number, number]
    change _ = 1 ∨ _ = 2 ∨ _ = 3 ∨ _ = 4
    omega
  have near : output.firstSlot < 65535 := by
    have started := standing.started
    have small := output.fixture.startAddress.toNat_lt
    unfold firstSlot
    rw [BoundedReads.minus_eq started (by omega)]
    omega
  unfold Reaches
  cases identify : output.identifyMode with
  | true =>
    apply iff_of_true _ (Or.inr (Or.inl rfl))
    apply converts_of_none (by simp [writeDMX, identify])
    intro running
    exact absurd (identify.symm.trans running) (by decide)
  | false =>
    by_cases none : output.pixelCount = 0
    · exact iff_of_true (converts_of_no_pixels none) (.inr (.inr (.inl none)))
    · simp only [none, Bool.false_eq_true, false_or]
      constructor
      · intro converts
        by_contra missed
        rw [not_or, not_and_or, not_not] at missed
        exact not_converts_of_behind identify known none near
          (Nat.lt_of_not_le missed.1) missed.2 converts
      · intro reaches
        have starts := reaches.imp_right And.left
        rcases known with active | active | active | active
        · exact converts_individualWS2801 identify active sound.bounded starts
        · exact converts_combinedWS2801 identify active sound.bounded starts
        · have reached := reaches.resolve_right (fun other => other.2 active)
          exact converts_individualLPD8806 identify active sound.bounded sound.blank reached
        · exact converts_combinedLPD8806 identify active sound.bounded starts

theorem reached_threeSlots : DmxMemory.Reached DmxMemory.threeSlots :=
  ⟨_, _, by simp [TransitionSystem.Permitted, DmxMemory.Reads], rfl⟩

theorem converts_threeSlots :
    (after 1 [.setStartAddress 2] false).Converts DmxMemory.threeSlots.heap ⟨some 0, false, 3⟩ :=
  (@converts_iff DmxMemory.threeSlots 0 ⟨some 0, false, 3⟩ reached_threeSlots rfl 1
    [.setStartAddress 2] false).mpr (.inl (by decide))

/-- One pixel at address 10 and three slots: three bytes behind the last slot are written. -/
theorem not_forall_converts : ¬ ∀ (world : DmxMemory.World) (name : Nat) (buffer : Buffer),
    DmxMemory.Reached world → world.find name = some buffer →
      ∀ (pixelCount : UInt8) (operations : List Placement) (identifyMode : Bool),
        (after pixelCount operations identifyMode).Converts world.heap buffer := by
  intro all
  have converts := all DmxMemory.threeSlots 0 ⟨some 0, false, 3⟩ reached_threeSlots rfl 1
    [.setStartAddress 10] false
  have behind : ¬ (after 1 [.setStartAddress 10] false).Converts DmxMemory.threeSlots.heap
      ⟨some 0, false, 3⟩ := by
    apply not_converts_of_behind <;> decide
  exact behind converts

end SPIOutput

end OpenLighting.Spi
