import Mathlib.Data.Nat.Count
import OpenLighting.EnttecPort

/- The change of state messages of an Enttec widget. -/
namespace OpenLighting.Enttec

open TransitionSystem

/-- `sizeof` a `widget_data_changed`: `start`, `changed[5]` and `data[40]`. -/
def dataChangedSize : Nat := 46

/-- `start * 8`. -/
def startChannel (message : List UInt8) : Nat := (message.getD 0 0).toNat * 8

def changed (message : List UInt8) (bit : Nat) : Bool :=
  message.getD (1 + bit / 8) 0 &&& (1 <<< UInt8.ofNat (bit % 8)) ≠ 0

/-- `data[offset]`. -/
def changedData (message : List UInt8) (offset : Nat) : UInt8 := message.getD (6 + offset) 0

/-- The loop of `HandleDMXDiff`, with the rounds that are left, from bit `i` on. -/
def diffLoop (message : List UInt8) : Nat → Nat → Nat → DmxBuffer → DmxBuffer
  | 0, _, _, buffer => buffer
  | rounds + 1, i, offset, buffer =>
    if dmxUniverseSize + 1 < startChannel message + i ∨ message.length ≤ offset + 6 then buffer
    else if changed message i = true ∧ startChannel message + i ≠ 0 then
      diffLoop message rounds (i + 1) (offset + 1)
        (buffer.setChannel (startChannel message + i - 1) (changedData message offset))
    else diffLoop message rounds (i + 1) offset buffer

/-- The start code is among the changes, and is not 0. -/
def OtherStartCode (message : List UInt8) : Prop :=
  startChannel message = 0 ∧ changed message 0 = true ∧ changedData message 0 ≠ 0

instance (message : List UInt8) : Decidable (OtherStartCode message) :=
  inferInstanceAs (Decidable (_ ∧ _))

def EnttecPort.handleDMXDiff (port : EnttecPort) (message : List UInt8) : EnttecPort :=
  if message.length < dataChangedSize then port
  else if OtherStartCode message then port
  else { port with inputBuffer := diffLoop message 40 0 0 port.inputBuffer }

/-- The channels that a buffer shows once it has memory. -/
def channels (buffer : DmxBuffer) : List UInt8 := buffer.prepared.slots

theorem channels_setChannel {buffer : DmxBuffer} {channel : Nat} (data : UInt8)
    (inside : channel < (channels buffer).length) :
    channels (buffer.setChannel channel data) = (channels buffer).set channel data := by
  have bounded := buffer.prepared.bounded
  have low : ¬ dmxUniverseSize ≤ channel := by
    rw [channels] at inside
    omega
  have room : ¬ buffer.prepared.size < channel := by
    rw [DmxBuffer.size]
    rw [channels] at inside
    omega
  have replaced : DmxBuffer.overlay buffer.prepared.slots channel [data] =
      buffer.prepared.slots.set channel data := by
    have within : channel < buffer.prepared.slots.length := inside
    rw [DmxBuffer.overlay, List.set_eq_take_append_cons_drop, if_pos within, List.append_assoc]
    rfl
  have small : (buffer.prepared.slots.set channel data).length ≤ dmxUniverseSize := by
    rw [List.length_set]
    omega
  rw [DmxBuffer.setChannel, if_neg low]
  dsimp only
  rw [if_neg room, replaced, channels, DmxBuffer.prepared, if_pos (DmxBuffer.holding_allocated _),
    DmxBuffer.holding_slots small]
  rfl

theorem setChannel_slot {buffer : DmxBuffer} {slot : Nat} (some : 1 ≤ slot)
    (long : slot ≤ dmxUniverseSize → slot ≤ (channels buffer).length) (data : UInt8) :
    (channels (buffer.setChannel (slot - 1) data)).length = (channels buffer).length ∧
      ∀ channel < dmxUniverseSize, (channels (buffer.setChannel (slot - 1) data))[channel]? =
        if channel + 1 = slot then .some data else (channels buffer)[channel]? := by
  by_cases outside : dmxUniverseSize ≤ slot - 1
  · rw [DmxBuffer.setChannel, if_pos outside]
    refine ⟨rfl, fun channel low => ?_⟩
    rw [if_neg (by omega)]
  · have inside : slot - 1 < (channels buffer).length := by
      omega
    rw [channels_setChannel data inside]
    refine ⟨List.length_set, fun channel _ => ?_⟩
    by_cases here : channel + 1 = slot
    · rw [if_pos here, show slot - 1 = channel by omega, List.getElem?_set_self (by omega)]
    · rw [if_neg here, List.getElem?_set_ne (by omega)]

section Message
variable {message : List UInt8}

/-- The loop sets the channel of a bit. -/
def Written (message : List UInt8) (bit : Nat) : Prop :=
  changed message bit = true ∧ startChannel message + bit ≠ 0

instance (message : List UInt8) : DecidablePred (Written message) := fun _ =>
  inferInstanceAs (Decidable (_ ∧ _))

/-- Every channel that is set is in use already. -/
def LongEnough (message : List UInt8) (buffer : DmxBuffer) : Prop :=
  ∀ bit < 40, changed message bit = true → startChannel message + bit ≤ dmxUniverseSize →
    startChannel message + bit ≤ (channels buffer).length

/-- The loop, from a bit on: the channel of each bit that is set gets the data byte that is next,
and the others stay. -/
theorem diffLoop_channels (full : dataChangedSize ≤ message.length) (rounds bit : Nat)
    (buffer : DmxBuffer) (all : bit + rounds = 40) (long : LongEnough message buffer)
    (channel : Nat) (low : channel < dmxUniverseSize) :
    (channels (diffLoop message rounds bit (Nat.count (Written message) bit) buffer))[channel]? =
      if startChannel message + bit ≤ channel + 1 ∧ channel + 1 < startChannel message + 40 ∧
          Written message (channel + 1 - startChannel message) then
        some (changedData message
          (Nat.count (Written message) (channel + 1 - startChannel message)))
      else (channels buffer)[channel]? := by
  induction rounds generalizing bit buffer with
  | zero =>
    rw [diffLoop, if_neg (by omega)]
  | succ rounds ih =>
    have few : Nat.count (Written message) bit ≤ bit := Nat.count_le _
    rw [diffLoop]
    by_cases high : dmxUniverseSize + 1 < startChannel message + bit
    · rw [if_pos (.inl high), if_neg (by omega)]
    · rw [dataChangedSize] at full
      rw [if_neg (by omega)]
      have counted := Nat.count_succ (Written message) bit
      by_cases written : Written message bit
      · have slot := setChannel_slot (Nat.one_le_iff_ne_zero.mpr written.2)
          (long bit (by omega) written.1) (changedData message (Nat.count (Written message) bit))
        have still : LongEnough message (buffer.setChannel (startChannel message + bit - 1)
            (changedData message (Nat.count (Written message) bit))) := by
          intro other few marked within
          rw [slot.1]
          exact long other few marked within
        have next := ih (bit + 1) _ (by omega) still
        rw [counted, if_pos written, slot.2 channel low] at next
        rw [if_pos (show changed message bit = true ∧ startChannel message + bit ≠ 0 from written),
          next]
        by_cases here : channel + 1 = startChannel message + bit
        · have past : ¬ startChannel message + (bit + 1) ≤ channel + 1 := by omega
          have offset : channel + 1 - startChannel message = bit := by omega
          rw [if_neg (fun all => past all.1), if_pos here, offset,
            if_pos ⟨by omega, by omega, written⟩]
        · have shift : startChannel message + (bit + 1) ≤ channel + 1 ↔
              startChannel message + bit ≤ channel + 1 := by omega
          simp only [here, if_false, shift]
      · have next := ih (bit + 1) buffer (by omega) long
        rw [counted, if_neg written] at next
        rw [if_neg (show ¬ (changed message bit = true ∧ startChannel message + bit ≠ 0) from
          written)]
        refine next.trans ?_
        by_cases here : channel + 1 = startChannel message + bit
        · have past : ¬ startChannel message + (bit + 1) ≤ channel + 1 := by omega
          have offset : channel + 1 - startChannel message = bit := by omega
          rw [if_neg (fun all => past all.1), offset, if_neg (fun all => written all.2.2)]
        · have shift : startChannel message + (bit + 1) ≤ channel + 1 ↔
              startChannel message + bit ≤ channel + 1 := by omega
          simp only [shift]

/-- What a message should do to a buffer: the channel of each bit that is set gets the data byte
that the number of bits below it counts, and the others stay. -/
structure Decodes (message : List UInt8) (before after : DmxBuffer) : Prop where
  sets : ∀ bit < 40, changed message bit = true → 1 ≤ startChannel message + bit →
    startChannel message + bit ≤ dmxUniverseSize →
      (channels after)[startChannel message + bit - 1]? =
        some (changedData message (Nat.count (fun other => changed message other = true) bit))
  keeps : ∀ channel, (∀ bit < 40, changed message bit = true →
    startChannel message + bit ≠ channel + 1) → (channels after)[channel]? = (channels before)[channel]?

/-- The start code is not among the changes; or nothing but zeros is. -/
def Aligned (message : List UInt8) : Prop :=
  startChannel message = 0 → changed message 0 = true →
    ∀ offset < Nat.count (fun other => changed message other = true) 40,
      changedData message offset = 0

/-- Below a number there are as many bits as are counted. -/
theorem exists_of_lt_count (marked : Nat → Prop) [DecidablePred marked] {bound index : Nat}
    (less : index < Nat.count marked bound) :
    ∃ bit < bound, marked bit ∧ Nat.count marked bit = index := by
  induction bound with
  | zero =>
    rw [Nat.count_zero] at less
    omega
  | succ bound ih =>
    rw [Nat.count_succ] at less
    by_cases early : index < Nat.count marked bound
    · have ⟨bit, low, found⟩ := ih early
      exact ⟨bit, by omega, found⟩
    · split at less
      · rename_i here
        exact ⟨bound, by omega, here, by omega⟩
      · omega

/-- Unless the start code is among the changes, the loop counts every bit. -/
theorem count_written (apart : ¬ (startChannel message = 0 ∧ changed message 0 = true)) (bit : Nat) :
    Nat.count (Written message) bit = Nat.count (fun other => changed message other = true) bit := by
  induction bit with
  | zero => rw [Nat.count_zero, Nat.count_zero]
  | succ bit ih =>
    have same : Written message bit ↔ changed message bit = true := by
      refine and_iff_left_of_imp (fun marked first => apart ?_)
      have zero : startChannel message = 0 ∧ bit = 0 := by omega
      exact ⟨zero.1, zero.2 ▸ marked⟩
    rw [Nat.count_succ, Nat.count_succ, ih, if_congr same rfl rfl]

/-- If it is, the loop counts one bit less. -/
theorem count_written_first (zero : startChannel message = 0) (first : changed message 0 = true)
    (bit : Nat) : Nat.count (fun other => changed message other = true) (bit + 1) =
      Nat.count (Written message) (bit + 1) + 1 := by
  induction bit with
  | zero =>
    have skipped : ¬ Written message 0 := fun written => written.2 (by omega)
    rw [Nat.count_succ, Nat.count_succ, if_pos first, if_neg skipped, Nat.count_zero,
      Nat.count_zero]
  | succ bit ih =>
    have same : Written message (bit + 1) ↔ changed message (bit + 1) = true :=
      and_iff_left_of_imp (fun _ => by omega)
    rw [Nat.count_succ, ih, Nat.count_succ _ (bit + 1), if_congr same rfl rfl]
    omega

variable {buffer : DmxBuffer} {channel : Nat}

theorem diffLoop_spec (full : dataChangedSize ≤ message.length) (long : LongEnough message buffer)
    (low : channel < dmxUniverseSize) :
    (channels (diffLoop message 40 0 0 buffer))[channel]? =
      if startChannel message ≤ channel + 1 ∧ channel + 1 < startChannel message + 40 ∧
          Written message (channel + 1 - startChannel message) then
        some (changedData message
          (Nat.count (Written message) (channel + 1 - startChannel message)))
      else (channels buffer)[channel]? :=
  diffLoop_channels full 40 0 buffer rfl long channel low

/-- A channel beyond the last slot is in no buffer. -/
theorem getElem?_channels_high (buffer : DmxBuffer) (high : dmxUniverseSize ≤ channel) :
    (channels buffer)[channel]? = none :=
  List.getElem?_eq_none (Nat.le_trans buffer.prepared.bounded high)

theorem diffLoop_set (full : dataChangedSize ≤ message.length) (long : LongEnough message buffer)
    {bit : Nat} (few : bit < 40) (marked : changed message bit = true)
    (some : 1 ≤ startChannel message + bit) (within : startChannel message + bit ≤ dmxUniverseSize) :
    (channels (diffLoop message 40 0 0 buffer))[startChannel message + bit - 1]? =
      .some (changedData message (Nat.count (Written message) bit)) := by
  have place : startChannel message + bit - 1 + 1 - startChannel message = bit := by omega
  rw [diffLoop_spec full long (by omega), place,
    if_pos ⟨by omega, by omega, marked, by omega⟩]

theorem diffLoop_keep (full : dataChangedSize ≤ message.length) (long : LongEnough message buffer)
    (unmarked : ∀ bit < 40, changed message bit = true → startChannel message + bit ≠ channel + 1) :
    (channels (diffLoop message 40 0 0 buffer))[channel]? = (channels buffer)[channel]? := by
  by_cases high : dmxUniverseSize ≤ channel
  · rw [getElem?_channels_high _ high, getElem?_channels_high _ high]
  · rw [diffLoop_spec full long (by omega), if_neg]
    intro ⟨above, below, written⟩
    exact unmarked (channel + 1 - startChannel message) (by omega) written.1 (by omega)

/-- The message is decoded exactly when the data bytes are taken for the bits they are for. -/
theorem decodes_iff (full : dataChangedSize ≤ message.length) (zero : ¬ OtherStartCode message)
    (long : LongEnough message buffer) :
    Decodes message buffer (diffLoop message 40 0 0 buffer) ↔ Aligned message := by
  constructor
  · intro decodes start first offset less
    induction offset with
    | zero =>
      by_contra other
      exact zero ⟨start, first, other⟩
    | succ offset ih =>
      -- the bit of a later byte was given the byte before it
      have ⟨bit, few, marked, counted⟩ := exists_of_lt_count _ less
      cases bit with
      | zero => rw [Nat.count_zero] at counted; omega
      | succ bit =>
        have one := count_written_first start first bit
        have wanted := decodes.sets (bit + 1) few marked (by omega)
          (by rw [start, dmxUniverseSize]; omega)
        rw [diffLoop_set full long few marked (by omega)
          (by rw [start, dmxUniverseSize]; omega)] at wanted
        have same := Option.some.inj wanted
        rw [counted, show Nat.count (Written message) (bit + 1) = offset by omega] at same
        rw [← same]
        exact ih (by omega)
  · intro aligned
    refine ⟨fun bit few marked some within => ?_, fun channel => diffLoop_keep full long⟩
    rw [diffLoop_set full long few marked some within]
    by_cases apart : startChannel message = 0 ∧ changed message 0 = true
    · have zeros := aligned apart.1 apart.2
      have less := @Nat.count_strict_mono (fun other => changed message other = true) _ _ _
        marked few
      cases bit with
      | zero => omega
      | succ bit =>
        have one := count_written_first apart.1 apart.2 bit
        rw [zeros _ less, zeros _ (by omega)]
    · rw [count_written apart]

/-- Two frames, the second with what a message says. The start code is in front of the
channels. -/
structure Difference (message old new : List UInt8) : Prop where
  full : dataChangedSize ≤ message.length
  length : new.length = old.length
  startCode : new[0]? = some 0
  marks : ∀ bit < 40, changed message bit = true → new[startChannel message + bit]? =
    some (changedData message (Nat.count (fun other => changed message other = true) bit))
  same : ∀ slot, (∀ bit < 40, changed message bit = true → startChannel message + bit ≠ slot) →
    new[slot]? = old[slot]?

/-- A difference takes a buffer with the channels of the first frame to the second. -/
theorem Difference.followed {old new : List UInt8} (difference : Difference message old new)
    (aligned : Aligned message) {port : EnttecPort}
    (shows : channels port.inputBuffer = old.tail) :
    channels (port.handleDMXDiff message).inputBuffer = new.tail := by
  have zero : ¬ OtherStartCode message := by
    intro ⟨start, first, other⟩
    have here := difference.marks 0 (by omega) first
    rw [start, difference.startCode, Nat.count_zero] at here
    exact other (Option.some.inj here).symm
  have long : LongEnough message port.inputBuffer := by
    intro bit few marked _
    have inside := (List.getElem?_eq_some_iff.mp (difference.marks bit few marked)).1
    have length := difference.length
    rw [shows, List.length_tail]
    omega
  have full := difference.full
  have decodes := (decodes_iff full zero long).mpr aligned
  rw [EnttecPort.handleDMXDiff, if_neg (by omega), if_neg zero]
  refine List.ext_getElem? (fun channel => ?_)
  rw [List.getElem?_tail]
  by_cases marked : ∃ bit < 40, changed message bit = true ∧
      startChannel message + bit = channel + 1
  · have ⟨bit, few, marked, here⟩ := marked
    have inside := (List.getElem?_eq_some_iff.mp (difference.marks bit few marked)).1
    have length := difference.length
    have bounded := port.inputBuffer.prepared.bounded
    have size : old.length - 1 ≤ dmxUniverseSize := by
      rw [← List.length_tail, ← shows]
      exact bounded
    have set := decodes.sets bit few marked (by omega) (by omega)
    rw [here, Nat.add_sub_cancel] at set
    rw [set, ← here, difference.marks bit few marked]
  · have unmarked : ∀ bit < 40, changed message bit = true →
        startChannel message + bit ≠ channel + 1 :=
      fun bit few there here => marked ⟨bit, few, there, here⟩
    rw [decodes.keeps channel unmarked, shows, List.getElem?_tail, difference.same _ unmarked]

/-- The port gets a message, and the widget has a new frame. -/
def followStep (state : EnttecPort × List UInt8) (input : List UInt8 × List UInt8) :
    EnttecPort × List UInt8 :=
  (state.1.handleDMXDiff input.1, input.2)

/-- Every full message with a zero start code, for channels that are in use, is decoded exactly
when the start code is not among the changes or nothing but zeros is; and over messages of that
kind the port shows the channels of each frame whose difference it got. -/
theorem diffs_decoded_iff (port : EnttecPort) :
    (∀ message : List UInt8, dataChangedSize ≤ message.length → ¬ OtherStartCode message →
      LongEnough message port.inputBuffer →
        (Decodes message port.inputBuffer (port.handleDMXDiff message).inputBuffer ↔
          Aligned message)) ∧
      ∀ (frame : List UInt8) (inputs : List (List UInt8 × List UInt8)),
        channels port.inputBuffer = frame.tail →
        Permitted followStep (fun state input => Difference input.1 state.2 input.2 ∧
          Aligned input.1) (port, frame) inputs →
        channels (run followStep (port, frame) inputs).1.inputBuffer =
          (run followStep (port, frame) inputs).2.tail := by
  constructor
  · intro message full zero long
    rw [EnttecPort.handleDMXDiff, if_neg (by omega), if_neg zero]
    exact decodes_iff full zero long
  · intro frame inputs shows permitted
    exact @run_invariant _ _ followStep _
      (fun state => channels state.1.inputBuffer = state.2.tail)
      (fun _ _ shows both => both.1.followed both.2 shows) _ _ shows permitted

end Message

/-- A message from this block of slots on, with this mask. -/
def changedMessage (start : UInt8) (mask data : List UInt8) : List UInt8 :=
  start :: (mask ++ data ++ List.replicate (40 - data.length) 0)

/-- A port that shows a frame of zeros. -/
def darkPort : EnttecPort :=
  { EnttecPort.new ⟨0x7a70, 1⟩ with inputBuffer := (DmxBuffer.blackout .new).1 }

/-- Slots 1 and 3 change. -/
theorem two_slots_decoded :
    Decodes (changedMessage 0 [0x0a, 0, 0, 0, 0] [7, 9]) darkPort.inputBuffer
      (darkPort.handleDMXDiff (changedMessage 0 [0x0a, 0, 0, 0, 0] [7, 9])).inputBuffer :=
  ((diffs_decoded_iff darkPort).1 (changedMessage 0 [0x0a, 0, 0, 0, 0] [7, 9]) (by decide)
    (by decide) (by unfold LongEnough; decide +kernel)).mpr (fun _ first => by cases first)

/-- The start code and slot 1 change: slot 1 gets the start code. -/
theorem start_code_decoded :
    let message := changedMessage 0 [0x03, 0, 0, 0, 0] [0, 9]
    dataChangedSize ≤ message.length ∧ ¬ OtherStartCode message ∧
      LongEnough message darkPort.inputBuffer ∧
      ¬ Decodes message darkPort.inputBuffer (darkPort.handleDMXDiff message).inputBuffer := by
  refine ⟨by decide, by decide, by unfold LongEnough; decide +kernel, fun decodes => ?_⟩
  have wanted := decodes.sets 1 (by decide) (by decide) (by decide) (by decide)
  exact absurd wanted (by decide +kernel)

end OpenLighting.Enttec
