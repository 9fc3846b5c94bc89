import OpenLighting.DmxBufferRefinement

/- Which bytes of its memory a `DmxBuffer` touches. -/
namespace OpenLighting.DmxMemory

open Buffer

/-- Bytes of a block that are read or written. -/
structure Access where
  block : Nat
  offset : Nat
  length : Nat

def Access.Below (bound : Nat) (access : Access) : Prop :=
  access.length = 0 ∨ access.offset + access.length ≤ bound

def Access.Covers (access : Access) (block index : Nat) : Prop :=
  access.block = block ∧ access.offset ≤ index ∧ index < access.offset + access.length

namespace Buffer

/-- Bytes from `m_data + offset` on. -/
def covers (buffer : Buffer) (offset length : Nat) : List Access :=
  match buffer.block with
  | none => []
  | some block => [⟨block, offset, length⟩]

def setAccesses (heap : Heap) (buffer : Buffer) (data : Option Source) : List Access :=
  match data with
  | none => []
  | some source =>
    let length := min source.length dmxUniverseSize
    (match source with
      | .outside _ => []
      | .inside block _ => [⟨block, 0, length⟩]) ++ (renew heap buffer).2.covers 0 length

def blackoutAccesses (heap : Heap) (buffer : Buffer) : List Access :=
  (renew heap buffer).2.covers 0 dmxUniverseSize

/-- What `DuplicateIfNeeded` touches. -/
def duplicateAccesses (heap : Heap) (buffer : Buffer) : List Access :=
  match buffer.block with
  | none => []
  | some block =>
    if buffer.copyOnWrite ∧ 1 < heap.count block then
      let (heap, fresh) := init heap { buffer with copyOnWrite := false }
      setAccesses heap fresh (some (.inside block buffer.length))
    else []

/-- What the end of `SetRange`, `SetRangeToValue` and `SetChannel` touches. -/
def setSlotsAccesses (heap : Heap) (buffer : Buffer) (offset length : Nat) : List Access :=
  let (after, prepared) := blackoutIfNeeded heap buffer
  (if buffer.block.isSome then [] else blackoutAccesses heap buffer) ++
    if prepared.length < offset then []
    else
      duplicateAccesses after prepared ++
        (duplicateIfNeeded after prepared).2.covers offset length

/-- `Get` for up to `length` slots. The result is as long as what is stored to `length`. -/
def get (heap : Heap) (buffer : Buffer) (length : Nat) : List UInt8 :=
  match buffer.block with
  | none => []
  | some block => heap.bytes block 0 (min length buffer.length)

/-- `GetRange`, with a subtraction of `unsigned int`s. -/
def getRange (heap : Heap) (buffer : Buffer) (slot length : Nat) : List UInt8 :=
  match buffer.block with
  | none => []
  | some block => heap.bytes block slot (min length ((buffer.length + 2 ^ 32 - slot) % 2 ^ 32))

end Buffer

/-- The calls that take an offset, a slot, a channel or a length. -/
inductive Call where
  | setRange (offset : UInt32) (data : Option (List UInt8))
  | setRangeToValue (offset : UInt32) (value : UInt8) (length : UInt32)
  | setChannel (channel : UInt32) (data : UInt8)
  | get (length : UInt32)
  | getRange (slot length : UInt32)
  | getChannel (channel : UInt32)

namespace Call

/-- What a call touches. -/
def accesses (heap : Heap) (buffer : Buffer) : Call → List Access
  | .setRange offset data =>
    match data with
    | none => []
    | some data =>
      if dmxUniverseSize ≤ offset.toNat then []
      else
        buffer.setSlotsAccesses heap offset.toNat
          (min data.length (dmxUniverseSize - offset.toNat))
  | .setRangeToValue offset _ length =>
    if dmxUniverseSize ≤ offset.toNat then []
    else
      buffer.setSlotsAccesses heap offset.toNat
        (min length.toNat (dmxUniverseSize - offset.toNat))
  | .setChannel channel _ =>
    if dmxUniverseSize ≤ channel.toNat then []
    else buffer.setSlotsAccesses heap channel.toNat 1
  | .get length => buffer.covers 0 (buffer.get heap length.toNat).length
  | .getRange slot length =>
    buffer.covers slot.toNat (buffer.getRange heap slot.toNat length.toNat).length
  | .getChannel channel =>
    if channel.toNat < buffer.length then buffer.covers channel.toNat 1 else []

def memory (heap : Heap) (buffer : Buffer) : Call → Heap
  | .setRange offset data => (buffer.setRange heap offset.toNat data).1
  | .setRangeToValue offset value length =>
    (buffer.setRangeToValue heap offset.toNat value length.toNat).1
  | .setChannel channel data => (buffer.setChannel heap channel.toNat data).1
  | .get _ | .getRange _ _ | .getChannel _ => heap

/-- The first slot of a reading call, and how many slots it says it has read. -/
def reported (heap : Heap) (buffer : Buffer) : Call → Option (Nat × Nat)
  | .get length => some (0, (buffer.get heap length.toNat).length)
  | .getRange slot length =>
    some (slot.toNat, (buffer.getRange heap slot.toNat length.toNat).length)
  | _ => none

end Call

/-- A call for a buffer of at most 512 slots touches nothing behind these, and if it reads slots,
reports those that there are. -/
structure Bounded (heap : Heap) (buffer : Buffer) (call : Call) : Prop where
  size : buffer.length ≤ dmxUniverseSize
  inside : ∀ access ∈ call.accesses heap buffer, access.Below dmxUniverseSize
  current : ∀ slot count, call.reported heap buffer = some (slot, count) →
    (∀ access ∈ call.accesses heap buffer, access.Below buffer.length) ∧
      count ≤ buffer.length - slot

/-- `GetRange` is not asked for slots of a range that starts behind the last one. -/
def Call.Within (buffer : Buffer) : Call → Prop
  | .getRange slot length => buffer.block = none ∨ length = 0 ∨ slot.toNat ≤ buffer.length
  | _ => True

variable {offset length : Nat}

section Accesses

variable {heap : Heap} {buffer : Buffer}

theorem mem_covers {access : Access} (member : access ∈ buffer.covers offset length) :
    access.offset = offset ∧ access.length = length := by
  unfold covers at member
  split at member
  · cases member
  · rw [List.mem_singleton] at member
    rw [member]
    exact ⟨rfl, rfl⟩

theorem covers_below {offset length bound : Nat} (inside : offset + length ≤ bound) :
    ∀ access ∈ buffer.covers offset length, access.Below bound := by
  intro access member
  obtain ⟨start, size⟩ := mem_covers member
  right
  omega

theorem setAccesses_below (data : Option Source) :
    ∀ access ∈ buffer.setAccesses heap data, access.Below dmxUniverseSize := by
  intro access member
  unfold setAccesses at member
  cases data with
  | none => cases member
  | some source =>
    rw [List.mem_append] at member
    rcases member with member | member
    · cases source with
      | outside data => cases member
      | inside block length =>
        rw [List.mem_singleton] at member
        subst member
        right
        simp
    · exact covers_below (by omega) access member

theorem setSlotsAccesses_below (inside : offset + length ≤ dmxUniverseSize) :
    ∀ access ∈ buffer.setSlotsAccesses heap offset length, access.Below dmxUniverseSize := by
  intro access member
  unfold setSlotsAccesses at member
  rw [List.mem_append] at member
  rcases member with member | member
  · split at member
    · cases member
    · exact covers_below (Nat.le_of_eq (Nat.zero_add _)) access member
  · split at member
    · cases member
    · rw [List.mem_append] at member
      rcases member with member | member
      · unfold duplicateAccesses at member
        split at member
        · cases member
        · split at member
          · exact setAccesses_below _ access member
          · cases member
      · exact covers_below inside access member

theorem length_get (length : Nat) :
    (buffer.get heap length).length ≤ buffer.length := by
  unfold Buffer.get
  split
  · exact Nat.zero_le _
  · simp [Heap.bytes]

theorem length_getRange {block slot length : Nat} (points : buffer.block = some block) :
    (buffer.getRange heap slot length).length =
      min length ((buffer.length + 2 ^ 32 - slot) % 2 ^ 32) := by
  unfold getRange
  rw [points]
  simp [Heap.bytes]

end Accesses

variable {data : List UInt8}

section Writes

variable {heap : Heap} {buffer : Buffer} {block index : Nat}

theorem put_untouched {offset : Nat}
    (outside : ∀ access ∈ buffer.covers offset data.length, ¬ access.Covers block index) :
    (buffer.put heap offset data).memory block index = heap.memory block index := by
  unfold put
  unfold covers at outside
  cases points : buffer.block with
  | none => rfl
  | some own =>
    rw [points] at outside
    have apart := outside _ (List.mem_singleton_self _)
    unfold Access.Covers at apart
    dsimp only at apart
    unfold Heap.write
    dsimp only
    split_ifs with here
    · rw [List.getD_eq_getElem?_getD, List.getElem?_eq_none (by omega), Option.getD_none]
    · rfl

theorem renew_memory : (buffer.renew heap).1.memory = heap.memory := by
  obtain ⟨block, copyOnWrite, length⟩ := buffer
  cases copyOnWrite <;> cases block <;> rfl

theorem load_length (source : Source) (most : Nat) :
    (source.load heap (min source.length most)).2.length = min source.length most := by
  cases source with
  | outside data => simp [Source.load, Source.length]
  | inside other length => simp [Source.load, Heap.read, Heap.bytes]

theorem load_memory (source : Source) (length : Nat) :
    (source.load heap length).1.memory = heap.memory := by
  cases source <;> rfl

theorem set_untouched (data : Option Source)
    (outside : ∀ access ∈ buffer.setAccesses heap data, ¬ access.Covers block index) :
    (buffer.set heap data).1.memory block index = heap.memory block index := by
  cases data with
  | none => rfl
  | some source =>
    have same : (buffer.set heap (some source)).1 =
        (buffer.renew heap).2.put
          (source.load (buffer.renew heap).1 (min source.length dmxUniverseSize)).1 0
          (source.load (buffer.renew heap).1 (min source.length dmxUniverseSize)).2 := rfl
    rw [same, put_untouched, load_memory, renew_memory]
    intro access member
    apply outside
    rw [load_length] at member
    exact List.mem_append_right _ member

theorem duplicate_untouched
    (outside : ∀ access ∈ buffer.duplicateAccesses heap, ¬ access.Covers block index) :
    (buffer.duplicateIfNeeded heap).1.memory block index = heap.memory block index := by
  unfold duplicateIfNeeded
  unfold duplicateAccesses at outside
  cases points : buffer.block with
  | none => rfl
  | some own =>
    rw [points] at outside
    dsimp only at outside ⊢
    by_cases shared : buffer.copyOnWrite = true ∧ 1 < heap.count own
    · have several : ¬ (buffer.copyOnWrite = true ∧ heap.count own = 1) := by omega
      rw [if_pos shared] at outside
      rw [if_neg several, if_pos shared]
      exact set_untouched _ outside
    · rw [if_neg shared] at outside
      by_cases alone : buffer.copyOnWrite = true ∧ heap.count own = 1
      · rw [if_pos alone]
        simp
      · rw [if_neg alone, if_neg shared]

theorem setSlots_untouched {offset : Nat}
    (outside : ∀ access ∈ buffer.setSlotsAccesses heap offset data.length,
      ¬ access.Covers block index) :
    (buffer.setSlots heap offset data).1.memory block index = heap.memory block index := by
  unfold setSlotsAccesses at outside
  have prepared : (buffer.blackoutIfNeeded heap).1.memory block index = heap.memory block index := by
    unfold blackoutIfNeeded
    cases points : buffer.block with
    | some own => rfl
    | none =>
      have kept : (buffer.renew heap).1.memory block index = heap.memory block index := by
        rw [renew_memory]
      rw [← kept]
      apply put_untouched
      intro access member
      apply outside
      rw [points]
      rw [List.length_replicate] at member
      exact List.mem_append_left _ member
  rw [← prepared]
  unfold setSlots
  dsimp only at outside ⊢
  split_ifs with behind
  · rfl
  · rw [if_neg behind] at outside
    have copied := @duplicate_untouched (buffer.blackoutIfNeeded heap).1
      (buffer.blackoutIfNeeded heap).2 block index (fun access member =>
        outside access (List.mem_append_right _ (List.mem_append_left _ member)))
    rw [← copied]
    apply put_untouched
    intro access member
    exact outside access (List.mem_append_right _ (List.mem_append_right _ member))

/-- What a call does not touch stays as it was. -/
theorem call_untouched (call : Call)
    (outside : ∀ access ∈ call.accesses heap buffer, ¬ access.Covers block index) :
    (call.memory heap buffer).memory block index = heap.memory block index := by
  cases call with
  | setRange offset data =>
    cases data with
    | none => rfl
    | some data =>
      simp only [Call.memory, Call.accesses, setRange] at outside ⊢
      split_ifs at outside ⊢ with above
      · rfl
      · apply setSlots_untouched
        rw [List.length_take, Nat.min_comm]
        exact outside
  | setRangeToValue offset value length =>
    simp only [Call.memory, Call.accesses, setRangeToValue] at outside ⊢
    split_ifs at outside ⊢ with above
    · rfl
    · apply setSlots_untouched
      rw [List.length_replicate]
      exact outside
  | setChannel channel data =>
    simp only [Call.memory, Call.accesses, setChannel] at outside ⊢
    split_ifs at outside ⊢ with above
    · rfl
    · exact setSlots_untouched outside
  | _ => rfl

theorem call_untouched_shared :
    ((Call.setChannel 1 9).memory ⟨fun _ => 2, fun _ _ => 7, 1, false⟩
      ⟨some 0, true, 2⟩).memory 0 5 = 7 :=
  call_untouched (.setChannel 1 9) (by unfold Access.Covers; decide)

end Writes

section Sizes

variable {heap : Heap} {buffer : Buffer}

theorem cleanupMemory_length (short : buffer.length ≤ dmxUniverseSize) :
    (buffer.cleanupMemory heap).2.length ≤ dmxUniverseSize := by
  unfold cleanupMemory
  split
  · exact short
  · exact Nat.zero_le _

theorem initIfNeeded_length (short : buffer.length ≤ dmxUniverseSize) :
    (buffer.initIfNeeded heap).2.length ≤ dmxUniverseSize := by
  unfold initIfNeeded
  split
  · exact Nat.zero_le _
  · exact short

theorem set_length (short : buffer.length ≤ dmxUniverseSize) (data : Option Source) :
    (buffer.set heap data).2.1.length ≤ dmxUniverseSize := by
  cases data with
  | none => exact short
  | some source => exact Nat.min_le_right _ _

theorem setFromString_length (input : List UInt8) :
    (buffer.setFromString heap input).2.1.length ≤ dmxUniverseSize := by
  unfold setFromString
  split_ifs
  · exact Nat.zero_le _
  · simp

theorem duplicateIfNeeded_length (short : buffer.length ≤ dmxUniverseSize) :
    (buffer.duplicateIfNeeded heap).2.length ≤ dmxUniverseSize := by
  unfold duplicateIfNeeded
  split
  · exact short
  · dsimp only
    split_ifs
    all_goals first
      | exact short
      | exact Nat.min_le_right _ _

theorem setSlots_length (short : buffer.length ≤ dmxUniverseSize) {offset : Nat}
    (inside : offset + data.length ≤ dmxUniverseSize) :
    (buffer.setSlots heap offset data).2.1.length ≤ dmxUniverseSize := by
  have prepared : (buffer.blackoutIfNeeded heap).2.length ≤ dmxUniverseSize := by
    unfold blackoutIfNeeded
    split
    · exact Nat.le_refl _
    · exact short
  unfold setSlots
  dsimp only
  split_ifs with behind
  · exact prepared
  · exact Nat.max_le.mpr ⟨duplicateIfNeeded_length prepared, inside⟩

theorem mergeFrom_length (short : buffer.length ≤ dmxUniverseSize) (other : Buffer) :
    (buffer.mergeFrom heap other).2.length ≤ dmxUniverseSize := by
  unfold mergeFrom
  dsimp only
  split_ifs
  · exact Nat.min_le_left _ _
  · exact short

end Sizes

/-- No buffer has more than 512 slots. -/
def Short (world : World) : Prop :=
  ∀ buffer, some buffer ∈ world.buffers → buffer.length ≤ dmxUniverseSize

section Runs

variable {world : World}

section

variable (short : Short world)
include short

theorem Short.found {name : Nat} {buffer : Buffer} (found : world.find name = some buffer) :
    buffer.length ≤ dmxUniverseSize :=
  short buffer (List.mem_of_getElem? (find_iff.mp found))

theorem short_set {name : Nat} {result : Heap × Buffer} (size : result.2.length ≤ dmxUniverseSize) :
    Short (world.store name result) := by
  intro buffer member
  rcases List.mem_or_eq_of_mem_set member with member | same
  · exact short buffer member
  · rw [Option.some.inj same]
    exact size

theorem short_mutate {name : Nat} {change : Heap → Buffer → Heap × Buffer}
    (sizes : ∀ heap buffer, buffer.length ≤ dmxUniverseSize →
      (change heap buffer).2.length ≤ dmxUniverseSize) : Short (world.mutate name change) := by
  unfold World.mutate
  split
  · exact short
  · rename_i buffer found
    exact short_set short (sizes world.heap buffer (short.found found))

theorem short_copyFromOther (name other : Nat) : Short (world.copyFromOther name other) := by
  unfold World.copyFromOther
  split
  · exact short
  · rename_i source found
    split
    · exact short
    · have size := short.found found
      intro buffer member
      rcases List.mem_or_eq_of_mem_set member with member | same
      · rcases List.mem_or_eq_of_mem_set member with member | same
        · exact short buffer member
        · rw [Option.some.inj same]
          exact size
      · rw [Option.some.inj same]
        exact size

theorem short_construct : Short world.construct := by
  intro buffer member
  rcases List.mem_append.mp member with member | member
  · exact short buffer member
  · rw [List.mem_singleton] at member
    rw [Option.some.inj member]
    exact Nat.zero_le _

theorem short_step (operation : Operation) : Short (world.step operation) := by
  cases operation with
  | construct => exact short_construct short
  | copyConstruct other =>
    rw [World.step, World.copyConstruct]
    split
    · exact short
    · exact short_copyFromOther (short_construct short) _ _
  | assign name other =>
    rw [World.step, World.assign]
    split
    · split_ifs
      · exact short
      · exact short_copyFromOther
          (short_mutate short (fun _ _ size => cleanupMemory_length size)) _ _
    · exact short
  | set name data => exact short_mutate short (fun _ _ size => set_length size _)
  | setBuffer name other =>
    rw [World.step, World.setBuffer]
    split
    · exact short
    · exact short_mutate short (fun _ _ size => set_length size _)
  | setFromString name input => exact short_mutate short (fun _ _ _ => setFromString_length input)
  | setRange name offset data =>
    apply short_mutate short
    intro heap buffer size
    cases data with
    | none => exact size
    | some data =>
      unfold dropResult setRange
      split_ifs with above
      · exact size
      · apply setSlots_length size
        rw [List.length_take]
        omega
  | setRangeToValue name offset value length =>
    apply short_mutate short
    intro heap buffer size
    unfold dropResult setRangeToValue
    split_ifs with above
    · exact size
    · apply setSlots_length size
      rw [List.length_replicate]
      omega
  | setChannel name channel data =>
    apply short_mutate short
    intro heap buffer size
    unfold setChannel
    split_ifs with above
    · exact size
    · exact setSlots_length size (Nat.lt_of_not_le above)
  | htpMerge name other =>
    rw [World.step, World.htpMerge]
    split
    · exact short
    · apply short_mutate short
      intro heap buffer size
      exact mergeFrom_length (duplicateIfNeeded_length (initIfNeeded_length size)) _
  | blackout name => exact short_mutate short (fun _ _ _ => Nat.le_refl _)
  | reset name =>
    apply short_mutate short
    intro heap buffer size
    unfold reset
    split
    · exact Nat.zero_le _
    · exact size
  | destroy name =>
    intro buffer member
    exact short_mutate short (fun _ _ size => cleanupMemory_length size) buffer
      (mem_set_none member)

end

/-- Every buffer of every program. -/
theorem short_run (memory : Nat → Nat → UInt8) (operations : List Operation) :
    Short (TransitionSystem.run World.step (.start memory) operations) := by
  have start : Short (.start memory) := by
    intro buffer member
    cases member
  refine TransitionSystem.run_invariant ?_ start
    (TransitionSystem.permitted_true World.step (.start memory) operations)
  intro world operation short _
  exact short_step short operation

end Runs

section Calls

variable {heap : Heap} {buffer : Buffer}

/-- A call that writes does so inside the slots. -/
theorem bounded_of_setSlots {call : Call} (short : buffer.length ≤ dmxUniverseSize)
    (silent : call.reported heap buffer = none)
    (inside : ∀ access ∈ call.accesses heap buffer, access.Below dmxUniverseSize) :
    Bounded heap buffer call := by
  refine ⟨short, inside, ?_⟩
  intro slot count report
  rw [silent] at report
  cases report

theorem bounded_of_read {call : Call} (short : buffer.length ≤ dmxUniverseSize) {slot count : Nat}
    (report : call.reported heap buffer = some (slot, count))
    (touched : call.accesses heap buffer = buffer.covers slot count)
    (current : count ≤ buffer.length - slot) : Bounded heap buffer call := by
  have below : ∀ bound, buffer.length ≤ bound →
      ∀ access ∈ call.accesses heap buffer, access.Below bound := by
    intro bound least access member
    rw [touched] at member
    obtain ⟨start, size⟩ := mem_covers member
    unfold Access.Below
    omega
  refine ⟨short, below dmxUniverseSize short, ?_⟩
  intro other reported same
  rw [report] at same
  cases same
  exact ⟨below buffer.length (Nat.le_refl _), current⟩

theorem getRange_current {slot : Nat} (wide : slot < 2 ^ 32)
    (short : buffer.length ≤ dmxUniverseSize) (length : Nat) :
    (buffer.getRange heap slot length).length ≤ buffer.length - slot ↔
      buffer.block = none ∨ length = 0 ∨ slot ≤ buffer.length := by
  have small : buffer.length ≤ 512 := short
  cases points : buffer.block with
  | none =>
    unfold getRange
    rw [points]
    simp
  | some block =>
    rw [length_getRange points]
    simp only [reduceCtorEq, false_or]
    by_cases within : slot ≤ buffer.length
    · have left : (buffer.length + 2 ^ 32 - slot) % 2 ^ 32 = buffer.length - slot := by omega
      rw [left]
      omega
    · have wrapped : (buffer.length + 2 ^ 32 - slot) % 2 ^ 32 = buffer.length + 2 ^ 32 - slot :=
        Nat.mod_eq_of_lt (by omega)
      omega

/-- The calls that write check where they start. -/
theorem guarded_below (inside : offset < dmxUniverseSize → offset + length ≤ dmxUniverseSize) :
    ∀ access ∈ (if dmxUniverseSize ≤ offset then []
      else buffer.setSlotsAccesses heap offset length), access.Below dmxUniverseSize := by
  intro access member
  split_ifs at member with above
  · cases member
  · exact setSlotsAccesses_below (inside (Nat.lt_of_not_le above)) access member

theorem bounded_iff (short : buffer.length ≤ dmxUniverseSize) (call : Call) :
    Bounded heap buffer call ↔ call.Within buffer := by
  cases call with
  | setRange offset data =>
    apply iff_of_true _ trivial
    apply bounded_of_setSlots short rfl
    cases data with
    | none =>
      intro access member
      cases member
    | some data => exact guarded_below (fun _ => by omega)
  | setRangeToValue offset value length =>
    apply iff_of_true _ trivial
    exact bounded_of_setSlots short rfl (guarded_below (fun _ => by omega))
  | setChannel channel data =>
    apply iff_of_true _ trivial
    exact bounded_of_setSlots short rfl (guarded_below Nat.succ_le_of_lt)
  | get length =>
    apply iff_of_true _ trivial
    exact bounded_of_read short rfl rfl (length_get length.toNat)
  | getRange slot length =>
    have current := @getRange_current heap buffer slot.toNat slot.toNat_lt short length.toNat
    have zero : length.toNat = 0 ↔ length = 0 := UInt32.toNat_inj (b := 0)
    rw [zero] at current
    constructor
    · intro bounded
      exact current.mp (bounded.current _ _ rfl).2
    · intro within
      exact bounded_of_read short rfl rfl (current.mpr within)
  | getChannel channel =>
    apply iff_of_true _ trivial
    apply bounded_of_setSlots short rfl
    intro access member
    unfold Call.accesses at member
    dsimp only at member
    split_ifs at member with inside
    · exact covers_below (Nat.le_trans inside short) access member
    · cases member

end Calls

/-- In every state that a program reaches, a call for a buffer stays inside its slots exactly if it
is none for a range that starts behind them. -/
theorem reachable_bounded (memory : Nat → Nat → UInt8) (operations : List Operation) {name : Nat}
    {buffer : Buffer}
    (found : (TransitionSystem.run World.step (.start memory) operations).find name = some buffer)
    (call : Call) :
    Bounded (TransitionSystem.run World.step (.start memory) operations).heap buffer call ↔
      call.Within buffer :=
  bounded_iff ((short_run memory operations).found found) call

def threeSlots : World :=
  TransitionSystem.run World.step (.start (fun _ _ => 0)) [.construct, .set 0 (some [1, 2, 3])]

theorem reachable_bounded_three : Bounded threeSlots.heap ⟨some 0, false, 3⟩ (.getRange 1 5) :=
  (@reachable_bounded (fun _ _ => 0) [.construct, .set 0 (some [1, 2, 3])] 0 ⟨some 0, false, 3⟩ rfl
    (.getRange 1 5)).mpr (.inr (.inr (by decide)))

/-- The difference wraps: four slots are reported behind the last one. -/
theorem getRange_behind : threeSlots.find 0 = some ⟨some 0, false, 3⟩ ∧
    ¬ Bounded threeSlots.heap ⟨some 0, false, 3⟩ (.getRange 10 4) := by
  refine ⟨rfl, ?_⟩
  intro bounded
  have report : (Call.getRange 10 4).reported threeSlots.heap ⟨some 0, false, 3⟩ =
      some (10, 4) := rfl
  exact absurd (bounded.current 10 4 report).2 (by decide)

end OpenLighting.DmxMemory
