import OpenLighting.DmxBuffer
import OpenLighting.TransitionSystem

/- How `DmxBuffer`s share their memory. -/
namespace OpenLighting.DmxMemory

open OpenLighting.StringUtils

/-- The memory of the blocks that have been allocated, those below `next`, with the number at
`m_ref_count`; a block is freed when that is zero. -/
@[ext] structure Heap where
  count : Nat → Nat
  memory : Nat → Nat → UInt8
  next : Nat
  readFreed : Bool

/-- The members of a `DmxBuffer`. `m_data` and `m_ref_count` are the same block, or both NULL. -/
structure Buffer where
  block : Option Nat
  copyOnWrite : Bool
  length : Nat

variable (heap : Heap)

namespace Heap

def setCount (block count : Nat) : Heap :=
  { heap with count := fun other => if other = block then count else heap.count other }

def bytes (block offset length : Nat) : List UInt8 :=
  (List.range length).map (fun index => heap.memory block (offset + index))

/-- Bytes are read, perhaps from a block that is freed. -/
def read (block offset length : Nat) : Heap × List UInt8 :=
  ({ heap with readFreed := heap.readFreed || (length != 0 && heap.count block == 0) },
    heap.bytes block offset length)

def write (block offset : Nat) (data : List UInt8) : Heap :=
  { heap with
    memory := fun other index =>
      if other = block ∧ offset ≤ index then
        data.getD (index - offset) (heap.memory other index)
      else heap.memory other index }

end Heap

/-- A pointer that is not NULL, with a length: to bytes of the caller, or to a block. -/
inductive Source where
  | outside (data : List UInt8)
  | inside (block length : Nat)

def Source.length : Source → Nat
  | .outside data => data.length
  | .inside _ length => length

/-- The bytes that `memcpy` takes from there. -/
def Source.load (source : Source) (length : Nat) : Heap × List UInt8 :=
  match source with
  | .outside data => (heap, data.take length)
  | .inside block _ => heap.read block 0 length

variable (buffer : Buffer) (offset : Nat)

namespace Buffer

/-- `DmxBuffer()`. -/
def new : Buffer := ⟨none, false, 0⟩

def init : Heap × Buffer :=
  ({ heap.setCount heap.next 1 with next := heap.next + 1 },
    { buffer with block := some heap.next, length := 0 })

def cleanupMemory : Heap × Buffer :=
  match buffer.block with
  | none => (heap, buffer)
  | some block =>
    (heap.setCount block (heap.count block - 1), { buffer with block := none, length := 0 })

/-- `if (!m_data) Init()`. -/
def initIfNeeded : Heap × Buffer :=
  match buffer.block with
  | none => init heap buffer
  | some _ => (heap, buffer)

/-- `if (m_copy_on_write) CleanupMemory(); if (!m_data) Init()`. -/
def renew : Heap × Buffer :=
  let (heap, buffer) := if buffer.copyOnWrite then cleanupMemory heap buffer else (heap, buffer)
  initIfNeeded heap buffer

/-- Bytes are put to `m_data + offset`. -/
def put (data : List UInt8) : Heap :=
  match buffer.block with
  | none => heap
  | some block => heap.write block offset data

def set (data : Option Source) : Heap × Buffer × Bool :=
  match data with
  | none => (heap, buffer, false)
  | some source =>
    let (heap, buffer) := renew heap buffer
    let length := min source.length dmxUniverseSize
    let (heap, bytes) := source.load heap length
    (put heap buffer 0 bytes, { buffer with length := length }, true)

def setFromString (input : List UInt8) : Heap × Buffer × Bool :=
  let (heap, buffer) := renew heap buffer
  if input.isEmpty then (heap, { buffer with length := 0 }, true)
  else
    let values :=
      ((stringSplit input [44]).take dmxUniverseSize).map (fun value => UInt8.ofInt (atoi value))
    (put heap buffer 0 values, { buffer with length := values.length }, true)

def blackout : Heap × Buffer × Bool :=
  let (heap, buffer) := renew heap buffer
  (put heap buffer 0 (List.replicate dmxUniverseSize 0), { buffer with length := dmxUniverseSize },
    true)

def reset : Buffer :=
  if buffer.block.isSome then { buffer with length := 0 } else buffer

/-- `DuplicateIfNeeded`, which is called with memory only. -/
def duplicateIfNeeded : Heap × Buffer :=
  match buffer.block with
  | none => (heap, buffer)
  | some block =>
    let buffer :=
      if buffer.copyOnWrite ∧ heap.count block = 1 then { buffer with copyOnWrite := false }
      else buffer
    if buffer.copyOnWrite ∧ 1 < heap.count block then
      let length := buffer.length
      let (heap, buffer) := init heap { buffer with copyOnWrite := false }
      let (heap, buffer, _) := set heap buffer (some (.inside block length))
      (heap.setCount block (heap.count block - 1), buffer)
    else (heap, buffer)

/-- `if (!m_data) Blackout()`. -/
def blackoutIfNeeded : Heap × Buffer :=
  match buffer.block with
  | none => ((blackout heap buffer).1, (blackout heap buffer).2.1)
  | some _ => (heap, buffer)

/-- The end of `SetRange`, `SetRangeToValue` and `SetChannel`. -/
def setSlots (data : List UInt8) : Heap × Buffer × Bool :=
  let (heap, buffer) := blackoutIfNeeded heap buffer
  if buffer.length < offset then (heap, buffer, false)
  else
    let (heap, buffer) := duplicateIfNeeded heap buffer
    (put heap buffer offset data,
      { buffer with length := max buffer.length (offset + data.length) }, true)

def setRangeToValue (value : UInt8) (length : Nat) : Heap × Buffer × Bool :=
  if dmxUniverseSize ≤ offset then (heap, buffer, false)
  else
    setSlots heap buffer offset (List.replicate (min length (dmxUniverseSize - offset)) value)

/-- `SetRange`, from bytes of the caller. -/
def setRange (data : Option (List UInt8)) : Heap × Buffer × Bool :=
  match data with
  | none => (heap, buffer, false)
  | some data =>
    if dmxUniverseSize ≤ offset then (heap, buffer, false)
    else setSlots heap buffer offset (data.take (dmxUniverseSize - offset))

def setChannel (channel : Nat) (data : UInt8) : Heap × Buffer :=
  if dmxUniverseSize ≤ channel then (heap, buffer)
  else
    ((setSlots heap buffer channel [data]).1, (setSlots heap buffer channel [data]).2.1)

/-- `if (!m_data) Init(); DuplicateIfNeeded()`. -/
def prepareMerge : Heap × Buffer :=
  let (heap, buffer) := initIfNeeded heap buffer
  duplicateIfNeeded heap buffer

/-- What `m_data` points to, from an offset on; nothing is read through NULL. -/
def fetch (offset length : Nat) : Heap × List UInt8 :=
  match buffer.block with
  | none => (heap, [])
  | some block => heap.read block offset length

/-- The rest of `HTPMerge`. -/
def mergeFrom (buffer other : Buffer) : Heap × Buffer :=
  let otherLength := min dmxUniverseSize other.length
  let mergeLength := min buffer.length other.length
  let (heap, own) := fetch heap buffer 0 mergeLength
  let (heap, others) := fetch heap other 0 mergeLength
  let heap := put heap buffer 0 (List.zipWith SlotMaximum.larger own others)
  if buffer.length < otherLength then
    let (heap, rest) := fetch heap other mergeLength (otherLength - mergeLength)
    (put heap buffer mergeLength rest, { buffer with length := otherLength })
  else (heap, buffer)

end Buffer

/-- The result of a member function is of no concern to the other buffers. -/
def dropResult (result : Heap × Buffer × Bool) : Heap × Buffer := (result.1, result.2.1)

/-- The memory and the buffers, of which some have been destroyed. -/
structure World where
  heap : Heap
  buffers : List (Option Buffer)

variable (world : World) (name : Nat)

namespace World

/-- No buffer yet; nothing is known of the memory. -/
def start (memory : Nat → Nat → UInt8) : World := ⟨⟨fun _ => 0, memory, 0, false⟩, []⟩

def find : Option Buffer := (world.buffers[name]?).join

def store (result : Heap × Buffer) : World :=
  ⟨result.1, world.buffers.set name (some result.2)⟩

/-- A member function that knows one buffer. -/
def mutate (change : Heap → Buffer → Heap × Buffer) : World :=
  match world.find name with
  | none => world
  | some buffer => world.store name (change world.heap buffer)

def copyFromOther (name other : Nat) : World :=
  match world.find other with
  | none => world
  | some source =>
    match source.block with
    | none => world
    | some block =>
      ⟨world.heap.setCount block (world.heap.count block + 1),
        (world.buffers.set other (some { source with copyOnWrite := true })).set name
          (some ⟨some block, true, source.length⟩)⟩

/-- `DmxBuffer()`, which makes a buffer with the next name. -/
def construct : World := { world with buffers := world.buffers ++ [some .new] }

/-- `DmxBuffer(const DmxBuffer&)`. -/
def copyConstruct (other : Nat) : World :=
  match world.find other with
  | none => world
  | some _ => world.construct.copyFromOther world.buffers.length other

/-- `operator=`. -/
def assign (name other : Nat) : World :=
  match world.find name, world.find other with
  | some _, some _ =>
    if name = other then world
    else (world.mutate name Buffer.cleanupMemory).copyFromOther name other
  | _, _ => world

/-- `Set` from another buffer, or from the same. -/
def setBuffer (name other : Nat) : World :=
  match world.find other with
  | none => world
  | some source =>
    world.mutate name (fun heap buffer =>
      dropResult
        (buffer.set heap (source.block.map (fun block => .inside block source.length))))

def htpMerge (name other : Nat) : World :=
  match world.find other with
  | none => world
  | some source =>
    world.mutate name (fun heap buffer =>
      let (heap, buffer) := buffer.prepareMerge heap
      buffer.mergeFrom heap (if name = other then buffer else source))

/-- `~DmxBuffer`. -/
def destroy : World :=
  let cleaned := world.mutate name Buffer.cleanupMemory
  { cleaned with buffers := cleaned.buffers.set name none }

end World

/-- The operations of a program, with the buffers they are called for. -/
inductive Operation where
  | construct
  | copyConstruct (other : Nat)
  | assign (name other : Nat)
  | set (name : Nat) (data : Option (List UInt8))
  | setBuffer (name other : Nat)
  | setFromString (name : Nat) (input : List UInt8)
  | setRange (name offset : Nat) (data : Option (List UInt8))
  | setRangeToValue (name offset : Nat) (value : UInt8) (length : Nat)
  | setChannel (name channel : Nat) (data : UInt8)
  | htpMerge (name other : Nat)
  | blackout (name : Nat)
  | reset (name : Nat)
  | destroy (name : Nat)

def World.step (world : World) : Operation → World
  | .construct => world.construct
  | .copyConstruct other => world.copyConstruct other
  | .assign name other => world.assign name other
  | .set name data =>
    world.mutate name (fun heap buffer => dropResult (buffer.set heap (data.map .outside)))
  | .setBuffer name other => world.setBuffer name other
  | .setFromString name input =>
    world.mutate name (fun heap buffer => dropResult (buffer.setFromString heap input))
  | .setRange name offset data =>
    world.mutate name (fun heap buffer => dropResult (buffer.setRange heap offset data))
  | .setRangeToValue name offset value length =>
    world.mutate name (fun heap buffer =>
      dropResult (buffer.setRangeToValue heap offset value length))
  | .setChannel name channel data =>
    world.mutate name (fun heap buffer => buffer.setChannel heap channel data)
  | .htpMerge name other => world.htpMerge name other
  | .blackout name => world.mutate name (fun heap buffer => dropResult (buffer.blackout heap))
  | .reset name => world.mutate name (fun heap buffer => (heap, buffer.reset))
  | .destroy name => world.destroy name

/-- The same buffers when nothing is shared: every copy is deep. -/
abbrev Values := List (Option DmxBuffer)

variable (values : Values)

namespace Values

def find (name : Nat) : Option DmxBuffer := (values[name]?).join

def mutate (name : Nat) (change : DmxBuffer → DmxBuffer) : Values :=
  match values.find name with
  | none => values
  | some buffer => values.set name (some (change buffer))

/-- A change that needs another buffer, or the same. -/
def mutateFrom (name other : Nat) (change : DmxBuffer → DmxBuffer → DmxBuffer) : Values :=
  match values.find other with
  | none => values
  | some source => values.mutate name (fun buffer => change buffer source)

def step (values : Values) : Operation → Values
  | .construct => values ++ [some .new]
  | .copyConstruct other =>
    match values.find other with
    | none => values
    | some source => values ++ [some source]
  | .assign name other => values.mutateFrom name other (fun _ source => source)
  | .set name data => values.mutate name (fun buffer => (buffer.set data).1)
  | .setBuffer name other =>
    values.mutateFrom name other (fun buffer source => (buffer.setBuffer source).1)
  | .setFromString name input => values.mutate name (fun buffer => (buffer.setFromString input).1)
  | .setRange name offset data => values.mutate name (fun buffer => (buffer.setRange offset data).1)
  | .setRangeToValue name offset value length =>
    values.mutate name (fun buffer => (buffer.setRangeToValue offset value length).1)
  | .setChannel name channel data => values.mutate name (fun buffer => buffer.setChannel channel data)
  | .htpMerge name other => values.mutateFrom name other (fun buffer source => buffer.htpMerge source)
  | .blackout name => values.mutate name (fun buffer => buffer.blackout.1)
  | .reset name => values.mutate name (fun buffer => buffer.reset)
  | .destroy name => values.set name none

end Values

end OpenLighting.DmxMemory
