import OpenLighting.MemoryBlock

namespace OpenLighting.Io

open List

/-- `IOQueue`, with the pool it uses. -/
structure IOQueue where
  pool : MemoryBlockPool
  blocks : List MemoryBlock
  deriving DecidableEq

variable (queue : IOQueue) (pool : MemoryBlockPool) (count : Nat)

namespace IOQueue

/-- The default constructor. -/
def new : IOQueue := ⟨.default, []⟩

def size (queue : IOQueue) : Nat := Io.size queue.blocks

def peek (queue : IOQueue) (count : Nat) : List UInt8 := Io.peek queue.blocks count

/-- The loop of `Write`. The blocks are `front` and then `back`. -/
def writeLoop : Nat → MemoryBlockPool → List MemoryBlock → MemoryBlock → List UInt8 →
    Option IOQueue
  | 0, _, _, _, _ => none
  | fuel + 1, pool, front, back, data =>
    let (back, written) := back.append data
    if written = data.length then some ⟨pool, front ++ [back]⟩
    else
      -- `AppendBlock` takes the block as the pool has it
      let (block, pool) := pool.allocate
      writeLoop fuel pool (front ++ [back]) block (data.drop written)

/-- `Write`. The fuel never runs out. -/
def write (data : List UInt8) : Option IOQueue :=
  let fuel := queue.pool.freeBlocks.length + data.length + 1
  match queue.blocks.getLast? with
  | none =>
    let (block, pool) := queue.pool.allocate
    writeLoop fuel pool [] block data
  | some back => writeLoop fuel queue.pool queue.blocks.dropLast back data

/-- `Read(uint8_t*)`: the queue afterwards and the bytes. -/
def read : IOQueue × List UInt8 :=
  let (pool, blocks, data) := readLoop queue.pool queue.blocks count
  (⟨pool, blocks⟩, data)

def pop : IOQueue :=
  let (pool, blocks) := popLoop queue.pool queue.blocks count
  ⟨pool, blocks⟩

/-- `AppendBlock` with a block of the caller. -/
def appendBlock (block : MemoryBlock) : IOQueue :=
  { queue with blocks := queue.blocks ++ [block] }

def clear : IOQueue := ⟨queue.blocks.foldl .release queue.pool, []⟩

/-- The blocks that a `Write` of `count` bytes takes from the pool. -/
def taken (queue : IOQueue) (count : Nat) : List MemoryBlock :=
  match queue.blocks.getLast? with
  | none =>
    let (block, pool) := queue.pool.allocate
    block :: pool.taken (count - block.room)
  | some back => queue.pool.taken (count - back.room)

section Loop
variable {pool : MemoryBlockPool} {front : List MemoryBlock} {back : MemoryBlock}
  {data : List UInt8} {queue : IOQueue}

theorem writeLoop_fits (fuel : Nat) (fits : data.length ≤ back.room) :
    writeLoop (fuel + 1) pool front back data =
      some ⟨pool, front ++ [(back.append data).1]⟩ := by
  have placed : min data.length back.room = data.length := Nat.min_eq_left fits
  simp [writeLoop, placed]

theorem writeLoop_full (fuel : Nat) (full : back.room < data.length) :
    writeLoop (fuel + 1) pool front back data =
      writeLoop fuel pool.allocate.2 (front ++ [(back.append data).1]) pool.allocate.1
        (data.drop back.room) := by
  have placed : min data.length back.room = back.room := Nat.min_eq_right (Nat.le_of_lt full)
  have more : ¬ back.room = data.length := Nat.ne_of_lt full
  simp [writeLoop, placed, more]

/-- Every pass takes a free block or fills a new one. -/
theorem writeLoop_returns {fuel : Nat}
    (enough : pool.freeBlocks.length + (data.length - back.room) < fuel) :
    ∃ queue, writeLoop fuel pool front back data = some queue := by
  induction fuel generalizing pool front back data with
  | zero => omega
  | succ fuel ih =>
    by_cases fits : data.length ≤ back.room
    · exact ⟨_, writeLoop_fits fuel fits⟩
    · rw [writeLoop_full fuel (Nat.lt_of_not_le fits)]
      apply ih
      have positive := pool.positive
      rw [length_drop]
      rcases pool.allocate_cases with ⟨free, first, rest⟩ | free
      · rw [rest, first, length_nil, MemoryBlock.fresh_room]
        omega
      · rw [free, length_cons] at enough
        omega

/-- What the loop of `Write` leaves. The bytes that the blocks it takes still
hold end up in the queue. -/
structure Wrote (pool : MemoryBlockPool) (front : List MemoryBlock) (back : MemoryBlock)
    (data : List UInt8) (queue : IOQueue) : Prop where
  taken : ∀ count, bytes (pool.taken (data.length + count - back.room)) =
    bytes (pool.taken (data.length - back.room)) ++ bytes (queue.taken count)
  length : (bytes queue.blocks).length = (bytes front).length + back.content.length +
    data.length + (bytes (pool.taken (data.length - back.room))).length
  clean : bytes (pool.taken (data.length - back.room)) = [] →
    bytes queue.blocks = bytes front ++ back.content ++ data

theorem taken_back (count : Nat) :
    (IOQueue.mk pool (front ++ [back])).taken count = pool.taken (count - back.room) := by
  simp [IOQueue.taken]

/-- The data fits into the last block. -/
theorem Wrote.fits (fits : data.length ≤ back.room) :
    Wrote pool front back data ⟨pool, front ++ [(back.append data).1]⟩ := by
  have none : pool.taken (data.length - back.room) = [] := by
    rw [Nat.sub_eq_zero_of_le fits, MemoryBlockPool.taken_zero]
  have whole : data.take (min data.length back.room) = data := by
    rw [Nat.min_eq_left fits, take_length]
  constructor
  · intro count
    have left : data.length + count - back.room = count - (back.room - data.length) := by omega
    rw [none, taken_back, MemoryBlock.append_room, left]
    rfl
  · rw [none]
    simp only [bytes_append, bytes_cons, bytes_nil, MemoryBlock.append_content, whole,
      append_nil, length_append, length_nil]
    omega
  · simp [whole]

/-- The last block is filled up and the loop goes on with the next one. -/
theorem Wrote.next (full : back.room < data.length)
    (rest : Wrote pool.allocate.2 (front ++ [(back.append data).1]) pool.allocate.1
      (data.drop back.room) queue) :
    Wrote pool front back data queue := by
  have placed : min data.length back.room = back.room := Nat.min_eq_right (Nat.le_of_lt full)
  have split : data.take back.room ++ data.drop back.room = data := take_append_drop _ _
  have stale (count : Nat) : bytes (pool.taken (data.length + count - back.room)) =
      pool.allocate.1.content ++ bytes (pool.allocate.2.taken
        ((data.drop back.room).length + count - pool.allocate.1.room)) := by
    have left : (data.drop back.room).length + count = data.length + count - back.room := by
      rw [length_drop]
      omega
    rw [left]
    apply pool.taken_stale
    omega
  have first := stale 0
  rw [Nat.add_zero, Nat.add_zero] at first
  constructor
  · intro count
    rw [stale, rest.taken, first, append_assoc]
  · rw [rest.length, first]
    simp only [bytes_append, bytes_cons, bytes_nil, MemoryBlock.append_content, placed,
      append_nil, length_append, length_take, length_drop]
    omega
  · intro empty
    rw [first, append_eq_nil_iff] at empty
    rw [rest.clean empty.2, empty.1]
    simp only [bytes_append, bytes_cons, bytes_nil, MemoryBlock.append_content, placed,
      append_nil, append_assoc, split]

theorem writeLoop_wrote {fuel : Nat} (writes : writeLoop fuel pool front back data = some queue) :
    Wrote pool front back data queue := by
  induction fuel generalizing pool front back data with
  | zero => cases writes
  | succ fuel ih =>
    by_cases fits : data.length ≤ back.room
    · rw [writeLoop_fits fuel fits] at writes
      cases writes
      exact .fits fits
    · have full := Nat.lt_of_not_le fits
      rw [writeLoop_full fuel full] at writes
      exact .next full (ih writes)

end Loop

section Write
variable {queue after : IOQueue} {data : List UInt8}

theorem write_nil (data : List UInt8) :
    (IOQueue.mk pool []).write data = writeLoop (pool.freeBlocks.length + data.length + 1)
      pool.allocate.2 [] pool.allocate.1 data := rfl

theorem write_back (front : List MemoryBlock) (back : MemoryBlock) (data : List UInt8) :
    (IOQueue.mk pool (front ++ [back])).write data =
      writeLoop (pool.freeBlocks.length + data.length + 1) pool front back data := by
  simp [write]

theorem taken_nil : (IOQueue.mk pool []).taken count =
      pool.allocate.1 :: pool.allocate.2.taken (count - pool.allocate.1.room) := rfl

theorem write_returns (queue : IOQueue) (data : List UInt8) :
    ∃ after, queue.write data = some after := by
  obtain ⟨pool, blocks⟩ := queue
  rcases blocks.eq_nil_or_concat' with rfl | ⟨front, back, rfl⟩
  · rw [write_nil]
    apply writeLoop_returns
    have fewer := pool.allocate_length
    omega
  · rw [write_back]
    apply writeLoop_returns
    omega

/-- What writing the data to a queue leaves, in one `Write` or in several. -/
structure Appended (queue : IOQueue) (data : List UInt8) (after : IOQueue) : Prop where
  taken : ∀ count, bytes (queue.taken (data.length + count)) =
    bytes (queue.taken data.length) ++ bytes (after.taken count)
  length : (bytes after.blocks).length =
    (bytes queue.blocks).length + data.length + (bytes (queue.taken data.length)).length
  clean : bytes (queue.taken data.length) = [] →
    bytes after.blocks = bytes queue.blocks ++ data

theorem write_appended (writes : queue.write data = some after) : Appended queue data after := by
  obtain ⟨pool, blocks⟩ := queue
  rcases blocks.eq_nil_or_concat' with rfl | ⟨front, back, rfl⟩
  · rw [write_nil] at writes
    have wrote := writeLoop_wrote writes
    constructor
    · intro count
      rw [taken_nil, taken_nil, bytes_cons, bytes_cons, wrote.taken, append_assoc]
    · rw [taken_nil, bytes_cons, length_append, wrote.length]
      simp only [bytes_nil, length_nil]
      omega
    · intro clean
      rw [taken_nil, bytes_cons, append_eq_nil_iff] at clean
      rw [wrote.clean clean.2, clean.1, append_nil]
  · rw [write_back] at writes
    have wrote := writeLoop_wrote writes
    constructor
    · intro count
      rw [taken_back, taken_back, wrote.taken]
    · rw [taken_back, wrote.length]
      simp
    · intro clean
      rw [taken_back] at clean
      rw [wrote.clean clean]
      simp

theorem Appended.trans {middle : IOQueue} {more : List UInt8} (one : Appended queue data middle)
    (two : Appended middle more after) : Appended queue (data ++ more) after := by
  have first := one.taken more.length
  constructor
  · intro count
    rw [length_append, Nat.add_assoc, one.taken, two.taken, first, append_assoc]
  · rw [two.length, one.length, length_append, first, length_append]
    omega
  · intro clean
    rw [length_append, first, append_eq_nil_iff] at clean
    rw [two.clean clean.2, one.clean clean.1, append_assoc]

/-- The data alone was appended exactly where the blocks taken were empty. -/
theorem Appended.bytes_iff (wrote : Appended queue data after) :
    bytes after.blocks = bytes queue.blocks ++ data ↔
      ∀ block ∈ queue.taken data.length, block.empty := by
  rw [← bytes_eq_nil_iff]
  constructor
  · intro same
    have length := wrote.length
    rw [same, length_append] at length
    apply eq_nil_of_length_eq_zero
    omega
  · exact wrote.clean

end Write

theorem read_data : (queue.read count).2 = (bytes queue.blocks).take count :=
  readLoop_data queue.pool queue.blocks count

theorem pop_bytes : bytes (queue.pop count).blocks = (bytes queue.blocks).drop count :=
  popLoop_bytes queue.pool queue.blocks count

theorem read_bytes : bytes (queue.read count).1.blocks = (bytes queue.blocks).drop count := by
  rw [← popLoop_bytes queue.pool, ← readLoop_popLoop]
  rfl

end IOQueue

end OpenLighting.Io
