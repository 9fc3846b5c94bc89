import OpenLighting.MemoryBlock

namespace OpenLighting.Io

/-- `IOStack`, with the pool it uses. -/
structure IOStack where
  pool : MemoryBlockPool
  blocks : List MemoryBlock
  deriving DecidableEq

variable (stack : IOStack) (count : Nat)

namespace IOStack

/-- The default constructor. -/
def new : IOStack := ⟨.default, []⟩

def size (stack : IOStack) : Nat := Io.size stack.blocks

/-- `Read(uint8_t*)`: the stack afterwards and the bytes. -/
def read : IOStack × List UInt8 :=
  let (pool, blocks, data) := readLoop stack.pool stack.blocks count
  (⟨pool, blocks⟩, data)

/-- `PrependBlock` puts the block into prepend mode, whatever it held. -/
def prependBlock (pool : MemoryBlockPool) : MemoryBlock × MemoryBlockPool :=
  let (block, pool) := pool.allocate
  (block.seekBack, pool)

/-- The loop of `Write`. The blocks are `front` and then `rest`. -/
def writeLoop : Nat → MemoryBlockPool → MemoryBlock → List MemoryBlock → List UInt8 →
    Option IOStack
  | 0, _, _, _, _ => none
  | fuel + 1, pool, front, rest, data =>
    let (front, written) := front.prepend data
    if written = data.length then some ⟨pool, front :: rest⟩
    else
      let (block, pool) := prependBlock pool
      writeLoop fuel pool block (front :: rest) (data.take (data.length - written))

/-- `Write`. The fuel never runs out. -/
def write (data : List UInt8) : Option IOStack :=
  let fuel := stack.pool.freeBlocks.length + data.length + 1
  match stack.blocks with
  | [] =>
    let (block, pool) := prependBlock stack.pool
    writeLoop fuel pool block [] data
  | front :: rest => writeLoop fuel stack.pool front rest data

def pop : IOStack :=
  let (pool, blocks) := popLoop stack.pool stack.blocks count
  ⟨pool, blocks⟩

/-- The destructor gives the blocks back to the pool. -/
def release (stack : IOStack) : MemoryBlockPool := stack.blocks.foldl .release stack.pool

/-- `MoveToIOQueue`: the stack and the blocks of the queue. -/
def moveToIOQueue (queue : List MemoryBlock) : IOStack × List MemoryBlock :=
  ({ stack with blocks := [] }, queue ++ stack.blocks)

section Loop
variable {pool : MemoryBlockPool} {front : MemoryBlock} {rest : List MemoryBlock}
  {data : List UInt8} {stack : IOStack}

theorem writeLoop_fits (fuel : Nat) (fits : data.length ≤ front.first) :
    writeLoop (fuel + 1) pool front rest data =
      some ⟨pool, (front.prepend data).1 :: rest⟩ := by
  have placed : min data.length front.first = data.length := Nat.min_eq_left fits
  simp [writeLoop, placed]

theorem writeLoop_full (fuel : Nat) (full : front.first < data.length) :
    writeLoop (fuel + 1) pool front rest data =
      writeLoop fuel (prependBlock pool).2 (prependBlock pool).1
        ((front.prepend data).1 :: rest) (data.take (data.length - front.first)) := by
  have placed : min data.length front.first = front.first := Nat.min_eq_right (Nat.le_of_lt full)
  have more : ¬ front.first = data.length := Nat.ne_of_lt full
  simp [writeLoop, placed, more]

/-- Every pass takes a free block or fills a new one. -/
theorem writeLoop_returns {fuel : Nat}
    (enough : pool.freeBlocks.length + (data.length - front.first) < fuel) :
    ∃ stack, writeLoop fuel pool front rest data = some stack := by
  induction fuel generalizing pool front rest data with
  | zero => omega
  | succ fuel ih =>
    by_cases fits : data.length ≤ front.first
    · exact ⟨_, writeLoop_fits fuel fits⟩
    · rw [writeLoop_full fuel (Nat.lt_of_not_le fits)]
      apply ih
      have positive := pool.positive
      show pool.allocate.2.freeBlocks.length + (_ - pool.allocate.1.capacity) < fuel
      rw [List.length_take]
      rcases pool.allocate_cases with ⟨free, first, none⟩ | free
      · rw [none, first, List.length_nil]
        show 0 + (_ - pool.blockSize) < fuel
        omega
      · rw [free, List.length_cons] at enough
        omega

theorem writeLoop_bytes {fuel : Nat} (writes : writeLoop fuel pool front rest data = some stack) :
    bytes stack.blocks = data ++ front.content ++ bytes rest := by
  induction fuel generalizing pool front rest data with
  | zero => cases writes
  | succ fuel ih =>
    by_cases fits : data.length ≤ front.first
    · rw [writeLoop_fits fuel fits] at writes
      cases writes
      have placed : min data.length front.first = data.length := Nat.min_eq_left fits
      simp [placed]
    · have full := Nat.lt_of_not_le fits
      have placed : min data.length front.first = front.first :=
        Nat.min_eq_right (Nat.le_of_lt full)
      rw [writeLoop_full fuel full] at writes
      rw [ih writes]
      show List.take _ data ++ [] ++ bytes ((front.prepend data).1 :: rest) = _
      rw [bytes_cons, MemoryBlock.prepend_content, placed, List.append_nil,
        List.append_assoc, ← List.append_assoc (List.take _ data), List.take_append_drop,
        List.append_assoc]

end Loop

/-- `Write` always returns, with the data in front of what the stack held. -/
theorem write_bytes (data : List UInt8) : ∃ after, stack.write data = some after ∧
      bytes after.blocks = data ++ bytes stack.blocks := by
  obtain ⟨pool, blocks⟩ := stack
  cases blocks with
  | nil =>
    have fewer := pool.allocate_length
    have enough : (prependBlock pool).2.freeBlocks.length +
        (data.length - (prependBlock pool).1.first) <
        pool.freeBlocks.length + data.length + 1 := by
      show pool.allocate.2.freeBlocks.length + _ < _
      omega
    obtain ⟨after, writes⟩ := @writeLoop_returns _ _ [] _ _ enough
    refine ⟨after, writes, ?_⟩
    rw [writeLoop_bytes writes, bytes_nil, List.append_nil]
    rfl
  | cons front rest =>
    have enough : pool.freeBlocks.length + (data.length - front.first) <
        pool.freeBlocks.length + data.length + 1 := by omega
    obtain ⟨after, writes⟩ := @writeLoop_returns _ _ rest _ _ enough
    refine ⟨after, writes, ?_⟩
    rw [writeLoop_bytes writes, bytes_cons, List.append_assoc]

theorem read_size : (stack.read stack.size).2 = bytes stack.blocks :=
  readLoop_size stack.pool stack.blocks

theorem read_data : (stack.read count).2 = (bytes stack.blocks).take count :=
  readLoop_data stack.pool stack.blocks count

theorem pop_bytes : bytes (stack.pop count).blocks = (bytes stack.blocks).drop count :=
  popLoop_bytes stack.pool stack.blocks count

theorem read_bytes : bytes (stack.read count).1.blocks = (bytes stack.blocks).drop count := by
  rw [← popLoop_bytes stack.pool, ← readLoop_popLoop]
  rfl

end IOStack

end OpenLighting.Io
