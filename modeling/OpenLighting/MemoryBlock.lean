import Mathlib.Data.List.Basic

namespace OpenLighting.Io

/-- `MemoryBlock`. `content` are the bytes between `m_first` and `m_last`, the
memory outside them is not read. -/
structure MemoryBlock where
  capacity : Nat
  first : Nat
  content : List UInt8
  within : first + content.length ≤ capacity
  deriving DecidableEq

namespace MemoryBlock

/-- The constructor. -/
def fresh (size : Nat) : MemoryBlock := ⟨size, 0, [], Nat.zero_le size⟩

def seekBack (block : MemoryBlock) : MemoryBlock :=
  ⟨block.capacity, block.capacity, [], Nat.le_refl _⟩

def size (block : MemoryBlock) : Nat := block.content.length

def empty (block : MemoryBlock) : Bool := block.content.isEmpty

/-- `m_data_end - m_last`. -/
def room (block : MemoryBlock) : Nat := block.capacity - (block.first + block.content.length)

/-- `Append`, with the number of bytes written. -/
def append (block : MemoryBlock) (data : List UInt8) : MemoryBlock × Nat :=
  let bytesToWrite := min data.length block.room
  (⟨block.capacity, block.first, block.content ++ data.take bytesToWrite, by
      have within := block.within
      simp only [List.length_append, List.length_take, bytesToWrite, room]
      omega⟩,
    bytesToWrite)

/-- `Prepend`, which writes the end of the data. -/
def prepend (block : MemoryBlock) (data : List UInt8) : MemoryBlock × Nat :=
  let bytesToWrite := min data.length block.first
  (⟨block.capacity, block.first - bytesToWrite,
      data.drop (data.length - bytesToWrite) ++ block.content, by
      have within := block.within
      simp only [List.length_append, List.length_drop, bytesToWrite]
      omega⟩,
    bytesToWrite)

def copy (block : MemoryBlock) (length : Nat) : List UInt8 := block.content.take length

/-- `PopFront`, with the number of bytes removed. -/
def popFront (block : MemoryBlock) (length : Nat) : MemoryBlock × Nat :=
  let bytesToPop := min length block.content.length
  (⟨block.capacity, block.first + bytesToPop, block.content.drop bytesToPop, by
      have within := block.within
      simp only [List.length_drop, bytesToPop]
      omega⟩,
    bytesToPop)

@[simp] theorem fresh_room (size : Nat) : (fresh size).room = size := by
  simp [fresh, room]

section

variable (block : MemoryBlock) (data : List UInt8)
include block data

@[simp] theorem append_written : (block.append data).2 = min data.length block.room := rfl

@[simp] theorem append_content :
    (block.append data).1.content = block.content ++ data.take (min data.length block.room) :=
  rfl

@[simp] theorem append_room : (block.append data).1.room = block.room - data.length := by
  simp only [append, room, List.length_append, List.length_take]
  omega

@[simp] theorem prepend_written : (block.prepend data).2 = min data.length block.first := rfl

@[simp] theorem prepend_content :
    (block.prepend data).1.content =
      data.drop (data.length - min data.length block.first) ++ block.content := rfl

end

end MemoryBlock

/-- `MemoryBlockPool`. The free blocks are a FIFO and keep what they held when
they were released. -/
structure MemoryBlockPool where
  blockSize : Nat
  freeBlocks : List MemoryBlock
  blocksAllocated : Nat
  positive : 0 < blockSize
  deriving DecidableEq

variable (pool : MemoryBlockPool)

namespace MemoryBlockPool

/-- The constructor with `DEFAULT_BLOCK_SIZE`. -/
def default : MemoryBlockPool := ⟨1024, [], 0, by decide⟩

def allocate : MemoryBlock × MemoryBlockPool :=
  match pool.freeBlocks with
  | [] => (.fresh pool.blockSize, { pool with blocksAllocated := pool.blocksAllocated + 1 })
  | block :: rest => (block, { pool with freeBlocks := rest })

def release (block : MemoryBlock) : MemoryBlockPool :=
  { pool with freeBlocks := pool.freeBlocks ++ [block] }

def purge : MemoryBlockPool :=
  { pool with
    freeBlocks := []
    blocksAllocated := pool.blocksAllocated - pool.freeBlocks.length }

/-- The free blocks that a queue takes for `count` bytes it has no room for. -/
def takenFrom : Nat → List MemoryBlock → List MemoryBlock
  | _, [] => []
  | count, block :: rest =>
    if count = 0 then [] else block :: takenFrom (count - block.room) rest

def taken (count : Nat) : List MemoryBlock :=
  takenFrom count pool.freeBlocks

theorem taken_zero : pool.taken 0 = [] := by
  unfold taken
  cases pool.freeBlocks <;> rfl

/-- How a pool gives out a block. -/
theorem allocate_cases : (pool.freeBlocks = [] ∧ pool.allocate.1 = .fresh pool.blockSize ∧
      pool.allocate.2.freeBlocks = []) ∨
    pool.freeBlocks = pool.allocate.1 :: pool.allocate.2.freeBlocks := by
  unfold allocate
  split
  · rename_i none
    exact .inl ⟨none, rfl, none⟩
  · rename_i some
    exact .inr some

theorem allocate_length : pool.allocate.2.freeBlocks.length ≤ pool.freeBlocks.length := by
  rcases pool.allocate_cases with ⟨_, _, rest⟩ | free
  · rw [rest]
    exact Nat.zero_le _
  · rw [free, List.length_cons]
    omega

/-- The bytes left in the blocks a queue takes are those of the first block and
of the blocks taken after it. -/
theorem taken_stale {count : Nat} (more : count ≠ 0) :
    (pool.taken count).flatMap MemoryBlock.content = pool.allocate.1.content ++
      (pool.allocate.2.taken (count - pool.allocate.1.room)).flatMap MemoryBlock.content := by
  rcases pool.allocate_cases with ⟨free, first, rest⟩ | free
  · rw [taken, taken, free, rest, first]
    rfl
  · rw [taken, free, takenFrom, if_neg more]
    rfl

end MemoryBlockPool

variable (blocks : List MemoryBlock)

/-- The bytes held by a list of blocks. -/
def bytes : List UInt8 := blocks.flatMap MemoryBlock.content

@[simp] theorem bytes_append (front back : List MemoryBlock) :
    bytes (front ++ back) = bytes front ++ bytes back := List.flatMap_append

@[simp] theorem bytes_cons (block : MemoryBlock) (rest : List MemoryBlock) :
    bytes (block :: rest) = block.content ++ bytes rest := List.flatMap_cons

@[simp] theorem bytes_nil : bytes [] = [] := rfl

theorem bytes_eq_nil_iff : bytes blocks = [] ↔ ∀ block ∈ blocks, block.empty := by
  simp [bytes, List.flatMap_eq_nil_iff, MemoryBlock.empty]

/-- `Size` of a queue or a stack. -/
def size (blocks : List MemoryBlock) : Nat :=
  blocks.foldr (fun block total => block.size + total) 0

theorem size_eq : size blocks = (bytes blocks).length := by
  induction blocks with
  | nil => rfl
  | cons block rest ih =>
    rw [bytes_cons, List.length_append, ← ih]
    rfl

def peek : List MemoryBlock → Nat → List UInt8
  | [], _ => []
  | block :: rest, count =>
    if count = 0 then [] else
      let copied := block.copy count
      copied ++ peek rest (count - copied.length)

/-- The loop of `Read(uint8_t*)`, the same in queues and stacks: a block that has
been read to its end goes back to the pool. -/
def readLoop (pool : MemoryBlockPool) :
    List MemoryBlock → Nat → MemoryBlockPool × List MemoryBlock × List UInt8
  | [], _ => (pool, [], [])
  | block :: rest, count =>
    if count = 0 then (pool, block :: rest, []) else
      let copied := block.copy count
      let popped := (block.popFront copied.length).1
      if popped.empty then
        let (pool, blocks, data) := readLoop (pool.release popped) rest (count - copied.length)
        (pool, blocks, copied ++ data)
      else
        let (pool, blocks, data) := readLoop pool rest (count - copied.length)
        (pool, popped :: blocks, copied ++ data)

/-- The loop of `Pop`, the same in queues and stacks. -/
def popLoop (pool : MemoryBlockPool) :
    List MemoryBlock → Nat → MemoryBlockPool × List MemoryBlock
  | [], _ => (pool, [])
  | block :: rest, count =>
    if count = 0 then (pool, block :: rest) else
      let (popped, removed) := block.popFront count
      if popped.empty then popLoop (pool.release popped) rest (count - removed)
      else
        let (pool, blocks) := popLoop pool rest (count - removed)
        (pool, popped :: blocks)

/-- `AsIOVec`: the bytes that each entry points at. -/
def asIOVec : List (List UInt8) := blocks.map MemoryBlock.content

theorem asIOVec_flatten : (asIOVec blocks).flatten = bytes blocks :=
  List.flatMap_def.symm

theorem take_copy (block : MemoryBlock) (rest : List MemoryBlock) (count : Nat) :
    (bytes (block :: rest)).take count =
      block.copy count ++ (bytes rest).take (count - (block.copy count).length) := by
  rw [bytes_cons, List.take_append, MemoryBlock.copy, List.length_take]
  congr 2
  omega

theorem peek_eq (count : Nat) : peek blocks count = (bytes blocks).take count := by
  induction blocks generalizing count with
  | nil => simp [peek]
  | cons block rest ih =>
    rw [take_copy, ← ih, peek]
    split
    · rename_i none
      rw [none, ih]
      simp [MemoryBlock.copy]
    · rfl

theorem readLoop_data (count : Nat) :
    (readLoop pool blocks count).2.2 = (bytes blocks).take count := by
  induction blocks generalizing pool count with
  | nil => simp [readLoop]
  | cons block rest ih =>
    rw [take_copy, readLoop]
    split
    · rename_i none
      simp [none, MemoryBlock.copy]
    · dsimp only
      split
      · rw [← ih (pool.release _)]
      · rw [← ih pool]

theorem popFront_copy (block : MemoryBlock) (count : Nat) :
    (block.popFront (block.copy count).length).1 = (block.popFront count).1 := by
  have same : min (min count block.content.length) block.content.length =
      min count block.content.length := by omega
  unfold MemoryBlock.popFront MemoryBlock.copy
  dsimp only
  congr 1
  · rw [List.length_take, same]
  · rw [List.length_take, same]

theorem readLoop_popLoop (count : Nat) :
    ((readLoop pool blocks count).1, (readLoop pool blocks count).2.1) =
      popLoop pool blocks count := by
  induction blocks generalizing pool count with
  | nil => rfl
  | cons block rest ih =>
    have removed : (block.popFront count).2 = (block.copy count).length := List.length_take.symm
    rw [readLoop, popLoop]
    split
    · rfl
    · dsimp only
      rw [popFront_copy, removed]
      split
      · rw [← ih]
      · rw [← ih]

theorem popLoop_bytes (count : Nat) :
    bytes (popLoop pool blocks count).2 = (bytes blocks).drop count := by
  induction blocks generalizing pool count with
  | nil => rw [popLoop, bytes_nil, List.drop_nil]
  | cons block rest ih =>
    have content : (block.popFront count).1.content = block.content.drop count := by
      change block.content.drop (min count block.content.length) = _
      by_cases short : count ≤ block.content.length
      · rw [Nat.min_eq_left short]
      · rw [Nat.min_eq_right (by omega), List.drop_length, List.drop_of_length_le (by omega)]
    have left : count - (block.popFront count).2 = count - block.content.length := by
      change count - min count block.content.length = _
      omega
    rw [popLoop, bytes_cons, List.drop_append]
    split
    · rename_i none
      rw [none, Nat.zero_sub, List.drop_zero, List.drop_zero, bytes_cons]
    · dsimp only
      rw [left]
      split
      · rename_i empty
        rw [MemoryBlock.empty, content, List.isEmpty_iff] at empty
        rw [ih, empty, List.nil_append]
      · rw [bytes_cons, content, ih]

/-- Peeking a whole queue, and reading one. -/
theorem peek_size : peek blocks (size blocks) = bytes blocks := by
  rw [peek_eq, size_eq, List.take_length]

theorem readLoop_size : (readLoop pool blocks (size blocks)).2.2 = bytes blocks := by
  rw [readLoop_data, size_eq, List.take_length]

end OpenLighting.Io
