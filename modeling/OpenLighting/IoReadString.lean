import OpenLighting.IoQueue
import OpenLighting.IoStack

/- `Read` into a string. -/
namespace OpenLighting.Io

/-- The loop of `Read(std::string*)`, the same in queues and stacks: what is appended to the string, and
how many bytes are still asked for in the end. -/
def readStringLoop (pool : MemoryBlockPool) :
    List MemoryBlock → Nat → MemoryBlockPool × List MemoryBlock × List UInt8 × Nat
  | [], remaining => (pool, [], [], remaining)
  | block :: rest, remaining =>
    if remaining = 0 then (pool, block :: rest, [], 0) else
      let bytesToCopy := min block.size remaining
      let appended := block.content.take bytesToCopy
      -- the bytes stay in the block
      if block.empty then
        let (pool, blocks, output, left) :=
          readStringLoop (pool.release block) rest (remaining - bytesToCopy)
        (pool, blocks, appended ++ output, left)
      else
        let (pool, blocks, output, left) := readStringLoop pool rest (remaining - bytesToCopy)
        (pool, block :: blocks, appended ++ output, left)

/-- `Read(std::string*)` of a queue: the queue afterwards, the string and the number of bytes. -/
def IOQueue.readString (queue : IOQueue) (output : List UInt8) (count : Nat) :
    IOQueue × List UInt8 × Nat :=
  let (pool, blocks, data, remaining) := readStringLoop queue.pool queue.blocks count
  (⟨pool, blocks⟩, output ++ data, count - remaining)

def IOStack.readString (stack : IOStack) (output : List UInt8) (count : Nat) :
    IOStack × List UInt8 × Nat :=
  let (pool, blocks, data, remaining) := readStringLoop stack.pool stack.blocks count
  (⟨pool, blocks⟩, output ++ data, count - remaining)

/-- The string gets the bytes that the other `Read` returns, and the same bytes are left. -/
structure ReadsAgree (output : List UInt8) (string : List MemoryBlock × List UInt8 × Nat)
    (array : List MemoryBlock × List UInt8) : Prop where
  appended : string.2.1 = output ++ array.2
  returned : string.2.2 = array.2.length
  left : bytes string.1 = bytes array.1

def IOQueue.ReadsAgree (queue : IOQueue) (output : List UInt8) (count : Nat) : Prop :=
  Io.ReadsAgree output ((queue.readString output count).1.blocks, (queue.readString output count).2)
    ((queue.read count).1.blocks, (queue.read count).2)

def IOStack.ReadsAgree (stack : IOStack) (output : List UInt8) (count : Nat) : Prop :=
  Io.ReadsAgree output ((stack.readString output count).1.blocks, (stack.readString output count).2)
    ((stack.read count).1.blocks, (stack.read count).2)

section

variable (pool : MemoryBlockPool) (blocks : List MemoryBlock) (count : Nat)
include pool blocks count

theorem readStringLoop_data :
    (readStringLoop pool blocks count).2.2.1 = (bytes blocks).take count := by
  induction blocks generalizing pool count with
  | nil => simp [readStringLoop]
  | cons block rest ih =>
    have copied : block.content.take (min block.size count) = block.copy count := by
      rw [Nat.min_comm, ← List.take_take, MemoryBlock.size, List.take_length]
      rfl
    have length : (block.copy count).length = min block.size count := by
      rw [Nat.min_comm]
      exact List.length_take
    rw [take_copy, readStringLoop]
    split
    · rename_i none
      simp [none, MemoryBlock.copy]
    · dsimp only
      rw [copied, ← length]
      split
      · rw [← ih (pool.release _)]
      · rw [← ih pool]

theorem readStringLoop_remaining :
    (readStringLoop pool blocks count).2.2.2 = count - (bytes blocks).length := by
  induction blocks generalizing pool count with
  | nil => rfl
  | cons block rest ih =>
    have left : count - (block.content ++ bytes rest).length =
        count - min block.size count - (bytes rest).length := by
      rw [List.length_append, MemoryBlock.size]
      omega
    rw [readStringLoop, bytes_cons, left]
    split
    · rename_i none
      rw [none, Nat.zero_sub, Nat.zero_sub]
    · split
      · exact ih _ _
      · exact ih _ _

/-- No byte is removed. -/
theorem readStringLoop_bytes : bytes (readStringLoop pool blocks count).2.1 = bytes blocks := by
  induction blocks generalizing pool count with
  | nil => rfl
  | cons block rest ih =>
    rw [readStringLoop]
    split
    · rfl
    · split
      · rename_i empty
        rw [MemoryBlock.empty, List.isEmpty_iff] at empty
        rw [ih, bytes_cons, empty, List.nil_append]
      · rw [bytes_cons, bytes_cons, ih]

end

/-- Nothing is removed exactly if nothing is to be read. -/
theorem drop_eq_self_iff (blocks : List MemoryBlock) (count : Nat) :
    bytes blocks = (bytes blocks).drop count ↔ count = 0 ∨ size blocks = 0 := by
  rw [size_eq]
  constructor
  · intro same
    have length := congrArg List.length same
    rw [List.length_drop] at length
    omega
  · rintro (rfl | none)
    · rfl
    · rw [List.eq_nil_of_length_eq_zero none, List.drop_nil]

/-- A string gets the right bytes in any case. -/
theorem loops_agree_iff (pool : MemoryBlockPool) (blocks : List MemoryBlock) (output : List UInt8)
    (count : Nat) :
    ReadsAgree output
        ((readStringLoop pool blocks count).2.1, output ++ (readStringLoop pool blocks count).2.2.1,
          count - (readStringLoop pool blocks count).2.2.2)
        (readLoop pool blocks count).2 ↔ count = 0 ∨ size blocks = 0 := by
  have kept := readStringLoop_bytes pool blocks count
  have dropped : bytes (readLoop pool blocks count).2.1 = (bytes blocks).drop count := by
    rw [← popLoop_bytes pool, ← readLoop_popLoop]
  rw [← drop_eq_self_iff]
  constructor
  · rintro ⟨_, _, left⟩
    exact kept.symm.trans (left.trans dropped)
  · intro same
    refine ⟨?_, ?_, kept.trans (same.trans dropped.symm)⟩
    · rw [readStringLoop_data, readLoop_data]
    · dsimp only
      rw [readStringLoop_remaining, readLoop_data, List.length_take]
      omega

/-- The two `Read`s of a queue and those of a stack agree exactly if there is nothing to be read: what a
string gets is left in the blocks. -/
theorem readString_agrees_iff (pool : MemoryBlockPool) (blocks : List MemoryBlock)
    (output : List UInt8) (count : Nat) :
    ((IOQueue.mk pool blocks).ReadsAgree output count ↔ count = 0 ∨ size blocks = 0) ∧
      ((IOStack.mk pool blocks).ReadsAgree output count ↔ count = 0 ∨ size blocks = 0) := by
  constructor
  · exact loops_agree_iff pool blocks output count
  · exact loops_agree_iff pool blocks output count

def twoBytes : IOQueue := ⟨.default, [⟨1024, 0, [7, 8], by decide⟩]⟩

/-- The first byte is read again and again. -/
theorem twoBytes_not_agree :
    ¬ twoBytes.ReadsAgree [] 1 ∧ (twoBytes.readString [] 1).1 = twoBytes := by
  refine ⟨?_, rfl⟩
  intro agrees
  exact absurd agrees.left (by decide)

end OpenLighting.Io
