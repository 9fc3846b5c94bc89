import Mathlib.Data.UInt
import OpenLighting.FiniteMap
import OpenLighting.IoQueue
import OpenLighting.IoStack
import OpenLighting.TransitionSystem

namespace OpenLighting.Io

open TransitionSystem

/-- What is done to the queues and the stacks that share a pool. -/
inductive Operation where
  | newQueue (queue : Nat)
  | write (queue : Nat) (data : List UInt8)
  | read (queue count : Nat)
  | peek (queue count : Nat)
  | pop (queue count : Nat)
  | clear (queue : Nat)
  | appendBlock (queue : Nat) (block : MemoryBlock)
  | deleteQueue (queue : Nat)
  | newStack (stack : Nat)
  | writeStack (stack : Nat) (data : List UInt8)
  | readStack (stack count : Nat)
  | popStack (stack count : Nat)
  | moveToIOQueue (stack queue : Nat)
  | deleteStack (stack : Nat)
  | purge

/-- The queues and stacks of one pool, each with its blocks. `output` has what the reads and
peeks returned; `hung` records a `Write` that does not return. -/
structure World where
  pool : MemoryBlockPool
  ioQueues : AList (fun _ : Nat => List MemoryBlock)
  ioStacks : AList (fun _ : Nat => List MemoryBlock)
  output : List (List UInt8)
  hung : Bool

variable (state : World) (number : Nat)

namespace World

def initial (pool : MemoryBlockPool) : World := ⟨pool, ∅, ∅, [], false⟩

def onQueue (method : IOQueue → Option (IOQueue × List (List UInt8))) : World :=
  match state.ioQueues.lookup number with
  | none => state
  | some blocks =>
    match method ⟨state.pool, blocks⟩ with
    | none => { state with hung := true }
    | some (queue, output) =>
      { state with
        pool := queue.pool
        ioQueues := state.ioQueues.insert number queue.blocks
        output := state.output ++ output }

def onStack (method : IOStack → Option (IOStack × List (List UInt8))) : World :=
  match state.ioStacks.lookup number with
  | none => state
  | some blocks =>
    match method ⟨state.pool, blocks⟩ with
    | none => { state with hung := true }
    | some (stack, output) =>
      { state with
        pool := stack.pool
        ioStacks := state.ioStacks.insert number stack.blocks
        output := state.output ++ output }

def newQueue : World :=
  match state.ioQueues.lookup number with
  | none => { state with ioQueues := state.ioQueues.insert number [] }
  | some _ => state

def newStack : World :=
  match state.ioStacks.lookup number with
  | none => { state with ioStacks := state.ioStacks.insert number [] }
  | some _ => state

/-- `~IOQueue` of a queue that does not own the pool. -/
def deleteQueue : World :=
  match state.ioQueues.lookup number with
  | none => state
  | some blocks =>
    { state with
      pool := (IOQueue.mk state.pool blocks).clear.pool
      ioQueues := state.ioQueues.erase number }

def deleteStack : World :=
  match state.ioStacks.lookup number with
  | none => state
  | some blocks =>
    { state with
      pool := (IOStack.mk state.pool blocks).release
      ioStacks := state.ioStacks.erase number }

def moveToIOQueue (state : World) (stack queue : Nat) : World :=
  match state.ioStacks.lookup stack, state.ioQueues.lookup queue with
  | some blocks, some behind =>
    let (after, moved) := (IOStack.mk state.pool blocks).moveToIOQueue behind
    { state with
      ioStacks := state.ioStacks.insert stack after.blocks
      ioQueues := state.ioQueues.insert queue moved }
  | _, _ => state

def step (state : World) : Operation → World
  | .newQueue queue => state.newQueue queue
  | .write queue data =>
    state.onQueue queue (fun queue => (queue.write data).map (fun after => (after, [])))
  | .read queue count =>
    state.onQueue queue (fun queue => some ((queue.read count).1, [(queue.read count).2]))
  | .peek queue count =>
    state.onQueue queue (fun queue => some (queue, [queue.peek count]))
  | .pop queue count => state.onQueue queue (fun queue => some (queue.pop count, []))
  | .clear queue => state.onQueue queue (fun queue => some (queue.clear, []))
  | .appendBlock queue block =>
    state.onQueue queue (fun queue => some (queue.appendBlock block, []))
  | .deleteQueue queue => state.deleteQueue queue
  | .newStack stack => state.newStack stack
  | .writeStack stack data =>
    state.onStack stack (fun stack => (stack.write data).map (fun after => (after, [])))
  | .readStack stack count =>
    state.onStack stack (fun stack => some ((stack.read count).1, [(stack.read count).2]))
  | .popStack stack count => state.onStack stack (fun stack => some (stack.pop count, []))
  | .moveToIOQueue stack queue => state.moveToIOQueue stack queue
  | .deleteStack stack => state.deleteStack stack
  | .purge => { state with pool := state.pool.purge }

end World

/-- The byte lists that the queues and the stacks stand for. -/
structure Reference where
  ioQueues : AList (fun _ : Nat => List UInt8)
  ioStacks : AList (fun _ : Nat => List UInt8)
  output : List (List UInt8)

variable (state : Reference)

namespace Reference

def initial : Reference := ⟨∅, ∅, []⟩

variable (number : Nat) (method : List UInt8 → List UInt8 × List (List UInt8))

def onQueue : Reference :=
  match state.ioQueues.lookup number with
  | none => state
  | some contents =>
    { state with
      ioQueues := state.ioQueues.insert number (method contents).1
      output := state.output ++ (method contents).2 }

def onStack : Reference :=
  match state.ioStacks.lookup number with
  | none => state
  | some contents =>
    { state with
      ioStacks := state.ioStacks.insert number (method contents).1
      output := state.output ++ (method contents).2 }

def newQueue : Reference :=
  match state.ioQueues.lookup number with
  | none => { state with ioQueues := state.ioQueues.insert number [] }
  | some _ => state

def newStack : Reference :=
  match state.ioStacks.lookup number with
  | none => { state with ioStacks := state.ioStacks.insert number [] }
  | some _ => state

def moveToIOQueue (stack queue : Nat) : Reference :=
  match state.ioStacks.lookup stack, state.ioQueues.lookup queue with
  | some contents, some before =>
    { state with
      ioStacks := state.ioStacks.insert stack []
      ioQueues := state.ioQueues.insert queue (before ++ contents) }
  | _, _ => state

def step (state : Reference) : Operation → Reference
  | .newQueue queue => state.newQueue queue
  | .write queue data => state.onQueue queue (fun contents => (contents ++ data, []))
  | .read queue count =>
    state.onQueue queue (fun contents => (contents.drop count, [contents.take count]))
  | .peek queue count => state.onQueue queue (fun contents => (contents, [contents.take count]))
  | .pop queue count => state.onQueue queue (fun contents => (contents.drop count, []))
  | .clear queue => state.onQueue queue (fun _ => ([], []))
  | .appendBlock queue block =>
    state.onQueue queue (fun contents => (contents ++ block.content, []))
  | .deleteQueue queue => { state with ioQueues := state.ioQueues.erase queue }
  | .newStack stack => state.newStack stack
  | .writeStack stack data => state.onStack stack (fun contents => (data ++ contents, []))
  | .readStack stack count =>
    state.onStack stack (fun contents => (contents.drop count, [contents.take count]))
  | .popStack stack count => state.onStack stack (fun contents => (contents.drop count, []))
  | .moveToIOQueue stack queue => state.moveToIOQueue stack queue
  | .deleteStack stack => { state with ioStacks := state.ioStacks.erase stack }
  | .purge => state

end Reference

namespace World

/-- `Size`, an unsigned 32-bit sum. -/
def sizeOf (blocks : List MemoryBlock) : Nat := Io.size blocks % 2 ^ 32

/-- The queues have the contents of the reference, and what was returned and what `Size`,
`Peek` and `AsIOVec` would return is what the reference has. -/
structure Agrees (state : World) (reference : Reference) : Prop where
  returned : state.hung = false
  output : state.output = reference.output
  contents : ∀ queue, (state.ioQueues.lookup queue).map bytes = reference.ioQueues.lookup queue
  sizes : ∀ queue blocks, state.ioQueues.lookup queue = some blocks →
    ∃ contents, reference.ioQueues.lookup queue = some contents ∧
      sizeOf blocks = contents.length ∧ (∀ count, peek blocks count = contents.take count) ∧
      (asIOVec blocks).flatten = contents

/-- A `Write` takes no free block that still holds data, and no queue gets more bytes than
can be counted. -/
def Clean (state : World) : Operation → Prop
  | .write queue data => ∀ blocks, state.ioQueues.lookup queue = some blocks →
      (∀ block ∈ (IOQueue.mk state.pool blocks).taken data.length, block.empty = true) ∧
        (bytes blocks).length + data.length < 2 ^ 32
  | .appendBlock queue block => ∀ blocks, state.ioQueues.lookup queue = some blocks →
      (bytes blocks).length + block.size < 2 ^ 32
  | .moveToIOQueue stack queue => ∀ top blocks, state.ioStacks.lookup stack = some top →
      state.ioQueues.lookup queue = some blocks → (bytes blocks).length + (bytes top).length < 2 ^ 32
  | _ => True

/-- The simulation between the blocks and the byte lists. -/
structure Refines (state : World) (reference : Reference) : Prop where
  returned : state.hung = false
  output : state.output = reference.output
  queues : ∀ queue, (state.ioQueues.lookup queue).map bytes = reference.ioQueues.lookup queue
  piles : ∀ stack, (state.ioStacks.lookup stack).map bytes = reference.ioStacks.lookup stack
  bounded : ∀ queue blocks, state.ioQueues.lookup queue = some blocks →
    (bytes blocks).length < 2 ^ 32

section Simulation

variable {state : World} {reference : Reference}

theorem Refines.agrees (refines : Refines state reference) : Agrees state reference := by
  refine ⟨refines.returned, refines.output, refines.queues, ?_⟩
  intro queue blocks found
  refine ⟨bytes blocks, ?_, ?_, peek_eq blocks, asIOVec_flatten blocks⟩
  · rw [← refines.queues queue, found]
    rfl
  · have bound := refines.bounded queue blocks found
    unfold sizeOf
    rw [size_eq, Nat.mod_eq_of_lt bound]

variable {map : AList (fun _ : Nat => List MemoryBlock)} {other : AList (fun _ : Nat => List UInt8)}
  {number : Nat} {abstract : List UInt8 → List UInt8 × List (List UInt8)}

section
variable (same : ∀ number, (map.lookup number).map bytes = other.lookup number)
include same

/-- Two maps that correspond still do after corresponding insertions. -/
theorem map_lookup_insert (key : Nat) (blocks : List MemoryBlock) (number : Nat) :
    ((map.insert key blocks).lookup number).map bytes =
      (other.insert key (bytes blocks)).lookup number := by
  rw [FiniteMap.lookup_insert_eq, FiniteMap.lookup_insert_eq]
  split
  · rfl
  · exact same number

theorem map_lookup_erase (key number : Nat) :
    ((map.erase key).lookup number).map bytes = (other.erase key).lookup number := by
  rw [FiniteMap.lookup_erase_eq, FiniteMap.lookup_erase_eq]
  split
  · rfl
  · exact same number

/-- The second map may also forget what the first one does not have. -/
theorem map_lookup_erase_missing {key : Nat} (missing : map.lookup key = none) (number : Nat) :
    (map.lookup number).map bytes = (other.erase key).lookup number := by
  rw [← map_lookup_erase same, FiniteMap.lookup_erase_eq]
  split
  · rename_i here
    rw [here, missing]
  · rfl

theorem lookup_mirror_none (missing : map.lookup number = none) : other.lookup number = none := by
  rw [← same number, missing]
  rfl

theorem lookup_mirror_some {blocks : List MemoryBlock} (found : map.lookup number = some blocks) :
    other.lookup number = some (bytes blocks) := by
  rw [← same number, found]
  rfl

end

theorem bounded_insert
    (bounded : ∀ queue blocks, map.lookup queue = some blocks → (bytes blocks).length < 2 ^ 32)
    (key : Nat) {added : List MemoryBlock} (small : (bytes added).length < 2 ^ 32) (queue : Nat)
    (blocks : List MemoryBlock) (found : (map.insert key added).lookup queue = some blocks) :
    (bytes blocks).length < 2 ^ 32 := by
  rw [FiniteMap.lookup_insert_eq] at found
  split at found
  · cases found
    exact small
  · exact bounded queue blocks found

variable {method : IOQueue → Option (IOQueue × List (List UInt8))}

section
variable (refines : Refines state reference)
include refines

/-- A method of a queue that does to the bytes what the reference does. -/
theorem Refines.onQueue (number : Nat)
    (follows : ∀ blocks, state.ioQueues.lookup number = some blocks →
      ∃ queue, method ⟨state.pool, blocks⟩ = some (queue, (abstract (bytes blocks)).2) ∧
      bytes queue.blocks = (abstract (bytes blocks)).1 ∧ (bytes queue.blocks).length < 2 ^ 32) :
    Refines (state.onQueue number method) (reference.onQueue number abstract) := by
  unfold World.onQueue Reference.onQueue
  cases found : state.ioQueues.lookup number with
  | none =>
    rw [lookup_mirror_none refines.queues found]
    exact refines
  | some blocks =>
    obtain ⟨queue, returns, same, small⟩ := follows blocks found
    rw [lookup_mirror_some refines.queues found]
    dsimp only
    rw [returns, ← same]
    refine ⟨refines.returned, ?_, ?_, refines.piles, ?_⟩
    · exact congrArg (· ++ _) refines.output
    · exact map_lookup_insert refines.queues number queue.blocks
    · exact bounded_insert refines.bounded number small

theorem Refines.onStack (number : Nat) {method : IOStack → Option (IOStack × List (List UInt8))}
    (follows : ∀ blocks, state.ioStacks.lookup number = some blocks →
      ∃ stack, method ⟨state.pool, blocks⟩ = some (stack, (abstract (bytes blocks)).2) ∧
        bytes stack.blocks = (abstract (bytes blocks)).1) :
    Refines (state.onStack number method) (reference.onStack number abstract) := by
  unfold World.onStack Reference.onStack
  cases found : state.ioStacks.lookup number with
  | none =>
    rw [lookup_mirror_none refines.piles found]
    exact refines
  | some blocks =>
    obtain ⟨stack, returns, same⟩ := follows blocks found
    rw [lookup_mirror_some refines.piles found]
    dsimp only
    rw [returns, ← same]
    refine ⟨refines.returned, ?_, refines.queues, ?_, refines.bounded⟩
    · exact congrArg (· ++ _) refines.output
    · exact map_lookup_insert refines.piles number stack.blocks

theorem Refines.write (queue : Nat) (data : List UInt8) (clean : Clean state (.write queue data)) :
    Refines (state.step (.write queue data)) (reference.step (.write queue data)) := by
  rw [World.step, Reference.step]
  apply refines.onQueue
  intro blocks found
  obtain ⟨empty, fits⟩ := clean blocks found
  obtain ⟨after, writes⟩ := IOQueue.write_returns ⟨state.pool, blocks⟩ data
  have same := (IOQueue.write_appended writes).bytes_iff.mpr empty
  refine ⟨after, ?_, same, ?_⟩
  · rw [writes]
    rfl
  · rw [same, List.length_append]
    exact fits

theorem Refines.moveToIOQueue (stack queue : Nat) (clean : Clean state (.moveToIOQueue stack queue)) :
    Refines (state.moveToIOQueue stack queue) (reference.moveToIOQueue stack queue) := by
  unfold World.moveToIOQueue Reference.moveToIOQueue
  cases top : state.ioStacks.lookup stack with
  | none =>
    rw [lookup_mirror_none refines.piles top]
    exact refines
  | some blocks =>
    rw [lookup_mirror_some refines.piles top]
    cases behind : state.ioQueues.lookup queue with
    | none =>
      rw [lookup_mirror_none refines.queues behind]
      exact refines
    | some before =>
      rw [lookup_mirror_some refines.queues behind]
      have fits := clean blocks before top behind
      dsimp only
      rw [← bytes_append]
      refine ⟨refines.returned, refines.output, ?_, ?_, ?_⟩
      · exact map_lookup_insert refines.queues queue (before ++ blocks)
      · exact map_lookup_insert refines.piles stack []
      · apply bounded_insert refines.bounded
        change (bytes (before ++ blocks)).length < 2 ^ 32
        rw [bytes_append, List.length_append]
        exact fits

theorem Refines.newQueue (queue : Nat) :
    Refines (state.newQueue queue) (reference.newQueue queue) := by
  unfold World.newQueue Reference.newQueue
  cases found : state.ioQueues.lookup queue with
  | none =>
    rw [lookup_mirror_none refines.queues found]
    refine ⟨refines.returned, refines.output, ?_, refines.piles, ?_⟩
    · exact map_lookup_insert refines.queues queue []
    · exact bounded_insert refines.bounded queue (Nat.two_pow_pos 32)
  | some blocks =>
    rw [lookup_mirror_some refines.queues found]
    exact refines

theorem Refines.newStack (stack : Nat) :
    Refines (state.newStack stack) (reference.newStack stack) := by
  unfold World.newStack Reference.newStack
  cases found : state.ioStacks.lookup stack with
  | none =>
    rw [lookup_mirror_none refines.piles found]
    exact { refines with piles := map_lookup_insert refines.piles stack [] }
  | some blocks =>
    rw [lookup_mirror_some refines.piles found]
    exact refines

theorem Refines.deleteQueue (queue : Nat) :
    Refines (state.deleteQueue queue) (reference.step (.deleteQueue queue)) := by
  have queues := map_lookup_erase refines.queues queue
  unfold World.deleteQueue
  cases found : state.ioQueues.lookup queue with
  | none =>
    exact { refines with queues := map_lookup_erase_missing refines.queues found }
  | some blocks =>
    refine ⟨refines.returned, refines.output, queues, refines.piles, ?_⟩
    intro number kept present
    rw [FiniteMap.lookup_erase_eq] at present
    split at present
    · cases present
    · exact refines.bounded number kept present

theorem Refines.deleteStack (stack : Nat) :
    Refines (state.deleteStack stack) (reference.step (.deleteStack stack)) := by
  have piles := map_lookup_erase refines.piles stack
  unfold World.deleteStack
  cases found : state.ioStacks.lookup stack with
  | none =>
    exact { refines with piles := map_lookup_erase_missing refines.piles found }
  | some blocks => exact { refines with piles := piles }

end

theorem Refines.step (refines : Refines state reference) (operation : Operation)
    (clean : Clean state operation) :
    Refines (state.step operation) (reference.step operation) := by
  have shorter (queue count : Nat) (blocks : List MemoryBlock)
      (found : state.ioQueues.lookup queue = some blocks) :
      ((bytes blocks).drop count).length < 2 ^ 32 := by
    have bound := refines.bounded queue blocks found
    rw [List.length_drop]
    omega
  cases operation with
  | newQueue queue => exact refines.newQueue queue
  | write queue data => exact refines.write queue data clean
  | read queue count =>
    rw [World.step, Reference.step]
    apply refines.onQueue
    intro blocks found
    refine ⟨((IOQueue.mk state.pool blocks).read count).1, ?_, IOQueue.read_bytes _ count, ?_⟩
    · rw [IOQueue.read_data]
    · rw [IOQueue.read_bytes]
      exact shorter queue count blocks found
  | peek queue count =>
    rw [World.step, Reference.step]
    apply refines.onQueue
    intro blocks found
    refine ⟨⟨state.pool, blocks⟩, ?_, rfl, refines.bounded queue blocks found⟩
    dsimp only [IOQueue.peek]
    rw [peek_eq]
  | pop queue count =>
    rw [World.step, Reference.step]
    apply refines.onQueue
    intro blocks found
    refine ⟨_, rfl, IOQueue.pop_bytes _ count, ?_⟩
    rw [IOQueue.pop_bytes]
    exact shorter queue count blocks found
  | clear queue =>
    rw [World.step, Reference.step]
    apply refines.onQueue
    intro blocks _
    exact ⟨_, rfl, rfl, Nat.two_pow_pos 32⟩
  | appendBlock queue block =>
    rw [World.step, Reference.step]
    apply refines.onQueue
    intro blocks found
    have same : bytes (blocks ++ [block]) = bytes blocks ++ block.content := by
      rw [bytes_append, bytes_cons, bytes_nil, List.append_nil]
    refine ⟨_, rfl, same, ?_⟩
    change (bytes (blocks ++ [block])).length < 2 ^ 32
    rw [same, List.length_append]
    exact clean blocks found
  | deleteQueue queue => exact refines.deleteQueue queue
  | newStack stack => exact refines.newStack stack
  | writeStack stack data =>
    rw [World.step, Reference.step]
    apply refines.onStack
    intro blocks _
    obtain ⟨after, writes, same⟩ := IOStack.write_bytes ⟨state.pool, blocks⟩ data
    refine ⟨after, ?_, same⟩
    rw [writes]
    rfl
  | readStack stack count =>
    rw [World.step, Reference.step]
    apply refines.onStack
    intro blocks _
    refine ⟨((IOStack.mk state.pool blocks).read count).1, ?_, IOStack.read_bytes _ count⟩
    rw [IOStack.read_data]
  | popStack stack count =>
    rw [World.step, Reference.step]
    apply refines.onStack
    intro blocks _
    exact ⟨_, rfl, IOStack.pop_bytes _ count⟩
  | moveToIOQueue stack queue => exact refines.moveToIOQueue stack queue clean
  | deleteStack stack => exact refines.deleteStack stack
  | purge =>
    exact { refines with }

/-- A queue that agrees with the reference is not larger than `Size` can tell. -/
theorem Agrees.bounded (agrees : Agrees state reference) {queue : Nat} {contents : List UInt8}
    (found : reference.ioQueues.lookup queue = some contents) : contents.length < 2 ^ 32 := by
  have same := agrees.contents queue
  rw [found] at same
  obtain ⟨blocks, present, _⟩ := Option.map_eq_some_iff.mp same
  obtain ⟨others, also, size, _⟩ := agrees.sizes queue blocks present
  rw [found] at also
  cases also
  rw [← size]
  exact Nat.mod_lt _ (Nat.two_pow_pos 32)

/-- What agreement after a method says of the method. -/
theorem Refines.agrees_onQueue (refines : Refines state reference) {blocks : List MemoryBlock}
    {queue : IOQueue} {output : List (List UInt8)}
    (found : state.ioQueues.lookup number = some blocks)
    (returns : method ⟨state.pool, blocks⟩ = some (queue, output))
    (agrees : Agrees (state.onQueue number method) (reference.onQueue number abstract)) :
    bytes queue.blocks = (abstract (bytes blocks)).1 ∧
      (abstract (bytes blocks)).1.length < 2 ^ 32 := by
  unfold World.onQueue Reference.onQueue at agrees
  rw [found, lookup_mirror_some refines.queues found] at agrees
  dsimp only at agrees
  rw [returns] at agrees
  have present : (reference.ioQueues.insert number (abstract (bytes blocks)).1).lookup number =
      some (abstract (bytes blocks)).1 := AList.lookup_insert _
  refine ⟨?_, agrees.bounded present⟩
  have same := agrees.contents number
  rw [AList.lookup_insert, AList.lookup_insert] at same
  exact Option.some.inj same

theorem Refines.spoiled (refines : Refines state reference) (operation : Operation)
    (stale : ¬ Clean state operation) : ¬ Agrees (state.step operation) (reference.step operation) := by
  intro agrees
  apply stale
  cases operation with
  | write queue data =>
    intro blocks found
    obtain ⟨after, writes⟩ := IOQueue.write_returns ⟨state.pool, blocks⟩ data
    rw [World.step, Reference.step] at agrees
    have same := refines.agrees_onQueue found (by rw [writes]; rfl) agrees
    rw [List.length_append] at same
    exact ⟨(IOQueue.write_appended writes).bytes_iff.mp same.1, same.2⟩
  | appendBlock queue block =>
    intro blocks found
    rw [World.step, Reference.step] at agrees
    have same := refines.agrees_onQueue found rfl agrees
    rw [List.length_append] at same
    exact same.2
  | moveToIOQueue stack queue =>
    intro top blocks above behind
    have small := @Agrees.bounded _ _ agrees queue (bytes blocks ++ bytes top) (by
      change (reference.moveToIOQueue stack queue).ioQueues.lookup queue = _
      unfold Reference.moveToIOQueue
      rw [lookup_mirror_some refines.piles above, lookup_mirror_some refines.queues behind]
      exact AList.lookup_insert _)
    rw [List.length_append] at small
    exact small
  | newQueue queue | read queue count | peek queue count | pop queue count | clear queue
  | deleteQueue queue | newStack stack | writeStack stack data | readStack stack count
  | popStack stack count | deleteStack stack | purge => trivial

theorem refines_initial (pool : MemoryBlockPool) : Refines (initial pool) .initial := by
  refine ⟨rfl, rfl, fun _ => rfl, fun _ => rfl, ?_⟩
  intro queue blocks found
  cases found

end Simulation

/-- In every run on a pool each `Write` returns and each queue is the list of bytes of the
reference exactly if no `Write` takes a free block that still holds data and no queue gets more
bytes than can be counted. -/
theorem queues_agree_iff (pool : MemoryBlockPool) (operations : List Operation) :
    (∀ count, Agrees (run step (initial pool) (operations.take count))
      (run Reference.step .initial (operations.take count))) ↔
      Permitted step Clean (initial pool) operations :=
  @related_iff_permitted _ _ _ step Reference.step Clean Refines Agrees (fun _ _ => Refines.agrees)
    (fun _ _ operation refines => refines.step operation)
    (fun _ _ operation refines => refines.spoiled operation) _ _ _ (refines_initial pool)

/-- A byte is written, the queue is cleared and another byte is written: both are there. -/
theorem cleared_byte_returns :
    ¬ Agrees (run step (initial .default) [.newQueue 0, .write 0 [1], .clear 0, .write 0 [2]])
      (run Reference.step .initial [.newQueue 0, .write 0 [1], .clear 0, .write 0 [2]]) := by
  intro agrees
  exact absurd (agrees.contents 0) (by decide +kernel)

end World

end OpenLighting.Io
