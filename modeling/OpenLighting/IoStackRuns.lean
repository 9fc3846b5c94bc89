import OpenLighting.IoSharing

/- Stacks as lists of bytes, whatever else is done with the blocks of their pool. -/
namespace OpenLighting.Io.World

open TransitionSystem

/-- The stacks have the contents of the reference. Of the queues it is only known which there are: a
block that a queue takes from the pool can still hold data. -/
structure StacksRefine (state : World) (reference : Reference) : Prop where
  returned : state.hung = false
  piles : ∀ stack, (state.ioStacks.lookup stack).map bytes = reference.ioStacks.lookup stack
  present : ∀ queue,
    (state.ioQueues.lookup queue).isSome = (reference.ioQueues.lookup queue).isSome

/-- A stack has the contents of the reference, a read returns the first of them, and a move puts all of
them behind what the queue holds. -/
structure StackAgrees (state : World) (reference : Reference) (stack : Nat) : Prop where
  returned : state.hung = false
  contents : (state.ioStacks.lookup stack).map bytes = reference.ioStacks.lookup stack
  read : ∀ count contents, reference.ioStacks.lookup stack = some contents →
    (state.step (.readStack stack count)).output = state.output ++ [contents.take count]
  moved : ∀ queue blocks contents, state.ioQueues.lookup queue = some blocks →
    reference.ioStacks.lookup stack = some contents →
    ((state.step (.moveToIOQueue stack queue)).ioQueues.lookup queue).map bytes =
      some (bytes blocks ++ contents)

section Simulation

variable {state : World} {reference : Reference}

/-- Two maps with the same keys still have them after insertions of one key. -/
theorem present_insert {α β : Type} {map : AList (fun _ : Nat => α)} {other : AList (fun _ : Nat => β)}
    (present : ∀ number, (map.lookup number).isSome = (other.lookup number).isSome) (key : Nat)
    (value : α) (mirror : β) (number : Nat) :
    ((map.insert key value).lookup number).isSome =
      ((other.insert key mirror).lookup number).isSome := by
  rw [FiniteMap.lookup_insert_eq, FiniteMap.lookup_insert_eq]
  split
  · rfl
  · exact present number

theorem present_erase {α β : Type} {map : AList (fun _ : Nat => α)} {other : AList (fun _ : Nat => β)}
    (present : ∀ number, (map.lookup number).isSome = (other.lookup number).isSome)
    (key number : Nat) :
    ((map.erase key).lookup number).isSome = ((other.erase key).lookup number).isSome := by
  rw [FiniteMap.lookup_erase_eq, FiniteMap.lookup_erase_eq]
  split
  · rfl
  · exact present number

section
variable (refines : StacksRefine state reference)
include refines

theorem StacksRefine.missingQueue {queue : Nat} (missing : state.ioQueues.lookup queue = none) :
    reference.ioQueues.lookup queue = none := by
  have same := refines.present queue
  rw [missing] at same
  exact Option.isNone_iff_eq_none.mp (by rw [← Option.not_isSome, ← same]; rfl)

theorem StacksRefine.foundQueue {queue : Nat} {blocks : List MemoryBlock}
    (found : state.ioQueues.lookup queue = some blocks) :
    ∃ contents, reference.ioQueues.lookup queue = some contents := by
  have same := refines.present queue
  rw [found] at same
  exact Option.isSome_iff_exists.mp same.symm

theorem StacksRefine.onQueue (number : Nat)
    {method : IOQueue → Option (IOQueue × List (List UInt8))}
    (abstract : List UInt8 → List UInt8 × List (List UInt8))
    (returns : ∀ queue, (method queue).isSome) :
    StacksRefine (state.onQueue number method) (reference.onQueue number abstract) := by
  unfold World.onQueue Reference.onQueue
  cases found : state.ioQueues.lookup number with
  | none =>
    rw [refines.missingQueue found]
    exact refines
  | some blocks =>
    obtain ⟨contents, mirror⟩ := refines.foundQueue found
    obtain ⟨result, done⟩ := Option.isSome_iff_exists.mp (returns ⟨state.pool, blocks⟩)
    rw [mirror]
    dsimp only
    rw [done]
    exact ⟨refines.returned, refines.piles, present_insert refines.present number _ _⟩

theorem StacksRefine.onStack (number : Nat)
    {method : IOStack → Option (IOStack × List (List UInt8))}
    {abstract : List UInt8 → List UInt8 × List (List UInt8)}
    (follows : ∀ blocks, ∃ result, method ⟨state.pool, blocks⟩ = some result ∧
      bytes result.1.blocks = (abstract (bytes blocks)).1) :
    StacksRefine (state.onStack number method) (reference.onStack number abstract) := by
  unfold World.onStack Reference.onStack
  cases found : state.ioStacks.lookup number with
  | none =>
    rw [lookup_mirror_none refines.piles found]
    exact refines
  | some blocks =>
    obtain ⟨result, returns, same⟩ := follows blocks
    rw [lookup_mirror_some refines.piles found]
    dsimp only
    rw [returns, ← same]
    exact ⟨refines.returned, map_lookup_insert refines.piles number result.1.blocks,
      refines.present⟩

theorem StacksRefine.moveToIOQueue (stack queue : Nat) :
    StacksRefine (state.moveToIOQueue stack queue) (reference.moveToIOQueue stack queue) := by
  unfold World.moveToIOQueue Reference.moveToIOQueue
  cases top : state.ioStacks.lookup stack with
  | none =>
    rw [lookup_mirror_none refines.piles top]
    exact refines
  | some blocks =>
    rw [lookup_mirror_some refines.piles top]
    cases behind : state.ioQueues.lookup queue with
    | none =>
      rw [refines.missingQueue behind]
      exact refines
    | some before =>
      obtain ⟨contents, mirror⟩ := refines.foundQueue behind
      rw [mirror]
      exact ⟨refines.returned, map_lookup_insert refines.piles stack [],
        present_insert refines.present queue _ _⟩

theorem StacksRefine.newQueue (queue : Nat) :
    StacksRefine (state.newQueue queue) (reference.newQueue queue) := by
  unfold World.newQueue Reference.newQueue
  cases found : state.ioQueues.lookup queue with
  | none =>
    rw [refines.missingQueue found]
    exact ⟨refines.returned, refines.piles, present_insert refines.present queue _ _⟩
  | some blocks =>
    obtain ⟨contents, mirror⟩ := refines.foundQueue found
    rw [mirror]
    exact refines

theorem StacksRefine.newStack (stack : Nat) :
    StacksRefine (state.newStack stack) (reference.newStack stack) := by
  unfold World.newStack Reference.newStack
  cases found : state.ioStacks.lookup stack with
  | none =>
    rw [lookup_mirror_none refines.piles found]
    exact ⟨refines.returned, map_lookup_insert refines.piles stack [], refines.present⟩
  | some blocks =>
    rw [lookup_mirror_some refines.piles found]
    exact refines

theorem StacksRefine.deleteQueue (queue : Nat) :
    StacksRefine (state.deleteQueue queue) (reference.step (.deleteQueue queue)) := by
  have present := present_erase refines.present queue
  unfold World.deleteQueue
  cases found : state.ioQueues.lookup queue with
  | none =>
    refine ⟨refines.returned, refines.piles, ?_⟩
    intro number
    change (state.ioQueues.lookup number).isSome =
      ((reference.ioQueues.erase queue).lookup number).isSome
    rw [← present number, FiniteMap.lookup_erase_eq]
    split
    · rename_i same
      rw [same, found]
    · rfl
  | some blocks => exact ⟨refines.returned, refines.piles, present⟩

theorem StacksRefine.deleteStack (stack : Nat) :
    StacksRefine (state.deleteStack stack) (reference.step (.deleteStack stack)) := by
  have piles := map_lookup_erase refines.piles stack
  unfold World.deleteStack
  cases found : state.ioStacks.lookup stack with
  | none =>
    exact ⟨refines.returned, map_lookup_erase_missing refines.piles found, refines.present⟩
  | some blocks => exact ⟨refines.returned, piles, refines.present⟩

end

theorem StacksRefine.step (refines : StacksRefine state reference) (operation : Operation) :
    StacksRefine (state.step operation) (reference.step operation) := by
  cases operation with
  | newQueue queue => exact refines.newQueue queue
  | write queue data =>
    rw [World.step, Reference.step]
    apply refines.onQueue
    intro queue
    obtain ⟨after, writes⟩ := IOQueue.write_returns queue data
    rw [writes]
    rfl
  | read queue count | peek queue count | pop queue count | clear queue
  | appendBlock queue block =>
    rw [World.step, Reference.step]
    exact refines.onQueue queue _ (fun _ => rfl)
  | deleteQueue queue => exact refines.deleteQueue queue
  | newStack stack => exact refines.newStack stack
  | writeStack stack data =>
    rw [World.step, Reference.step]
    apply refines.onStack
    intro blocks
    obtain ⟨after, writes, same⟩ := IOStack.write_bytes ⟨state.pool, blocks⟩ data
    exact ⟨(after, []), by rw [writes]; rfl, same⟩
  | readStack stack count =>
    rw [World.step, Reference.step]
    apply refines.onStack
    intro blocks
    exact ⟨_, rfl, IOStack.read_bytes _ count⟩
  | popStack stack count =>
    rw [World.step, Reference.step]
    apply refines.onStack
    intro blocks
    exact ⟨_, rfl, IOStack.pop_bytes _ count⟩
  | moveToIOQueue stack queue => exact refines.moveToIOQueue stack queue
  | deleteStack stack => exact refines.deleteStack stack
  | purge => exact { refines with }

theorem StacksRefine.agrees (refines : StacksRefine state reference) (stack : Nat) :
    StackAgrees state reference stack := by
  have found : ∀ {contents}, reference.ioStacks.lookup stack = some contents →
      ∃ blocks, state.ioStacks.lookup stack = some blocks ∧ bytes blocks = contents := by
    intro contents there
    rw [← refines.piles stack] at there
    exact Option.map_eq_some_iff.mp there
  refine ⟨refines.returned, refines.piles stack, ?_, ?_⟩
  · intro count contents there
    obtain ⟨blocks, here, same⟩ := found there
    rw [World.step, World.onStack, here]
    dsimp only
    rw [IOStack.read_data, ← same]
  · intro queue before contents behind there
    obtain ⟨blocks, here, same⟩ := found there
    rw [World.step, World.moveToIOQueue, here, behind]
    rw [FiniteMap.lookup_insert_eq, if_pos rfl, ← same, ← bytes_append]
    rfl

end Simulation

/-- In every run on a pool every stack is the list of bytes of the reference, whatever the queues and
the other stacks do with the blocks in between. -/
theorem stacks_agree (pool : MemoryBlockPool) (operations : List Operation) (stack : Nat) :
    StackAgrees (run World.step (initial pool) operations)
      (run Reference.step .initial operations) stack := by
  have start : StacksRefine (initial pool) .initial :=
    ⟨rfl, fun _ => rfl, fun _ => rfl⟩
  have refines : StacksRefine (run World.step (initial pool) operations)
      (run Reference.step .initial operations) := by
    refine run_related ?_ start (permitted_true Reference.step .initial operations)
    intro state reference operation refines _
    exact refines.step operation
  exact refines.agrees stack

end OpenLighting.Io.World
