import Mathlib.Data.List.Sort
import OpenLighting.TransitionSystem

namespace OpenLighting.SelectServer

open TransitionSystem List

/-- The sets with which a descriptor can be registered: `m_read_descriptors`,
`m_connected_read_descriptors` and `m_write_descriptors`. -/
inductive Registration where
  | read
  | connected
  | write
  deriving DecidableEq

/-- What `CheckDescriptors` has put into its queues. -/
inductive Call where
  | performRead (registration : Registration) (descriptor : Nat)
  | performWrite (descriptor : Nat)
  | onClose (descriptor : Nat)
  | delete (descriptor : Nat)
  deriving DecidableEq

def Call.target : Call → Option (Registration × Nat)
  | .performRead registration descriptor => some (registration, descriptor)
  | .performWrite descriptor => some (.write, descriptor)
  | .onClose descriptor => some (.connected, descriptor)
  | .delete _ => none

/-- What a run tells: successful registrations and removals, and callbacks. -/
inductive DescriptorEntry where
  | added (registration : Registration) (descriptor : Nat)
  | removed (registration : Registration) (descriptor : Nat)
  | called (registration : Registration) (descriptor : Nat)
  deriving DecidableEq

/-- The descriptors of a `SelectServer`. `waiting` are the ready descriptors whose callbacks
are not yet called; a pass that starts inside a callback has its own before the others. -/
structure Descriptors where
  readDescriptor : Nat → Int
  writeDescriptor : Nat → Int
  readDescriptors : List Nat
  connectedReadDescriptors : List (Nat × Bool)
  writeDescriptors : List Nat
  waiting : List Call
  log : List DescriptorEntry

def invalidDescriptor : Int := -1

namespace Descriptors

/-- A server at which nothing is registered. -/
def initial (readDescriptor writeDescriptor : Nat → Int) : Descriptors :=
  ⟨readDescriptor, writeDescriptor, [], [], [], [], []⟩

variable (state : Descriptors) (descriptor : Nat)

def validReadDescriptor : Bool :=
  state.readDescriptor descriptor != invalidDescriptor

def validWriteDescriptor : Bool :=
  state.writeDescriptor descriptor != invalidDescriptor

def record (entry : DescriptorEntry) : Descriptors :=
  { state with log := state.log ++ [entry] }

/-- `AddReadDescriptor(ReadFileDescriptor*)`. The set is ordered by address. -/
def addReadDescriptor : Descriptors :=
  if !state.validReadDescriptor descriptor then state
  else if descriptor ∈ state.readDescriptors then state
  else
    { state with
      readDescriptors := state.readDescriptors.orderedInsert (· ≤ ·) descriptor }.record
        (.added .read descriptor)

/-- `AddReadDescriptor(ConnectedDescriptor*, bool)`. The set is ordered by the number of the
descriptor, and holds no two descriptors with one number. -/
def addConnectedDescriptor (deleteOnClose : Bool) : Descriptors :=
  if !state.validReadDescriptor descriptor then state
  else if ∃ entry ∈ state.connectedReadDescriptors,
      state.readDescriptor entry.1 = state.readDescriptor descriptor then state
  else
    { state with
      connectedReadDescriptors := state.connectedReadDescriptors.orderedInsert
        (fun one two => state.readDescriptor one.1 ≤ state.readDescriptor two.1)
        (descriptor, deleteOnClose) }.record (.added .connected descriptor)

def addWriteDescriptor : Descriptors :=
  if !state.validWriteDescriptor descriptor then state
  else if descriptor ∈ state.writeDescriptors then state
  else
    { state with
      writeDescriptors := state.writeDescriptors.orderedInsert (· ≤ ·) descriptor }.record
        (.added .write descriptor)

/-- `RemoveReadDescriptor(ReadFileDescriptor*)`, which returns whether it removed anything. -/
def removeReadDescriptor : Descriptors × Bool :=
  if descriptor ∈ state.readDescriptors then
    ({ state with readDescriptors := state.readDescriptors.filter (· ≠ descriptor) }.record
      (.removed .read descriptor), true)
  else (state, false)

/-- `RemoveReadDescriptor(ConnectedDescriptor*)`, by the number of the descriptor. -/
def removeConnectedDescriptor : Descriptors × Bool :=
  if ∃ entry ∈ state.connectedReadDescriptors,
      state.readDescriptor entry.1 = state.readDescriptor descriptor then
    ({ state with
        connectedReadDescriptors := state.connectedReadDescriptors.filter
          (fun entry => state.readDescriptor entry.1 ≠ state.readDescriptor descriptor) }.record
      (.removed .connected descriptor), true)
  else (state, false)

def removeWriteDescriptor : Descriptors × Bool :=
  if descriptor ∈ state.writeDescriptors then
    ({ state with writeDescriptors := state.writeDescriptors.filter (· ≠ descriptor) }.record
      (.removed .write descriptor), true)
  else (state, false)

/-- What `AddDescriptorsToSet` does to the sets: descriptors that were closed without being
removed are dropped. -/
def addDescriptorsToSet : Descriptors :=
  { state with
    readDescriptors := state.readDescriptors.filter state.validReadDescriptor
    writeDescriptors := state.writeDescriptors.filter state.validWriteDescriptor }

/-- What `CheckDescriptors` finds about a connected descriptor. -/
def isClosed (readable : Int → Bool) (closed : Nat → Bool) (entry : Nat × Bool) : Bool :=
  if !state.validReadDescriptor entry.1 then true
  else readable (state.readDescriptor entry.1) && closed entry.1

def isReady (readable : Int → Bool) (closed : Nat → Bool) (entry : Nat × Bool) : Bool :=
  if !state.validReadDescriptor entry.1 then false
  else readable (state.readDescriptor entry.1) && !closed entry.1

/-- The handling of a closed descriptor. -/
def closeCalls (entry : Nat × Bool) : List Call :=
  .onClose entry.1 :: if entry.2 then [.delete entry.1] else []

/-- The queues that `CheckDescriptors` fills, in the order in which it empties them. -/
def ready (readable writable : Int → Bool) (closed : Nat → Bool) : List Call :=
  (state.readDescriptors.filter (fun descriptor =>
      readable (state.readDescriptor descriptor))).map (.performRead .read) ++
    (state.connectedReadDescriptors.filter (state.isReady readable closed)).map
      (fun entry => .performRead .connected entry.1) ++
    (state.writeDescriptors.filter (fun descriptor =>
      writable (state.writeDescriptor descriptor))).map .performWrite ++
    (state.connectedReadDescriptors.filter (state.isClosed readable closed)).flatMap closeCalls

/-- `CheckDescriptors` up to the first callback, with the sets that `select` returned and the
answers of `IsClosed`. -/
def checkDescriptors (readable writable : Int → Bool) (closed : Nat → Bool) : Descriptors :=
  { state with
    connectedReadDescriptors := state.connectedReadDescriptors.filter
      (fun entry => !state.isClosed readable closed entry)
    waiting := state.ready readable writable closed ++ state.waiting }

/-- The next callback of a pass. `handler` says whether `TransferOnClose` returns one. -/
def next (handler : Bool) : Descriptors :=
  match state.waiting with
  | [] => state
  | .performRead registration descriptor :: rest =>
    { state with waiting := rest }.record (.called registration descriptor)
  | .performWrite descriptor :: rest =>
    { state with waiting := rest }.record (.called .write descriptor)
  | .onClose descriptor :: rest =>
    if handler then { state with waiting := rest }.record (.called .connected descriptor)
    else { state with waiting := rest }
  | .delete descriptor :: rest =>
    { state with
      waiting := rest
      readDescriptor := Function.update state.readDescriptor descriptor invalidDescriptor
      writeDescriptor := Function.update state.writeDescriptor descriptor invalidDescriptor }

end Descriptors

/-- What happens to the descriptors, inside the callbacks and outside. `reopen` is any change
of a descriptor's numbers, by `Close` for one. -/
inductive DescriptorAction where
  | reopen (descriptor : Nat) (read write : Int)
  | addReadDescriptor (descriptor : Nat)
  | addConnectedDescriptor (descriptor : Nat) (deleteOnClose : Bool)
  | addWriteDescriptor (descriptor : Nat)
  | removeReadDescriptor (descriptor : Nat)
  | removeConnectedDescriptor (descriptor : Nat)
  | removeWriteDescriptor (descriptor : Nat)
  | addDescriptorsToSet
  | checkDescriptors (readable writable : Int → Bool) (closed : Nat → Bool)
  | next (handler : Bool)

def Descriptors.step (state : Descriptors) : DescriptorAction → Descriptors
  | .reopen descriptor read write =>
    { state with
      readDescriptor := Function.update state.readDescriptor descriptor read
      writeDescriptor := Function.update state.writeDescriptor descriptor write }
  | .addReadDescriptor descriptor => state.addReadDescriptor descriptor
  | .addConnectedDescriptor descriptor deleteOnClose =>
    state.addConnectedDescriptor descriptor deleteOnClose
  | .addWriteDescriptor descriptor => state.addWriteDescriptor descriptor
  | .removeReadDescriptor descriptor => (state.removeReadDescriptor descriptor).1
  | .removeConnectedDescriptor descriptor => (state.removeConnectedDescriptor descriptor).1
  | .removeWriteDescriptor descriptor => (state.removeWriteDescriptor descriptor).1
  | .addDescriptorsToSet => state.addDescriptorsToSet
  | .checkDescriptors readable writable closed => state.checkDescriptors readable writable closed
  | .next handler => state.next handler

/-- The descriptor was removed, and not added since. -/
def Gone (log : List DescriptorEntry) (registration : Registration) (descriptor : Nat) : Prop :=
  ∃ before after, log = before ++ .removed registration descriptor :: after ∧
    .added registration descriptor ∉ after

/-- A callback is not called for a descriptor that is gone. -/
def CallBacked (past : List DescriptorEntry) : DescriptorEntry → Prop
  | .called registration descriptor => ¬ Gone past registration descriptor
  | _ => True

namespace Descriptors

def registered (state : Descriptors) : Registration → Nat → Prop
  | .read, descriptor => descriptor ∈ state.readDescriptors
  | .connected, descriptor => ∃ entry ∈ state.connectedReadDescriptors, entry.1 = descriptor
  | .write, descriptor => descriptor ∈ state.writeDescriptors

def pending (state : Descriptors) (registration : Registration) (descriptor : Nat) : Prop :=
  ∃ call ∈ state.waiting, call.target = some (registration, descriptor)

/-- The descriptor has a part in this or a later pass. -/
def active (state : Descriptors) (registration : Registration) (descriptor : Nat) : Prop :=
  state.registered registration descriptor ∨ state.pending registration descriptor

/-- No registered descriptor is removed while it waits in a queue of `CheckDescriptors`. -/
def Undisturbed (state : Descriptors) : DescriptorAction → Prop
  | .removeReadDescriptor descriptor =>
    descriptor ∈ state.readDescriptors → ¬ state.pending .read descriptor
  | .removeConnectedDescriptor descriptor =>
    (∃ entry ∈ state.connectedReadDescriptors,
      state.readDescriptor entry.1 = state.readDescriptor descriptor) →
      ¬ state.pending .connected descriptor
  | .removeWriteDescriptor descriptor =>
    descriptor ∈ state.writeDescriptors → ¬ state.pending .write descriptor
  | _ => True

/-- What is gone is neither registered nor waiting. -/
structure Quiet (state : Descriptors) : Prop where
  present : ∀ registration descriptor, state.active registration descriptor →
    ¬ Gone state.log registration descriptor
  backed : Justified CallBacked state.log

end Descriptors

theorem gone_append {log : List DescriptorEntry} {entry : DescriptorEntry}
    {registration : Registration} {descriptor : Nat} :
    Gone (log ++ [entry]) registration descriptor ↔
      (Gone log registration descriptor ∧ entry ≠ .added registration descriptor) ∨
        entry = .removed registration descriptor := by
  constructor
  · intro gone
    obtain ⟨before, after, split, absent⟩ := gone
    rcases after.eq_nil_or_concat' with rfl | ⟨init, last, rfl⟩
    · right
      exact head_eq_of_cons_eq (append_inj' split rfl).2
    · have longer : log ++ [entry] =
          (before ++ .removed registration descriptor :: init) ++ [last] := by
        rw [split, append_assoc, cons_append]
      obtain ⟨same, final⟩ := append_inj' longer rfl
      rw [mem_append, mem_singleton, not_or] at absent
      left
      refine ⟨⟨before, init, same, absent.1⟩, ?_⟩
      rw [head_eq_of_cons_eq final]
      exact fun equal => absent.2 equal.symm
  · rintro (⟨⟨before, after, split, absent⟩, other⟩ | rfl)
    · refine ⟨before, after ++ [entry], ?_, ?_⟩
      · rw [split, append_assoc, cons_append]
      · rw [mem_append, mem_singleton, not_or]
        exact ⟨absent, fun equal => other equal.symm⟩
    · exact ⟨log, [], rfl, not_mem_nil⟩

namespace Descriptors

section Invariant

variable {state after : Descriptors} {registration : Registration} {descriptor : Nat}

theorem Quiet.keep (quiet : Quiet state) (log : after.log = state.log)
    (active : ∀ other number, after.active other number → state.active other number) :
    Quiet after := by
  refine ⟨?_, ?_⟩
  · intro other number there
    rw [log]
    exact quiet.present other number (active other number there)
  · rw [log]
    exact quiet.backed

theorem Quiet.added (quiet : Quiet state)
    (log : after.log = state.log ++ [.added registration descriptor])
    (active : ∀ other number, after.active other number →
      state.active other number ∨ (other = registration ∧ number = descriptor)) : Quiet after := by
  refine ⟨?_, ?_⟩
  · intro other number there
    rw [log, gone_append]
    rintro (⟨gone, different⟩ | impossible)
    · rcases active other number there with before | ⟨rfl, rfl⟩
      · exact quiet.present other number before gone
      · exact different rfl
    · cases impossible
  · rw [log]
    exact quiet.backed.append trivial

theorem Quiet.removed (quiet : Quiet state)
    (log : after.log = state.log ++ [.removed registration descriptor])
    (active : ∀ other number, after.active other number → state.active other number)
    (inactive : ¬ after.active registration descriptor) : Quiet after := by
  refine ⟨?_, ?_⟩
  · intro other number there
    rw [log, gone_append]
    rintro (gone | same)
    · exact quiet.present other number (active other number there) gone.1
    · cases same
      exact inactive there
  · rw [log]
    exact quiet.backed.append trivial

theorem Quiet.called (quiet : Quiet state)
    (log : after.log = state.log ++ [.called registration descriptor])
    (active : ∀ other number, after.active other number → state.active other number)
    (due : state.active registration descriptor) : Quiet after := by
  refine ⟨?_, ?_⟩
  · intro other number there
    rw [log, gone_append]
    rintro (gone | impossible)
    · exact quiet.present other number (active other number there) gone.1
    · cases impossible
  · rw [log]
    exact quiet.backed.append (quiet.present registration descriptor due)

/-- A change of the sets leaves the other registrations and the queues alone. -/
theorem active_of_registered
    (registered : ∀ other number, after.registered other number → state.registered other number)
    (waiting : after.waiting = state.waiting) :
    ∀ other number, after.active other number → state.active other number := by
  intro other number there
  rcases there with inside | queued
  · exact Or.inl (registered other number inside)
  · right
    unfold pending at queued ⊢
    rwa [waiting] at queued

theorem active_of_added
    (registered : ∀ other number, after.registered other number →
      state.registered other number ∨ (other = registration ∧ number = descriptor))
    (waiting : after.waiting = state.waiting) :
    ∀ other number, after.active other number →
      state.active other number ∨ (other = registration ∧ number = descriptor) := by
  intro other number there
  rcases there with inside | queued
  · rcases registered other number inside with old | new
    · exact Or.inl (Or.inl old)
    · exact Or.inr new
  · left
    right
    unfold pending at queued ⊢
    rwa [waiting] at queued

section
variable (quiet : Quiet state)
include quiet

variable (descriptor : Nat)

theorem Quiet.addReadDescriptor : Quiet (state.addReadDescriptor descriptor) := by
  unfold Descriptors.addReadDescriptor
  split
  · exact quiet
  · split
    · exact quiet
    · refine @Quiet.added state _ .read descriptor quiet rfl (active_of_added ?_ rfl)
      intro other number inside
      cases other with
      | read =>
        rcases (mem_orderedInsert _).mp inside with new | old
        · exact Or.inr ⟨rfl, new⟩
        · exact Or.inl old
      | connected | write => exact Or.inl inside

theorem Quiet.addConnectedDescriptor (deleteOnClose : Bool) :
    Quiet (state.addConnectedDescriptor descriptor deleteOnClose) := by
  unfold Descriptors.addConnectedDescriptor
  split
  · exact quiet
  · split
    · exact quiet
    · refine @Quiet.added state _ .connected descriptor quiet rfl (active_of_added ?_ rfl)
      intro other number inside
      cases other with
      | read | write => exact Or.inl inside
      | connected =>
        obtain ⟨entry, member, same⟩ := inside
        rcases (mem_orderedInsert _).mp member with rfl | old
        · exact Or.inr ⟨rfl, same.symm⟩
        · exact Or.inl ⟨entry, old, same⟩

theorem Quiet.addWriteDescriptor : Quiet (state.addWriteDescriptor descriptor) := by
  unfold Descriptors.addWriteDescriptor
  split
  · exact quiet
  · split
    · exact quiet
    · refine @Quiet.added state _ .write descriptor quiet rfl (active_of_added ?_ rfl)
      intro other number inside
      cases other with
      | read | connected => exact Or.inl inside
      | write =>
        rcases (mem_orderedInsert _).mp inside with new | old
        · exact Or.inr ⟨rfl, new⟩
        · exact Or.inl old

theorem Quiet.removeReadDescriptor {descriptor : Nat}
    (undisturbed : Undisturbed state (.removeReadDescriptor descriptor)) :
    Quiet (state.removeReadDescriptor descriptor).1 := by
  unfold Descriptors.removeReadDescriptor
  split
  · rename_i member
    refine @Quiet.removed state _ .read descriptor quiet rfl (active_of_registered ?_ rfl) ?_
    · intro other number inside
      cases other with
      | read => exact (mem_filter.mp inside).1
      | connected | write => exact inside
    · rintro (inside | queued)
      · exact absurd rfl (of_decide_eq_true (mem_filter.mp inside).2)
      · exact undisturbed member queued
  · exact quiet

theorem Quiet.removeConnectedDescriptor {descriptor : Nat}
    (undisturbed : Undisturbed state (.removeConnectedDescriptor descriptor)) :
    Quiet (state.removeConnectedDescriptor descriptor).1 := by
  unfold Descriptors.removeConnectedDescriptor
  split
  · rename_i member
    refine @Quiet.removed state _ .connected descriptor quiet rfl (active_of_registered ?_ rfl) ?_
    · intro other number inside
      cases other with
      | read | write => exact inside
      | connected =>
        obtain ⟨entry, kept, same⟩ := inside
        exact ⟨entry, (mem_filter.mp kept).1, same⟩
    · rintro (⟨entry, kept, rfl⟩ | queued)
      · exact absurd rfl (of_decide_eq_true (mem_filter.mp kept).2)
      · exact undisturbed member queued
  · exact quiet

theorem Quiet.removeWriteDescriptor {descriptor : Nat}
    (undisturbed : Undisturbed state (.removeWriteDescriptor descriptor)) :
    Quiet (state.removeWriteDescriptor descriptor).1 := by
  unfold Descriptors.removeWriteDescriptor
  split
  · rename_i member
    refine @Quiet.removed state _ .write descriptor quiet rfl (active_of_registered ?_ rfl) ?_
    · intro other number inside
      cases other with
      | read | connected => exact inside
      | write => exact (mem_filter.mp inside).1
    · rintro (inside | queued)
      · exact absurd rfl (of_decide_eq_true (mem_filter.mp inside).2)
      · exact undisturbed member queued
  · exact quiet

theorem Quiet.addDescriptorsToSet : Quiet state.addDescriptorsToSet := by
  refine quiet.keep rfl (active_of_registered ?_ rfl)
  intro other number inside
  cases other with
  | read | write => exact (mem_filter.mp inside).1
  | connected => exact inside

end

/-- Only registered descriptors get into the queues. -/
theorem registered_of_ready {readable writable : Int → Bool} {closed : Nat → Bool} {call : Call}
    (member : call ∈ state.ready readable writable closed)
    (target : call.target = some (registration, descriptor)) :
    state.registered registration descriptor := by
  unfold ready at member
  simp only [mem_append, mem_map, mem_flatMap, mem_filter] at member
  rcases member with ((⟨number, inside, rfl⟩ | ⟨entry, inside, rfl⟩) | ⟨number, inside, rfl⟩) |
    ⟨entry, inside, closing⟩
  · cases target
    exact inside.1
  · cases target
    exact ⟨entry, inside.1, rfl⟩
  · cases target
    exact inside.1
  · rcases mem_cons.mp closing with rfl | rest
    · cases target
      exact ⟨entry, inside.1, rfl⟩
    · split at rest
      · rw [mem_singleton.mp rest] at target
        cases target
      · cases rest

theorem Quiet.checkDescriptors (quiet : Quiet state) (readable writable : Int → Bool)
    (closed : Nat → Bool) : Quiet (state.checkDescriptors readable writable closed) := by
  refine quiet.keep rfl ?_
  intro other number there
  rcases there with inside | ⟨call, queued, target⟩
  · cases other with
    | read | write => exact Or.inl inside
    | connected =>
      obtain ⟨entry, kept, same⟩ := inside
      exact Or.inl ⟨entry, (mem_filter.mp kept).1, same⟩
  · rcases mem_append.mp queued with new | old
    · exact Or.inl (registered_of_ready new target)
    · exact Or.inr ⟨call, old, target⟩

theorem active_of_rest {call : Call} {rest : List Call} (waiting : state.waiting = call :: rest)
    (registered : ∀ other number, after.registered other number → state.registered other number)
    (left : after.waiting = rest) :
    ∀ other number, after.active other number → state.active other number := by
  intro other number there
  rcases there with inside | ⟨queued, member, target⟩
  · exact Or.inl (registered other number inside)
  · rw [left] at member
    refine Or.inr ⟨queued, ?_, target⟩
    rw [waiting]
    exact mem_cons_of_mem _ member

theorem Quiet.next (quiet : Quiet state) (handler : Bool) : Quiet (state.next handler) := by
  unfold Descriptors.next
  have due {call : Call} {rest : List Call} (waiting : state.waiting = call :: rest)
      {registration : Registration} {descriptor : Nat}
      (target : call.target = some (registration, descriptor)) :
      state.active registration descriptor := by
    refine Or.inr ⟨call, ?_, target⟩
    rw [waiting]
    exact mem_cons_self
  split
  · exact quiet
  · rename_i registration descriptor rest waiting
    exact @Quiet.called state _ registration descriptor quiet rfl
      (active_of_rest waiting (fun _ _ inside => inside) rfl) (due waiting rfl)
  · rename_i descriptor rest waiting
    exact @Quiet.called state _ .write descriptor quiet rfl
      (active_of_rest waiting (fun _ _ inside => inside) rfl) (due waiting rfl)
  · rename_i descriptor rest waiting
    split
    · exact @Quiet.called state _ .connected descriptor quiet rfl
        (active_of_rest waiting (fun _ _ inside => inside) rfl) (due waiting rfl)
    · exact quiet.keep rfl (active_of_rest waiting (fun _ _ inside => inside) rfl)
  · rename_i descriptor rest waiting
    exact quiet.keep rfl (active_of_rest waiting (fun _ _ inside => inside) rfl)

theorem Quiet.step (quiet : Quiet state) (action : DescriptorAction)
    (undisturbed : Undisturbed state action) : Quiet (state.step action) := by
  cases action with
  | reopen descriptor read write => exact quiet.keep rfl (fun _ _ there => there)
  | addReadDescriptor descriptor => exact quiet.addReadDescriptor descriptor
  | addConnectedDescriptor descriptor deleteOnClose =>
    exact quiet.addConnectedDescriptor descriptor deleteOnClose
  | addWriteDescriptor descriptor => exact quiet.addWriteDescriptor descriptor
  | removeReadDescriptor descriptor => exact quiet.removeReadDescriptor undisturbed
  | removeConnectedDescriptor descriptor => exact quiet.removeConnectedDescriptor undisturbed
  | removeWriteDescriptor descriptor => exact quiet.removeWriteDescriptor undisturbed
  | addDescriptorsToSet => exact quiet.addDescriptorsToSet
  | checkDescriptors readable writable closed =>
    exact quiet.checkDescriptors readable writable closed
  | next handler => exact quiet.next handler

theorem gone_called {log : List DescriptorEntry} (gone : Gone log registration descriptor)
    (other : Registration) (number : Nat) :
    Gone (log ++ [.called other number]) registration descriptor := by
  apply gone_append.mpr
  left
  refine ⟨gone, ?_⟩
  intro impossible
  cases impossible

theorem called_when_gone {waiting : List Call} {call : Call} (queue : state.waiting = waiting)
    (member : call ∈ waiting) (target : call.target = some (registration, descriptor))
    (gone : Gone state.log registration descriptor) :
    ∃ count, ¬ Justified CallBacked (run step state (List.replicate count (.next true))).log := by
  induction waiting generalizing state with
  | nil => cases member
  | cons first rest ih =>
    have advance (after : Descriptors) (reached : state.next true = after)
        (later : ∃ count,
          ¬ Justified CallBacked (run step after (List.replicate count (.next true))).log) :
        ∃ count,
          ¬ Justified CallBacked (run step state (List.replicate count (.next true))).log := by
      obtain ⟨count, called⟩ := later
      refine ⟨count + 1, ?_⟩
      rw [replicate_succ, run_cons]
      change ¬ Justified CallBacked (run step (state.next true) _).log
      rw [reached]
      exact called
    have final (other : Registration) (number : Nat) (here : first.target = some (other, number))
        (reached : state.next true = { state with waiting := rest }.record (.called other number)) :
        ∃ count,
          ¬ Justified CallBacked (run step state (List.replicate count (.next true))).log := by
      apply advance _ reached
      rcases mem_cons.mp member with rfl | behind
      · rw [target] at here
        cases here
        exact ⟨0, fun justified => justified state.log _ [] rfl gone⟩
      · exact ih rfl behind (gone_called gone other number)
    cases first with
    | performRead other number =>
      apply final other number rfl
      unfold Descriptors.next
      rw [queue]
    | performWrite number =>
      apply final .write number rfl
      unfold Descriptors.next
      rw [queue]
    | onClose number =>
      apply final .connected number rfl
      unfold Descriptors.next
      rw [queue]
      rfl
    | delete number =>
      rcases mem_cons.mp member with rfl | behind
      · cases target
      · apply advance { state with
          waiting := rest
          readDescriptor := Function.update state.readDescriptor number invalidDescriptor
          writeDescriptor := Function.update state.writeDescriptor number invalidDescriptor }
        · unfold Descriptors.next
          rw [queue]
        · exact ih rfl behind gone

end Invariant

end Descriptors

/-- A part of a pass, with callbacks that leave the descriptors alone. -/
def DescriptorAction.isPass : DescriptorAction → Bool
  | .addDescriptorsToSet => true
  | .checkDescriptors _ _ _ => true
  | .next _ => true
  | _ => false

namespace Descriptors

section Runs

variable {state : Descriptors}

/-- Whatever the passes do next, no callback is called for a descriptor that is gone. -/
def Calm (state : Descriptors) : Prop :=
  ∀ rounds : List DescriptorAction, (∀ action ∈ rounds, action.isPass = true) →
    Justified CallBacked (run step state rounds).log

theorem Quiet.calm (quiet : Quiet state) : Calm state := by
  intro rounds all
  induction rounds generalizing state with
  | nil => exact quiet.backed
  | cons action rounds ih =>
    have pass := all action mem_cons_self
    apply ih
    · apply quiet.step
      cases action with
      | removeReadDescriptor descriptor | removeConnectedDescriptor descriptor
      | removeWriteDescriptor descriptor => cases pass
      | _ => trivial
    · exact fun other member => all other (mem_cons_of_mem _ member)

/-- After a removal of a waiting descriptor its callback is called. -/
theorem disturbed {after : Descriptors} {registration : Registration} {descriptor : Nat}
    (log : after.log = state.log ++ [.removed registration descriptor])
    (waiting : after.waiting = state.waiting) (pending : state.pending registration descriptor) :
    ¬ Calm after := by
  intro calm
  obtain ⟨call, member, target⟩ := pending
  have gone : Gone after.log registration descriptor := by
    rw [log]
    exact gone_append.mpr (Or.inr rfl)
  obtain ⟨count, called⟩ := called_when_gone waiting member target gone
  apply called
  apply calm
  intro action inside
  rw [eq_of_mem_replicate inside]
  rfl

theorem spoiled (action : DescriptorAction) (disturbs : ¬ Undisturbed state action) :
    ¬ Calm (state.step action) := by
  cases action with
  | removeReadDescriptor descriptor =>
    obtain ⟨member, pending⟩ := Classical.not_imp.mp disturbs
    rw [step, removeReadDescriptor, if_pos member]
    exact disturbed rfl rfl (not_not.mp pending)
  | removeConnectedDescriptor descriptor =>
    obtain ⟨member, pending⟩ := Classical.not_imp.mp disturbs
    rw [step, removeConnectedDescriptor, if_pos member]
    exact disturbed rfl rfl (not_not.mp pending)
  | removeWriteDescriptor descriptor =>
    obtain ⟨member, pending⟩ := Classical.not_imp.mp disturbs
    rw [step, removeWriteDescriptor, if_pos member]
    exact disturbed rfl rfl (not_not.mp pending)
  | _ => exact absurd trivial disturbs

theorem quiet_initial (readDescriptor writeDescriptor : Nat → Int) :
    Quiet (initial readDescriptor writeDescriptor) := by
  refine ⟨?_, justified_nil CallBacked⟩
  rintro registration descriptor _ ⟨before, after, split, _⟩
  exact absurd split.symm (append_ne_nil_of_right_ne_nil _ (cons_ne_nil _ _))

end Runs

/-- In a run and in every way in which the passes go on after it no callback is called for a
descriptor that was removed and not added again, exactly if no registered descriptor is removed
while it waits in a queue of `CheckDescriptors`. -/
theorem removed_quiet_iff (readDescriptor writeDescriptor : Nat → Int)
    (actions : List DescriptorAction) :
    (∀ count rounds, (∀ action ∈ rounds, action.isPass = true) →
      Justified CallBacked (run step (initial readDescriptor writeDescriptor)
        (actions.take count ++ rounds)).log) ↔
      Permitted step Undisturbed (initial readDescriptor writeDescriptor) actions := by
  rw [← @always_iff_permitted _ _ step Undisturbed Quiet Calm (fun _ => Quiet.calm)
    (fun _ action quiet => quiet.step action) (fun _ action _ => spoiled action)
    (initial readDescriptor writeDescriptor) actions
    (quiet_initial readDescriptor writeDescriptor)]
  simp only [run_append]
  rfl

/-- Two descriptors are ready and the callback of the first removes the second, which is read
nevertheless. -/
theorem removed_descriptor_read :
    ¬ Justified CallBacked (run step (initial (fun descriptor => descriptor) (fun _ => -1))
      [.addReadDescriptor 1, .addReadDescriptor 2,
        .checkDescriptors (fun _ => true) (fun _ => false) (fun _ => false), .next true,
        .removeReadDescriptor 2, .next true]).log := by
  intro justified
  apply justified [.added .read 1, .added .read 2, .called .read 1, .removed .read 2]
    (.called .read 2) [] (by decide +kernel)
  exact ⟨[.added .read 1, .added .read 2, .called .read 1], [], rfl, List.not_mem_nil⟩

end Descriptors

end OpenLighting.SelectServer
