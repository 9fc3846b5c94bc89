import Mathlib.Data.UInt

/- `ConnectedDescriptor::Receive`: what it stores where, and what it leaves to be read. -/
namespace OpenLighting.Descriptor

open List

/-- A read that found data: where it was told to put it, how much of it, and the memory there. -/
structure Access where
  offset : Nat
  size : Nat
  allocated : Nat
  deriving DecidableEq

def Access.Inside (access : Access) : Prop := access.offset + access.size ≤ access.allocated

/-- What is written to a buffer. Only what is allocated is memory. -/
def store (buffer : List UInt8) (offset : Nat) (data : List UInt8) : List UInt8 :=
  buffer.take offset ++ (data.take (buffer.length - offset) ++ buffer.drop (offset + data.length))

structure Received where
  buffer : List UInt8
  dataRead : Nat
  pending : List (List UInt8)
  accesses : List Access
  deriving DecidableEq

/-- The loop of `Receive`. `pending` is what the next reads find; one that finds nothing ends
the call. `offset` is where `data` points to. After a read it is moved by all that has been
read, and not by what this read has found. -/
def receiveFrom (size : Nat) : List (List UInt8) → List UInt8 → Nat → Nat → Received
  | [], buffer, _, dataRead => ⟨buffer, dataRead, [], []⟩
  | found :: rest, buffer, offset, dataRead =>
    if size ≤ dataRead then ⟨buffer, dataRead, found :: rest, []⟩
    else if found = [] then ⟨buffer, dataRead, rest, []⟩
    else
      let access : Access := ⟨offset, size - dataRead, buffer.length⟩
      let buffer := store buffer offset (found.take (size - dataRead))
      if found.length ≤ size - dataRead then
        let dataRead := dataRead + found.length
        let received := receiveFrom size rest buffer (offset + dataRead) dataRead
        { received with accesses := access :: received.accesses }
      else ⟨buffer, size, found.drop (size - dataRead) :: rest, [access]⟩

/-- `Receive`, for a valid descriptor, to a place in a buffer. -/
def receive (size : Nat) (pending : List (List UInt8)) (buffer : List UInt8) (offset : Nat) :
    Received := receiveFrom size pending buffer offset 0

/-- How many reads find data for so many bytes. -/
def dataReads : Nat → List (List UInt8) → Nat
  | _, [] => 0
  | size, found :: rest =>
    if size = 0 ∨ found = [] then 0 else dataReads (size - found.length) rest + 1

/-- The bytes that these reads find. -/
def collected : Nat → List (List UInt8) → List UInt8
  | _, [] => []
  | size, found :: rest =>
    if size = 0 ∨ found = [] then []
    else found.take size ++ collected (size - found.length) rest

/-- No read after the second one finds data, so that all of it is stored one after the other. -/
def Contiguous (size : Nat) (pending : List (List UInt8)) : Prop := dataReads size pending ≤ 2

instance (size : Nat) (pending : List (List UInt8)) : Decidable (Contiguous size pending) :=
  inferInstanceAs (Decidable (_ ≤ _))

theorem length_store (buffer data : List UInt8) {offset : Nat}
    (inside : offset + data.length ≤ buffer.length) :
    (store buffer offset data).length = buffer.length := by
  unfold store
  simp only [length_append, length_take, length_drop]
  omega

theorem take_store (buffer data : List UInt8) {offset : Nat}
    (inside : offset + data.length ≤ buffer.length) :
    (store buffer offset data).take (offset + data.length) = buffer.take offset ++ data := by
  have front : (buffer.take offset).length = offset := length_take_of_le (by omega)
  unfold store
  rw [take_of_length_le (show data.length ≤ buffer.length - offset by omega),
    ← append_assoc, take_left' (by rw [length_append, front])]

section Receive

theorem length_collected (size : Nat) (pending : List (List UInt8)) :
    (collected size pending).length ≤ size := by
  induction pending generalizing size with
  | nil => exact Nat.zero_le size
  | cons found rest ih =>
    rw [collected]
    split
    · exact Nat.zero_le size
    · have others := ih (size - found.length)
      rw [length_append, length_take]
      omega

theorem collected_zero (pending : List (List UInt8)) : collected 0 pending = [] :=
  eq_nil_of_length_eq_zero (Nat.le_zero.mp (length_collected 0 pending))

variable {size dataRead : Nat} {found : List UInt8} {rest : List (List UInt8)}

theorem receiveFrom_enough (enough : size ≤ dataRead) (pending : List (List UInt8))
    (buffer : List UInt8) (offset : Nat) :
    receiveFrom size pending buffer offset dataRead = ⟨buffer, dataRead, pending, []⟩ := by
  cases pending with
  | nil => rfl
  | cons found rest => exact if_pos enough

theorem receiveFrom_nothing (more : dataRead < size) (rest : List (List UInt8))
    (buffer : List UInt8) (offset : Nat) :
    receiveFrom size ([] :: rest) buffer offset dataRead = ⟨buffer, dataRead, rest, []⟩ := by
  rw [receiveFrom, if_neg (Nat.not_le_of_lt more), if_pos rfl]

/-- A read that finds data, no more of it than it can take. -/
theorem receiveFrom_whole (more : dataRead < size) (some : found ≠ [])
    (whole : found.length ≤ size - dataRead) (buffer : List UInt8) (offset : Nat) :
    receiveFrom size (found :: rest) buffer offset dataRead =
      let received := receiveFrom size rest (store buffer offset found)
        (offset + (dataRead + found.length)) (dataRead + found.length)
      { received with
        accesses := ⟨offset, size - dataRead, buffer.length⟩ :: received.accesses } := by
  rw [receiveFrom, if_neg (Nat.not_le_of_lt more), if_neg some]
  rw [if_pos whole, take_of_length_le whole]

/-- A read that finds more than it can take. -/
theorem receiveFrom_part (more : dataRead < size) (part : size - dataRead < found.length)
    (buffer : List UInt8) (offset : Nat) :
    receiveFrom size (found :: rest) buffer offset dataRead =
      ⟨store buffer offset (found.take (size - dataRead)), size,
        found.drop (size - dataRead) :: rest, [⟨offset, size - dataRead, buffer.length⟩]⟩ := by
  have some : found ≠ [] := by
    intro nothing
    rw [nothing] at part
    exact absurd part (Nat.not_lt_zero _)
  rw [receiveFrom, if_neg (Nat.not_le_of_lt more), if_neg some]
  rw [if_neg (Nat.not_le_of_lt part)]

theorem collected_whole (more : dataRead < size) (some : found ≠ [])
    (whole : found.length ≤ size - dataRead) :
    collected (size - dataRead) (found :: rest) =
      found ++ collected (size - (dataRead + found.length)) rest := by
  rw [collected, if_neg (by simp only [some, or_false]; omega), take_of_length_le whole,
    Nat.sub_add_eq]

theorem collected_part (more : dataRead < size) (part : size - dataRead < found.length) :
    collected (size - dataRead) (found :: rest) = found.take (size - dataRead) := by
  have some : found ≠ [] := by
    intro nothing
    rw [nothing] at part
    exact absurd part (Nat.not_lt_zero _)
  rw [collected, if_neg (by simp only [some, or_false]; omega),
    show size - dataRead - found.length = 0 by omega, collected_zero, append_nil]

/-- What is read and what is left are what there was. -/
theorem collected_append_pending (size : Nat) (pending : List (List UInt8))
    (buffer : List UInt8) (offset dataRead : Nat) :
    collected (size - dataRead) pending ++
        (receiveFrom size pending buffer offset dataRead).pending.flatten = pending.flatten ∧
      (receiveFrom size pending buffer offset dataRead).dataRead =
        dataRead + (collected (size - dataRead) pending).length := by
  induction pending generalizing buffer offset dataRead with
  | nil => exact ⟨rfl, rfl⟩
  | cons found rest ih =>
    by_cases more : dataRead < size
    · by_cases nothing : found = []
      · rw [nothing, receiveFrom_nothing more, collected, if_pos (Or.inr rfl)]
        exact ⟨rfl, rfl⟩
      · by_cases whole : found.length ≤ size - dataRead
        · have others := ih (store buffer offset found) (offset + (dataRead + found.length))
            (dataRead + found.length)
          rw [receiveFrom_whole more nothing whole, collected_whole more nothing whole,
            append_assoc, length_append]
          rw [others.1, others.2, Nat.add_assoc]
          exact ⟨rfl, rfl⟩
        · have part : size - dataRead < found.length := Nat.lt_of_not_le whole
          rw [receiveFrom_part more part, collected_part more part]
          dsimp only
          rw [flatten_cons, ← append_assoc, take_append_drop, length_take]
          exact ⟨rfl, by omega⟩
    · rw [receiveFrom_enough (Nat.le_of_not_lt more), show size - dataRead = 0 by omega,
        collected_zero]
      exact ⟨rfl, rfl⟩

/-- Data lies in a buffer from a place on. What is before it is as it was, and nothing outside
the buffer was touched. -/
structure Stored (received : Received) (buffer : List UInt8) (offset : Nat) (data : List UInt8) :
    Prop where
  length : received.buffer.length = buffer.length
  taken : received.buffer.take (offset + data.length) = buffer.take offset ++ data
  inside : ∀ access ∈ received.accesses, access.Inside

theorem receiveFrom_none {pending : List (List UInt8)}
    (none : dataReads (size - dataRead) pending = 0) (buffer : List UInt8) (offset : Nat) :
    (receiveFrom size pending buffer offset dataRead).buffer = buffer ∧
      (receiveFrom size pending buffer offset dataRead).accesses = [] ∧
      collected (size - dataRead) pending = [] := by
  cases pending with
  | nil => exact ⟨rfl, rfl, rfl⟩
  | cons found rest =>
    rw [dataReads] at none
    split at none
    · rename_i beyond
      rw [receiveFrom, collected, if_pos beyond]
      by_cases more : dataRead < size
      · have nothing : found = [] := beyond.resolve_left (by omega)
        rw [if_neg (by omega), if_pos nothing]
        exact ⟨rfl, rfl, rfl⟩
      · rw [if_pos (by omega)]
        exact ⟨rfl, rfl, rfl⟩
    · omega

theorem stored_nothing {received : Received} {buffer : List UInt8}
    (same : received.buffer = buffer ∧ received.accesses = []) (offset : Nat) :
    Stored received buffer offset [] := by
  refine ⟨congrArg List.length same.1, ?_, ?_⟩
  · rw [same.1, append_nil]
    rfl
  · rw [same.2]
    exact fun access member => absurd member not_mem_nil

/-- What follows a read is stored behind it. -/
theorem Stored.after {received : Received} {buffer data : List UInt8} {offset : Nat}
    {access : Access}
    (behind : Stored received (store buffer offset found) (offset + found.length) data)
    (room : offset + found.length ≤ buffer.length) (inside : access.Inside) :
    Stored { received with accesses := access :: received.accesses }
      buffer offset (found ++ data) := by
  refine ⟨behind.length.trans (length_store buffer found room), ?_, ?_⟩
  · have taken := behind.taken
    rw [take_store buffer found room, append_assoc, Nat.add_assoc] at taken
    rw [length_append]
    exact taken
  · exact forall_mem_cons.mpr ⟨inside, behind.inside⟩

theorem stored_part (buffer : List UInt8) {offset : Nat} (more : dataRead < size)
    (part : size - dataRead < found.length) (room : offset + (size - dataRead) ≤ buffer.length) :
    Stored (receiveFrom size (found :: rest) buffer offset dataRead) buffer offset
      (collected (size - dataRead) (found :: rest)) := by
  have length : (found.take (size - dataRead)).length = size - dataRead :=
    length_take_of_le (Nat.le_of_lt part)
  rw [receiveFrom_part more part, collected_part more part]
  refine ⟨length_store buffer _ (by omega), take_store buffer _ (by omega), ?_⟩
  exact forall_mem_singleton.mpr room

theorem stored_of_one {pending : List (List UInt8)} (buffer : List UInt8) {offset : Nat}
    (one : dataReads (size - dataRead) pending ≤ 1)
    (room : offset + (size - dataRead) ≤ buffer.length) :
    Stored (receiveFrom size pending buffer offset dataRead) buffer offset
      (collected (size - dataRead) pending) := by
  cases pending with
  | nil => exact stored_nothing ⟨rfl, rfl⟩ offset
  | cons found rest =>
    rw [dataReads] at one
    split at one
    · rename_i beyond
      have none := @receiveFrom_none size dataRead (found :: rest) (if_pos beyond) buffer offset
      rw [none.2.2]
      exact stored_nothing ⟨none.1, none.2.1⟩ offset
    · rename_i beyond
      rw [not_or] at beyond
      have more : dataRead < size := by omega
      by_cases whole : found.length ≤ size - dataRead
      · rw [← Nat.sub_add_eq] at one
        have none := receiveFrom_none (Nat.le_zero.mp (Nat.le_of_succ_le_succ one))
          (store buffer offset found) (offset + (dataRead + found.length))
        rw [receiveFrom_whole more beyond.2 whole, collected_whole more beyond.2 whole, none.2.2]
        exact (stored_nothing ⟨none.1, none.2.1⟩ _).after (by omega) room
      · exact stored_part buffer more (Nat.lt_of_not_le whole) room

/-- Two reads are. -/
theorem stored_of_contiguous {pending : List (List UInt8)} (buffer : List UInt8) {offset : Nat}
    (contiguous : Contiguous size pending) (room : offset + size ≤ buffer.length) :
    Stored (receive size pending buffer offset) buffer offset (collected size pending) := by
  cases pending with
  | nil => exact stored_nothing ⟨rfl, rfl⟩ offset
  | cons found rest =>
    unfold Contiguous at contiguous
    rw [dataReads] at contiguous
    split at contiguous
    · rename_i beyond
      have none := @receiveFrom_none size 0 (found :: rest) (if_pos beyond) buffer offset
      rw [show collected size (found :: rest) = [] from none.2.2]
      exact stored_nothing ⟨none.1, none.2.1⟩ offset
    · rename_i beyond
      rw [not_or] at beyond
      have more : 0 < size := by omega
      by_cases whole : found.length ≤ size
      · have behind := @stored_of_one size found.length rest (store buffer offset found)
          (offset + found.length) (Nat.le_of_succ_le_succ contiguous)
          (by rw [length_store buffer found (by omega)]; omega)
        have first := @receiveFrom_whole size 0 found rest more beyond.2 whole buffer offset
        have bytes := @collected_whole size 0 found rest more beyond.2 whole
        rw [Nat.zero_add] at first bytes
        rw [receive, first, show collected size (found :: rest) = _ from bytes]
        exact behind.after (by omega) room
      · exact stored_part buffer more (Nat.lt_of_not_le whole) room

/-- Where every read finds something, only the end of it all stops a call early. -/
theorem pending_of_some {pending : List (List UInt8)} (buffer : List UInt8) (offset : Nat)
    (some : ∀ found ∈ pending, found ≠ []) :
    (∀ left ∈ (receiveFrom size pending buffer offset dataRead).pending, left ≠ []) ∧
      ((collected (size - dataRead) pending).length < size - dataRead →
        (receiveFrom size pending buffer offset dataRead).pending = []) := by
  induction pending generalizing buffer offset dataRead with
  | nil => exact ⟨some, fun _ => rfl⟩
  | cons found rest ih =>
    have each := forall_mem_cons.mp some
    by_cases more : dataRead < size
    · by_cases whole : found.length ≤ size - dataRead
      · rw [receiveFrom_whole more each.1 whole, collected_whole more each.1 whole]
        have others := @ih (dataRead + found.length) (store buffer offset found)
          (offset + (dataRead + found.length)) each.2
        refine ⟨others.1, fun less => others.2 ?_⟩
        rw [length_append] at less
        omega
      · have part : size - dataRead < found.length := Nat.lt_of_not_le whole
        rw [receiveFrom_part more part, collected_part more part]
        refine ⟨forall_mem_cons.mpr ⟨?_, each.2⟩, fun less => ?_⟩
        · exact ne_nil_of_length_pos (by rw [length_drop]; omega)
        · rw [length_take] at less
          omega
    · rw [receiveFrom_enough (Nat.le_of_not_lt more)]
      exact ⟨some, fun less => by omega⟩

theorem dataReads_le_length (size : Nat) (pending : List (List UInt8)) :
    dataReads size pending ≤ pending.length := by
  induction pending generalizing size with
  | nil => exact Nat.le_refl 0
  | cons found rest ih =>
    rw [dataReads]
    split
    · omega
    · exact Nat.succ_le_succ (ih _)

theorem length_pending (size : Nat) (pending : List (List UInt8)) (buffer : List UInt8)
    (offset dataRead : Nat) :
    (receiveFrom size pending buffer offset dataRead).pending.length ≤ pending.length := by
  induction pending generalizing buffer offset dataRead with
  | nil => exact Nat.le_refl 0
  | cons found rest ih =>
    by_cases more : dataRead < size
    · by_cases nothing : found = []
      · rw [nothing, receiveFrom_nothing more]
        exact Nat.le_succ _
      · by_cases whole : found.length ≤ size - dataRead
        · rw [receiveFrom_whole more nothing whole]
          exact Nat.le_succ_of_le (ih _ _ _)
        · rw [receiveFrom_part more (Nat.lt_of_not_le whole)]
          exact Nat.le_refl (found :: rest).length
    · rw [receiveFrom_enough (Nat.le_of_not_lt more)]

end Receive

end OpenLighting.Descriptor
