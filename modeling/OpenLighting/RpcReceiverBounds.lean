import OpenLighting.RpcReceiver

namespace OpenLighting.RpcChannel

open TransitionSystem

/-- A call of `Receive` that stays inside the buffer. -/
def Request.Bounded (request : Request) : Prop :=
  request.size + request.currentSize ≤ request.allocated

namespace Receiver

/-- The version and the size that a call reads at the start of a message. -/
def announced (state : Receiver) (arrival : Arrival) : Nat × Nat :=
  ({ state with available := state.available ++ arrival.chunk }.readHeader arrival.header).2

/-- A header that leaves a size for the next call leaves one that fits in the buffer. -/
def Harmless (state : Receiver) (arrival : Arrival) : Prop :=
  state.expectedSize = 0 → state.valid = true → (state.announced arrival).2 ≠ 0 →
    if (state.announced arrival).1 = protocolVersion ∧ (state.announced arrival).2 ≤ maxBufferSize
    then arrival.memory = true ∨ (state.announced arrival).2 ≤ state.buffer.length
    else state.currentSize ≤ (state.announced arrival).2 ∧
      (state.announced arrival).2 ≤ state.buffer.length

/-- What is known of the buffer before each call. -/
structure Contained (state : Receiver) : Prop where
  allocated : state.buffer.length ≤ maxBufferSize
  recorded : state.bufferSize ≤ state.buffer.length
  progress : state.currentSize ≤ maxBufferSize
  expected : state.expectedSize ≠ 0 →
    state.currentSize ≤ state.expectedSize ∧ state.expectedSize ≤ state.buffer.length
  requests : ∀ request ∈ state.requests, request.Bounded

section Message

variable {parses : List UInt8 → Bool} {state : Receiver}

theorem fill_length {buffer data : List UInt8} {offset : Nat}
    (fits : offset + data.length ≤ buffer.length) :
    (fill buffer offset data).length = buffer.length := by
  unfold fill
  simp only [List.length_append, List.length_take, List.length_drop]
  omega

theorem receiveMessage_requests (parses : List UInt8 → Bool) (state : Receiver) :
    (state.receiveMessage parses).requests = state.requests ++
      [⟨(state.expectedSize + 2 ^ 32 - state.currentSize) % 2 ^ 32, state.currentSize,
        state.buffer.length⟩] := by
  unfold receiveMessage
  dsimp only
  split
  · split <;> rfl
  · rfl

theorem Contained.receiveMessage (contained : Contained state) (waiting : state.expectedSize ≠ 0) :
    Contained (state.receiveMessage parses) := by
  obtain ⟨started, fits⟩ := contained.expected waiting
  have bound := contained.allocated
  unfold maxBufferSize at bound
  have size : (state.expectedSize + 2 ^ 32 - state.currentSize) % 2 ^ 32 =
      state.expectedSize - state.currentSize := by omega
  have requests : ∀ request ∈ (state.receiveMessage parses).requests, request.Bounded := by
    rw [receiveMessage_requests, size]
    intro request member
    rcases List.mem_append.mp member with before | last
    · exact contained.requests request before
    · rw [List.mem_singleton.mp last]
      change state.expectedSize - state.currentSize + state.currentSize ≤ state.buffer.length
      omega
  set data := state.available.take (state.expectedSize - state.currentSize) with taken
  have short : data.length ≤ state.expectedSize - state.currentSize := by
    rw [taken, List.length_take]
    omega
  have length : (fill state.buffer state.currentSize data).length = state.buffer.length :=
    fill_length (by omega)
  have sum : (state.currentSize + data.length) % 2 ^ 32 = state.currentSize + data.length := by
    omega
  revert requests
  unfold Receiver.receiveMessage
  dsimp only
  rw [size, ← taken, sum]
  intro requests
  split at requests <;> rename_i valid
  · rw [if_pos valid]
    split at requests <;> rename_i complete
    · rw [if_pos complete]
      refine ⟨?_, ?_, ?_, fun impossible => absurd rfl impossible, requests⟩
      · exact le_of_eq_of_le length contained.allocated
      · exact le_of_le_of_eq contained.recorded length.symm
      · change state.currentSize + data.length ≤ 1048576
        omega
    · rw [if_neg complete]
      refine ⟨?_, ?_, ?_, ?_, requests⟩
      · exact le_of_eq_of_le length contained.allocated
      · exact le_of_le_of_eq contained.recorded length.symm
      · change state.currentSize + data.length ≤ 1048576
        omega
      · intro _
        change state.currentSize + data.length ≤ state.expectedSize ∧
          state.expectedSize ≤ (fill state.buffer state.currentSize data).length
        omega
  · rw [if_neg valid]
    exact { contained with requests := requests }

end Message

section Start

variable {state : Receiver} {size : Nat} {memory : Bool}

theorem allocateMsgBuffer_cases (allocated : state.buffer.length ≤ maxBufferSize)
    (recorded : state.bufferSize ≤ state.buffer.length) (small : size ≤ maxBufferSize) :
    ∃ buffer recordedSize, (state.allocateMsgBuffer size memory).1 =
        { state with buffer := buffer, bufferSize := recordedSize } ∧
      buffer.length ≤ maxBufferSize ∧
      (state.allocateMsgBuffer size memory).2 ≤ buffer.length ∧
      (memory = true → size ≤ (state.allocateMsgBuffer size memory).2) ∧
      (memory = false → (state.allocateMsgBuffer size memory).2 ≤ state.buffer.length) ∧
      ((state.allocateMsgBuffer size memory).2 < size → buffer = state.buffer) := by
  unfold allocateMsgBuffer
  split
  · exact ⟨state.buffer, state.bufferSize, rfl, allocated, by omega, fun _ => le_refl size,
      fun _ => by omega, fun _ => rfl⟩
  · set requestedSize :=
      if state.bufferSize = 0 ∧ size < initialBufferSize then initialBufferSize else size with request
    have covers : size ≤ requestedSize := by
      rw [request]
      split <;> omega
    have permitted : requestedSize ≤ maxBufferSize := by
      rw [request]
      split
      · decide
      · exact small
    rw [if_neg (by omega)]
    cases memory with
    | true =>
      rw [if_pos rfl]
      have length : (state.buffer.take requestedSize ++
          List.replicate (requestedSize - state.buffer.length) (0 : UInt8)).length =
            requestedSize := by
        rw [List.length_append, List.length_take, List.length_replicate]
        omega
      refine ⟨_, _, rfl, ?_, ?_, fun _ => covers, fun impossible => absurd impossible (by decide), ?_⟩
      · rw [length]
        exact permitted
      · rw [length]
      · intro less
        omega
    | false =>
      rw [if_neg (by decide)]
      exact ⟨state.buffer, state.bufferSize, rfl, allocated, recorded,
        fun impossible => absurd impossible (by decide), fun _ => recorded, fun _ => rfl⟩

theorem readHeader_size (state : Receiver) (header : BitVec 32) :
    (state.readHeader header).2.2 < 2 ^ 28 := by
  unfold readHeader
  dsimp only
  split
  · exact Nat.two_pow_pos 28
  · rw [decodeHeader_size]
    exact Nat.mod_lt _ (by decide)

/-- What the start of a message does: the header is empty, or it is refused, or there is a
buffer for the message, or there is no memory for it. -/
theorem startMessage_cases (arrival : Arrival) (valid : state.valid = true)
    (allocated : state.buffer.length ≤ maxBufferSize)
    (recorded : state.bufferSize ≤ state.buffer.length) :
    ∃ after, state.startMessage arrival = after ∧
      after.1.requests = state.requests ∧
      after.1.currentSize ≤ state.currentSize ∧
      after.1.expectedSize = (state.readHeader arrival.header).2.2 ∧
      after.1.buffer.length ≤ maxBufferSize ∧
      after.1.bufferSize ≤ after.1.buffer.length ∧
      (after.2 = true → after.1.expectedSize ≠ 0 ∧ after.1.currentSize = 0 ∧
        after.1.expectedSize ≤ after.1.buffer.length ∧
        ((state.readHeader arrival.header).2.1 = protocolVersion ∧
          (state.readHeader arrival.header).2.2 ≤ maxBufferSize) ∧
        (arrival.memory = true ∨ after.1.expectedSize ≤ state.buffer.length)) ∧
      (after.2 = false → after.1.expectedSize ≠ 0 →
        after.1.buffer = state.buffer ∧
          if (state.readHeader arrival.header).2.1 = protocolVersion ∧
              (state.readHeader arrival.header).2.2 ≤ maxBufferSize
          then after.1.currentSize = 0 ∧ arrival.memory = false
          else after.1.currentSize = state.currentSize) := by
  refine ⟨_, rfl, ?_⟩
  have shape : (state.readHeader arrival.header).1 =
      { state with available := state.available.drop 4 } := by
    unfold readHeader
    dsimp only
    split <;> rfl
  unfold startMessage
  rw [if_pos valid]
  generalize state.readHeader arrival.header = result at shape ⊢
  obtain ⟨read, version, size⟩ := result
  dsimp only at shape ⊢
  subst shape
  by_cases empty : size = 0
  · rw [if_pos empty]
    exact ⟨rfl, le_refl _, rfl, allocated, recorded,
      fun impossible => absurd impossible Bool.false_ne_true,
      fun _ impossible => absurd empty impossible⟩
  · rw [if_neg empty]
    by_cases other : version ≠ protocolVersion
    · rw [if_pos other]
      refine ⟨rfl, le_refl _, rfl, allocated, recorded,
        fun impossible => absurd impossible Bool.false_ne_true, ?_⟩
      intro _ _
      exact ⟨rfl, by rw [if_neg (fun both => other both.1)]⟩
    · rw [if_neg other]
      rw [not_not] at other
      by_cases large : size > maxBufferSize
      · rw [if_pos large]
        refine ⟨rfl, le_refl _, rfl, allocated, recorded,
          fun impossible => absurd impossible Bool.false_ne_true, ?_⟩
        intro _ _
        refine ⟨rfl, ?_⟩
        rw [if_neg]
        intro both
        omega
      · rw [if_neg large]
        obtain ⟨buffer, recordedSize, after, fits, covers, enough, poor, unchanged⟩ :=
          @allocateMsgBuffer_cases
            { state with available := state.available.drop 4, expectedSize := size, currentSize := 0 }
            size arrival.memory allocated recorded (by omega)
        rw [after]
        refine ⟨rfl, Nat.zero_le _, rfl, fits, covers, ?_, ?_⟩
        · intro started
          rw [Bool.not_eq_true', decide_eq_false_iff_not] at started
          refine ⟨empty, rfl, le_trans (not_lt.mp started) covers, ⟨other, by omega⟩, ?_⟩
          cases memory : arrival.memory with
          | true => exact Or.inl rfl
          | false => exact Or.inr (le_trans (not_lt.mp started) (poor memory))
        · intro refused _
          rw [Bool.not_eq_false', decide_eq_true_iff] at refused
          refine ⟨unchanged refused, ?_⟩
          rw [if_pos ⟨other, by omega⟩]
          refine ⟨rfl, ?_⟩
          cases memory : arrival.memory with
          | false => rfl
          | true => exact absurd (enough memory) (not_le.mpr refused)

end Start

section Calls

variable {parses : List UInt8 → Bool} {state : Receiver} {arrival : Arrival}

theorem Contained.arrive (contained : Contained state) (chunk : List UInt8) :
    Contained { state with available := state.available ++ chunk } :=
  { contained with }

/-- A closed descriptor leaves everything as it is. -/
theorem startMessage_closed (arrival : Arrival) (closed : ¬ state.valid = true) :
    state.startMessage arrival = ({ state with expectedSize := 0 }, false) := if_neg closed

/-- A message that has been started with room for it. -/
theorem Contained.started (contained : Contained state) {after : Receiver}
    (requests : after.requests = state.requests)
    (allocated : after.buffer.length ≤ maxBufferSize)
    (recorded : after.bufferSize ≤ after.buffer.length) (zero : after.currentSize = 0)
    (fits : after.expectedSize ≤ after.buffer.length) : Contained after := by
  refine ⟨allocated, recorded, ?_, ?_, ?_⟩
  · rw [zero]
    omega
  · intro _
    omega
  · rw [requests]
    exact contained.requests

/-- The next call stays in the buffer, whatever arrives. -/
theorem Contained.bounded (parses : List UInt8 → Bool) (contained : Contained state)
    (arrival : Arrival) :
    ∀ request ∈ (state.descriptorReady parses arrival).requests, request.Bounded := by
  unfold descriptorReady
  dsimp only
  set ready := { state with available := state.available ++ arrival.chunk }
  have arrived : Contained ready := contained.arrive arrival.chunk
  split
  · by_cases valid : ready.valid = true
    · obtain ⟨after, started, requests, _, _, allocated, recorded, good, _⟩ :=
        startMessage_cases arrival valid arrived.allocated arrived.recorded
      rw [started]
      obtain ⟨after, go⟩ := after
      cases go with
      | false =>
        rw [requests]
        exact contained.requests
      | true =>
        obtain ⟨waiting, zero, fits, _⟩ := good rfl
        have begun := arrived.started requests allocated recorded zero fits
        exact (begun.receiveMessage waiting).requests
    · rw [startMessage_closed arrival valid]
      exact contained.requests
  · rename_i waiting
    exact (arrived.receiveMessage waiting).requests

theorem Contained.descriptorReady (contained : Contained state) (harmless : state.Harmless arrival) :
    Contained (state.descriptorReady parses arrival) := by
  have bounded := contained.bounded parses arrival
  unfold Receiver.descriptorReady at bounded ⊢
  unfold Harmless announced at harmless
  set ready := { state with available := state.available ++ arrival.chunk }
  have arrived : Contained ready := contained.arrive arrival.chunk
  by_cases idle : ready.expectedSize = 0
  · rw [if_pos idle] at bounded ⊢
    by_cases valid : ready.valid = true
    · obtain ⟨after, started, requests, slow, size, allocated, recorded, good, bad⟩ :=
        startMessage_cases arrival valid arrived.allocated arrived.recorded
      rw [started] at bounded ⊢
      obtain ⟨after, go⟩ := after
      cases go with
      | false =>
        refine ⟨allocated, recorded, le_trans slow arrived.progress, ?_, bounded⟩
        intro waiting
        obtain ⟨buffer, current⟩ := bad rfl waiting
        have fits := harmless idle valid (by rw [← size]; exact waiting)
        rw [← size] at current fits
        rw [buffer]
        by_cases accepted : (ready.readHeader arrival.header).2.1 = protocolVersion ∧
            after.expectedSize ≤ maxBufferSize
        · rw [if_pos accepted] at current fits
          refine ⟨by rw [current.1]; exact Nat.zero_le _, fits.resolve_left ?_⟩
          rw [current.2]
          decide
        · rw [if_neg accepted] at current fits
          rw [current]
          exact fits
      | true =>
        obtain ⟨waiting, zero, fits, _⟩ := good rfl
        have begun := arrived.started requests allocated recorded zero fits
        exact begun.receiveMessage waiting
    · rw [startMessage_closed arrival valid] at bounded ⊢
      exact { arrived with
        expected := fun impossible => absurd rfl impossible
        requests := contained.requests }
  · rw [if_neg idle]
    exact arrived.receiveMessage idle

/-- What a header leaves that does harm. -/
theorem Contained.harmed (parses : List UInt8 → Bool) (contained : Contained state)
    (harmful : ¬ state.Harmless arrival) :
    (state.descriptorReady parses arrival).expectedSize ≠ 0 ∧
      (state.descriptorReady parses arrival).expectedSize < 2 ^ 28 ∧
      (state.descriptorReady parses arrival).currentSize ≤ maxBufferSize ∧
      (state.descriptorReady parses arrival).buffer.length ≤ maxBufferSize ∧
      ((state.descriptorReady parses arrival).expectedSize <
          (state.descriptorReady parses arrival).currentSize ∨
        (state.descriptorReady parses arrival).buffer.length <
          (state.descriptorReady parses arrival).expectedSize) := by
  unfold Harmless announced at harmful
  push Not at harmful
  unfold Receiver.descriptorReady
  set ready := { state with available := state.available ++ arrival.chunk }
  have arrived : Contained ready := contained.arrive arrival.chunk
  obtain ⟨idle, valid, nonzero, harm⟩ := harmful
  rw [if_pos (show ready.expectedSize = 0 from idle)]
  obtain ⟨after, started, requests, slow, size, allocated, recorded, good, bad⟩ :=
    @startMessage_cases ready arrival valid arrived.allocated arrived.recorded
  rw [started]
  obtain ⟨after, go⟩ := after
  cases go with
  | true =>
    obtain ⟨_, _, _, accepted, affordable⟩ := good rfl
    rw [if_pos accepted, ← size] at harm
    exact absurd affordable harm
  | false =>
    have waiting : after.expectedSize ≠ 0 := by rwa [size]
    have narrow : after.expectedSize < 2 ^ 28 := by
      rw [size]
      exact readHeader_size ready arrival.header
    obtain ⟨buffer, current⟩ := bad rfl waiting
    rw [← size] at current harm
    refine ⟨waiting, narrow, le_trans slow arrived.progress, allocated, ?_⟩
    rw [buffer]
    by_cases accepted : (ready.readHeader arrival.header).2.1 = protocolVersion ∧
        after.expectedSize ≤ maxBufferSize
    · rw [if_pos accepted] at harm
      right
      exact not_le.mp (fun fits => harm (Or.inr fits))
    · rw [if_neg accepted] at current harm
      rw [current]
      by_cases behind : ready.currentSize ≤ after.expectedSize
      · exact Or.inr (not_le.mp (fun fits => harm ⟨behind, fits⟩))
      · exact Or.inl (not_le.mp behind)

/-- After a header that does harm, the next call leaves the buffer. -/
theorem Contained.overrun (contained : Contained state) (harmful : ¬ state.Harmless arrival)
    (next : Arrival) :
    ¬ ∀ request ∈ ((state.descriptorReady parses arrival).descriptorReady parses next).requests,
      request.Bounded := by
  obtain ⟨waiting, narrow, progress, allocated, outside⟩ :=
    contained.harmed parses harmful
  set after := state.descriptorReady parses arrival
  unfold maxBufferSize at progress allocated
  intro bounded
  have asked : (after.descriptorReady parses next).requests = after.requests ++
      [⟨(after.expectedSize + 2 ^ 32 - after.currentSize) % 2 ^ 32, after.currentSize,
        after.buffer.length⟩] := by
    unfold Receiver.descriptorReady
    rw [if_neg waiting]
    exact receiveMessage_requests parses _
  rw [asked] at bounded
  have inside := bounded _ (List.mem_append_right _ (List.mem_singleton_self _))
  change (after.expectedSize + 2 ^ 32 - after.currentSize) % 2 ^ 32 + after.currentSize ≤
    after.buffer.length at inside
  omega

end Calls

theorem initial_contained : Contained initial :=
  ⟨by decide, by decide, by decide, fun impossible => absurd rfl impossible,
    fun _ member => absurd member List.not_mem_nil⟩

/-- No call of a run, and none behind it, asks for more than the buffer holds, if and only
if the headers of the run do no harm. -/
theorem requests_bounded_iff (parses : List UInt8 → Bool) (arrivals : List Arrival) :
    (∀ count next, ∀ request ∈ (run (descriptorReady parses) initial
        (arrivals.take count ++ [next])).requests, request.Bounded) ↔
      Permitted (descriptorReady parses) Harmless initial arrivals := by
  have equivalence := @always_iff_permitted _ _ (descriptorReady parses) Harmless Contained
    (fun state => ∀ next, ∀ request ∈ (state.descriptorReady parses next).requests, request.Bounded)
    (fun state contained => contained.bounded parses)
    (fun state arrival contained harmless => contained.descriptorReady harmless)
    (fun state arrival contained harmful bounded =>
      contained.overrun harmful arrival (bounded arrival))
    initial arrivals initial_contained
  rw [← equivalence]
  constructor
  · intro always count next
    have there := always count next
    rwa [run_append] at there
  · intro always count next
    rw [run_append]
    exact always count next

/-- A first header with version 2 and size 100: the next call reads into memory that was
never allocated. -/
theorem version_two_overruns :
    ¬ ∀ request ∈ (run (descriptorReady (fun _ => true)) initial
      [⟨[100, 0, 0, 32], 0, true⟩, ⟨[7], 0, true⟩]).requests, request.Bounded := by
  intro bounded
  have inside := bounded ⟨100, 0, 0⟩ (by decide +kernel)
  unfold Request.Bounded at inside
  exact absurd inside (by decide)

end Receiver

end OpenLighting.RpcChannel
