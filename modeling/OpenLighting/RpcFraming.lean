import OpenLighting.RpcReceiverBounds

namespace OpenLighting.RpcChannel

open NetworkUtils TransitionSystem List

/-- A message as it is sent: the header and the payload. -/
def frame (payload : List UInt8) : List UInt8 :=
  bytesOf 4 (encodeHeader (BitVec.ofNat 32 protocolVersion)
    (BitVec.ofNat 32 payload.length)).toNat ++ payload

def stream (payloads : List (List UInt8)) : List UInt8 := payloads.flatMap frame

/-- A payload that a header can announce and that the receiver takes. -/
def WellFormed (payload : List UInt8) : Prop :=
  0 < payload.length ∧ payload.length ≤ maxBufferSize

@[simp] theorem stream_nil : stream [] = [] := rfl

theorem stream_cons (payload : List UInt8) (payloads : List (List UInt8)) :
    stream (payload :: payloads) = frame payload ++ stream payloads := flatMap_cons

theorem frame_length (payload : List UInt8) : (frame payload).length = 4 + payload.length := by
  unfold frame
  rw [length_append, bytesOf_length]

/-- What starts with a frame starts with its header. -/
theorem split_header {available future payload tail : List UInt8} (enough : 4 ≤ available.length)
    (bytes : available ++ future = frame payload ++ tail) :
    available.take 4 = (frame payload).take 4 ∧ available.drop 4 ++ future = payload ++ tail := by
  have long : 4 ≤ (frame payload).length := by
    rw [frame_length]
    omega
  constructor
  · have front := congrArg (List.take 4) bytes
    rwa [take_append_of_le_length enough, take_append_of_le_length long] at front
  · have back := congrArg (List.drop 4) bytes
    rw [drop_append_of_le_length enough, drop_append_of_le_length long] at back
    rw [back]
    unfold frame
    rw [drop_left' (bytesOf_length 4 _)]

namespace Receiver

/-- A call that starts a message finds no byte or all bytes of the header. -/
def WholeHeader (state : Receiver) (arrival : Arrival) : Prop :=
  state.expectedSize = 0 → state.valid = true →
    (state.available ++ arrival.chunk).length = 0 ∨ 4 ≤ (state.available ++ arrival.chunk).length

section Headers

variable {state : Receiver}

theorem readHeader_frame {payload rest : List UInt8} (wellFormed : WellFormed payload)
    (header : BitVec 32) (found : state.available.take 4 = (frame payload).take 4)
    (left : state.available.drop 4 = rest) :
    state.readHeader header =
      ({ state with available := rest }, protocolVersion, payload.length) := by
  obtain ⟨positive, small⟩ := wellFormed
  unfold maxBufferSize at small
  have bytes : (frame payload).take 4 = bytesOf 4 (encodeHeader (BitVec.ofNat 32 protocolVersion)
      (BitVec.ofNat 32 payload.length)).toNat := by
    unfold frame
    rw [take_append_of_le_length (by rw [bytesOf_length]), take_of_length_le]
    rw [bytesOf_length]
  have number := @toNat_encodeHeader protocolVersion payload.length (by decide) (by omega)
  have value : (BitVec.ofNat 32 (2 ^ 28 * protocolVersion + payload.length)).toNat =
      2 ^ 28 + payload.length := by
    rw [BitVec.toNat_ofNat]
    unfold protocolVersion
    omega
  unfold readHeader
  dsimp only
  rw [found, bytes, left, if_neg (by simp [bytesOf]), drop_of_length_le (by simp),
    append_nil, valueOf_bytesOf, number, Nat.mod_eq_of_lt (by unfold protocolVersion; omega)]
  rw [decodeHeader_version, decodeHeader_size, value]
  refine Prod.ext rfl (Prod.ext ?_ ?_)
  · change (2 ^ 28 + payload.length) / 2 ^ 28 = 1
    omega
  · change (2 ^ 28 + payload.length) % 2 ^ 28 = payload.length
    omega

theorem startMessage_frame {payload rest : List UInt8} {arrival : Arrival}
    (wellFormed : WellFormed payload) (valid : state.valid = true)
    (allocated : state.buffer.length ≤ maxBufferSize)
    (recorded : state.bufferSize ≤ state.buffer.length) (memory : arrival.memory = true)
    (found : state.available.take 4 = (frame payload).take 4)
    (left : state.available.drop 4 = rest) :
    ∃ buffer bufferSize, state.startMessage arrival =
        ({ state with
            available := rest, expectedSize := payload.length, currentSize := 0,
            buffer := buffer, bufferSize := bufferSize }, true) ∧
      payload.length ≤ buffer.length ∧ buffer.length ≤ maxBufferSize ∧
      bufferSize ≤ buffer.length := by
  obtain ⟨buffer, recordedSize, after, fits, covers, enough, _, _⟩ :=
    @allocateMsgBuffer_cases
      { state with available := rest, expectedSize := payload.length, currentSize := 0 }
      payload.length arrival.memory allocated recorded wellFormed.2
  have size := enough memory
  refine ⟨buffer, _, ?_, le_trans size covers, fits, covers⟩
  unfold startMessage
  rw [if_pos valid, readHeader_frame wellFormed arrival.header found left]
  dsimp only
  rw [if_neg (Nat.ne_of_gt wellFormed.1), if_neg (not_not.mpr rfl), if_neg (not_lt.mpr wellFormed.2),
    after]
  refine Prod.ext rfl ?_
  rw [Bool.not_eq_true', decide_eq_false_iff_not]
  omega

end Headers

section Body

variable {parses : List UInt8 → Bool} {state : Receiver} {payload : List UInt8}

theorem take_fill {buffer data : List UInt8} {offset : Nat}
    (fits : offset + data.length ≤ buffer.length) :
    (fill buffer offset data).take (offset + data.length) = buffer.take offset ++ data := by
  have front : (buffer.take offset).length = offset := by
    rw [length_take]
    omega
  unfold fill
  rw [take_of_length_le (by omega : data.length ≤ buffer.length - offset), take_left']
  rw [length_append, front]

/-- The message is read as far as it has arrived. -/
structure Reading (state : Receiver) (payload : List UInt8) : Prop where
  valid : state.valid = true
  expected : state.expectedSize = payload.length
  started : state.currentSize < payload.length
  fits : payload.length ≤ state.buffer.length
  small : payload.length ≤ maxBufferSize
  copied : state.buffer.take state.currentSize = payload.take state.currentSize

theorem Reading.receive (parses : List UInt8 → Bool) (reading : Reading state payload)
    {data : List UInt8}
    (taken : state.available.take (payload.length - state.currentSize) = data)
    (right : data = (payload.drop state.currentSize).take data.length) :
    ∃ buffer requests, buffer.length = state.buffer.length ∧
      buffer.take (state.currentSize + data.length) =
        payload.take (state.currentSize + data.length) ∧
      state.receiveMessage parses =
        if state.currentSize + data.length = payload.length then
          { state with
            buffer := buffer, requests := requests, currentSize := payload.length,
            available := state.available.drop (payload.length - state.currentSize),
            handed := state.handed ++ [payload], valid := parses payload, expectedSize := 0 }
        else
          { state with
            buffer := buffer, requests := requests,
            currentSize := state.currentSize + data.length,
            available := state.available.drop (payload.length - state.currentSize) } := by
  have started := reading.started
  have fits := reading.fits
  have small := reading.small
  unfold maxBufferSize at small
  have size : (state.expectedSize + 2 ^ 32 - state.currentSize) % 2 ^ 32 =
      payload.length - state.currentSize := by
    rw [reading.expected]
    omega
  have short : data.length ≤ payload.length - state.currentSize := by
    rw [← taken, length_take]
    omega
  have sum : (state.currentSize + data.length) % 2 ^ 32 = state.currentSize + data.length := by
    omega
  have copied : (fill state.buffer state.currentSize data).take (state.currentSize + data.length) =
      payload.take (state.currentSize + data.length) := by
    rw [take_fill (by omega), reading.copied, take_add, ← right]
  refine ⟨fill state.buffer state.currentSize data,
    state.requests ++
      [⟨payload.length - state.currentSize, state.currentSize, state.buffer.length⟩],
    fill_length (by omega), copied, ?_⟩
  unfold receiveMessage
  dsimp only
  rw [size, taken, sum, if_pos reading.valid, reading.expected]
  split
  · rename_i complete
    have whole : (fill state.buffer state.currentSize data).take payload.length = payload := by
      rw [← complete, copied, complete, take_length]
    rw [whole, complete]
  · rfl

end Body

section Arrival

variable {available future front rest : List UInt8}

/-- What has arrived is a part of the stream. -/
theorem take_of_append_eq (bytes : available ++ future = front ++ rest) :
    available.take front.length = front.take (available.take front.length).length := by
  have start : available.take front.length <+: front ++ rest := by
    rw [← bytes]
    exact (List.take_prefix front.length available).trans (prefix_append _ _)
  have inside : (available.take front.length).length ≤ front.length := by
    rw [length_take]
    omega
  rw [prefix_iff_eq_take, take_append_of_le_length inside] at start
  exact start

theorem drop_of_append_eq (bytes : available ++ future = front ++ rest)
    (whole : available.take front.length = front) :
    available.drop front.length ++ future = rest := by
  have split := take_append_drop front.length available
  rw [← split, append_assoc, whole] at bytes
  exact append_cancel_left bytes

/-- What is still to come, if everything that has arrived is in front. -/
theorem future_of_append_eq (bytes : available ++ future = front ++ rest)
    (inside : available.take front.length = available) :
    future = front.drop available.length ++ rest := by
  have part := take_of_append_eq bytes
  rw [inside] at part
  have both := take_append_drop available.length front
  rw [← part] at both
  rw [← both, append_assoc] at bytes
  exact append_cancel_left bytes

end Arrival

section Steps

variable {parses : List UInt8 → Bool} {payloads rest : List (List UInt8)} {state : Receiver}
  {future : List UInt8}

/-- Where the receiver is in the stream: `rest` has not been handed over, `future` has not
arrived. -/
inductive Position (rest : List (List UInt8)) (state : Receiver) (future : List UInt8) : Prop where
  | idle (waiting : state.expectedSize = 0) (bytes : state.available ++ future = stream rest)
  | busy (payload : List UInt8) (more : List (List UInt8)) (split : rest = payload :: more)
      (reading : Reading state payload)
      (bytes : state.available ++ future = payload.drop state.currentSize ++ stream more)

/-- The payloads before `rest` have been handed over. -/
structure Synced (parses : List UInt8 → Bool) (payloads rest : List (List UInt8))
    (state : Receiver) (future : List UInt8) : Prop where
  handed : state.handed ++ rest = payloads
  parsed : ∀ payload ∈ state.handed, parses payload = true
  valid : state.valid = true
  allocated : state.buffer.length ≤ maxBufferSize
  recorded : state.bufferSize ≤ state.buffer.length
  position : Position rest state future

/-- The descriptor was closed behind a payload that does not parse. -/
structure Stopped (parses : List UInt8 → Bool) (payloads rest : List (List UInt8))
    (state : Receiver) : Prop where
  handed : state.handed ++ rest = payloads
  valid : state.valid = false
  waiting : state.expectedSize = 0
  last : ∃ front payload, state.handed = front ++ [payload] ∧ parses payload = false ∧
    ∀ other ∈ front, parses other = true

/-- A message is read further, or to its end. -/
theorem Synced.receiveMessage {payload : List UInt8} {more : List (List UInt8)}
    (handed : state.handed ++ payload :: more = payloads)
    (parsed : ∀ other ∈ state.handed, parses other = true)
    (allocated : state.buffer.length ≤ maxBufferSize)
    (recorded : state.bufferSize ≤ state.buffer.length) (reading : Reading state payload)
    (bytes : state.available ++ future = payload.drop state.currentSize ++ stream more) :
    Synced parses payloads more (state.receiveMessage parses) future ∨
      Stopped parses payloads more (state.receiveMessage parses) ∨
      (Synced parses payloads (payload :: more) (state.receiveMessage parses) future ∧
        state.available.length < payload.length - state.currentSize) := by
  set missing := payload.length - state.currentSize with amount
  have tail : (payload.drop state.currentSize).length = missing := length_drop
  set data := state.available.take missing with taken
  have right : data = (payload.drop state.currentSize).take data.length := by
    rw [taken, ← tail]
    exact take_of_append_eq bytes
  obtain ⟨buffer, requests, length, copied, after⟩ :=
    reading.receive parses taken.symm right
  rw [after]
  have started := reading.started
  by_cases complete : state.currentSize + data.length = payload.length
  · rw [if_pos complete]
    have whole : data = payload.drop state.currentSize := by
      rw [right, take_of_length_le]
      omega
    have remaining : state.available.drop missing ++ future = stream more := by
      rw [← tail]
      exact drop_of_append_eq bytes (by rw [tail, ← taken, whole])
    have kept : (state.handed ++ [payload]) ++ more = payloads := by
      rw [append_assoc, singleton_append, handed]
    by_cases accepted : parses payload = true
    · left
      refine ⟨kept, ?_, accepted, le_of_eq_of_le length allocated,
        le_of_le_of_eq recorded length.symm, .idle rfl remaining⟩
      intro other member
      rcases mem_append.mp member with before | here
      · exact parsed other before
      · rw [mem_singleton.mp here]
        exact accepted
    · right
      left
      exact ⟨kept, Bool.eq_false_iff.mpr accepted, rfl,
        ⟨state.handed, payload, rfl, Bool.eq_false_iff.mpr accepted, parsed⟩⟩
  · rw [if_neg complete]
    right
    right
    have short : state.available.length < missing := by
      rw [taken, length_take] at complete
      omega
    have everything : data = state.available := by
      rw [taken, take_of_length_le (by omega)]
    rw [everything] at complete copied ⊢
    refine ⟨⟨handed, parsed, reading.valid, le_of_eq_of_le length allocated,
      le_of_le_of_eq recorded length.symm, .busy payload more rfl ?_ ?_⟩, short⟩
    · refine ⟨reading.valid, reading.expected, ?_, le_of_le_of_eq reading.fits length.symm,
        reading.small, copied⟩
      change state.currentSize + state.available.length < payload.length
      omega
    · have left := future_of_append_eq bytes (by rw [tail, ← taken, everything])
      rw [drop_drop] at left
      rw [drop_of_length_le (by omega), nil_append]
      exact left

/-- The rest of a call for a message whose start has been read. Without bytes to come it hands
over the payload. -/
theorem Synced.body {before : Receiver} {payload : List UInt8} {more : List (List UInt8)}
    (kept : state.handed ++ payload :: more = payloads) (handed : before.handed = state.handed)
    (parsed : ∀ other ∈ state.handed, parses other = true)
    (allocated : before.buffer.length ≤ maxBufferSize)
    (recorded : before.bufferSize ≤ before.buffer.length) (reading : Reading before payload)
    (bytes : before.available ++ future = payload.drop before.currentSize ++ stream more) :
    ∃ remaining, (Synced parses payloads remaining (before.receiveMessage parses) future ∨
        Stopped parses payloads remaining (before.receiveMessage parses)) ∧
      (future = [] → remaining = more) := by
  rw [← handed] at kept parsed
  rcases Synced.receiveMessage kept parsed allocated recorded reading bytes with
    done | stopped | ⟨unfinished, short⟩
  · exact ⟨more, Or.inl done, fun _ => rfl⟩
  · exact ⟨more, Or.inr stopped, fun _ => rfl⟩
  · refine ⟨payload :: more, Or.inl unfinished, ?_⟩
    intro finished
    have lengths := congrArg List.length bytes
    rw [finished, append_nil, length_append, length_drop] at lengths
    omega

/-- Without new bytes the start of a message changes nothing. -/
theorem startMessage_nothing {arrival : Arrival} (valid : state.valid = true)
    (waiting : state.expectedSize = 0) (nothing : state.available = []) :
    state.startMessage arrival = (state, false) := by
  obtain ⟨buffer, bufferSize, expectedSize, currentSize, opened, available, requests, handed⟩ := state
  subst waiting nothing
  unfold startMessage readHeader
  rw [if_pos valid]
  rfl

/-- One call, when the header is whole. Behind the last byte it hands over a payload. -/
theorem Synced.step {arrival : Arrival} (wellFormed : ∀ payload ∈ payloads, WellFormed payload)
    (synced : Synced parses payloads rest state (arrival.chunk ++ future))
    (whole : state.WholeHeader arrival) (memory : arrival.memory = true) :
    ∃ remaining, (Synced parses payloads remaining (state.descriptorReady parses arrival) future ∨
        Stopped parses payloads remaining (state.descriptorReady parses arrival)) ∧
      (future = [] → remaining = rest.tail) := by
  unfold descriptorReady
  have bytes := synced.position
  set ready := { state with available := state.available ++ arrival.chunk } with arrived
  cases bytes with
  | idle waiting bytes =>
    rw [← append_assoc] at bytes
    rw [if_pos (show ready.expectedSize = 0 from waiting)]
    rcases whole waiting synced.valid with nothing | enough
    · have none : ready.available = [] := length_eq_zero_iff.mp nothing
      rw [@startMessage_nothing ready arrival synced.valid waiting none]
      refine ⟨rest, Or.inl { synced with position := .idle waiting bytes }, ?_⟩
      intro finished
      rw [finished, append_nil, length_eq_zero_iff.mp nothing] at bytes
      cases rest with
      | nil => rfl
      | cons payload more =>
        have lengths := congrArg List.length bytes
        rw [stream_cons, length_append, frame_length, length_nil] at lengths
        omega
    · cases rest with
      | nil =>
        have lengths := congrArg List.length bytes
        rw [stream_nil, length_append, length_nil] at lengths
        omega
      | cons payload more =>
        have member : payload ∈ payloads := by
          rw [← synced.handed]
          exact mem_append_right _ mem_cons_self
        rw [stream_cons] at bytes
        obtain ⟨found, left⟩ := split_header enough bytes
        obtain ⟨buffer, bufferSize, started, fits, allocated, recorded⟩ :=
          @startMessage_frame ready payload _ arrival (wellFormed payload member) synced.valid
            synced.allocated synced.recorded memory found rfl
        rw [started]
        exact @Synced.body parses payloads state future _ payload more synced.handed rfl
          synced.parsed allocated recorded
          ⟨synced.valid, rfl, (wellFormed payload member).1, fits,
            (wellFormed payload member).2, rfl⟩ left
  | busy payload more split reading bytes =>
    have waiting : ready.expectedSize ≠ 0 := by
      have started := reading.started
      have expected : ready.expectedSize = payload.length := reading.expected
      omega
    rw [if_neg waiting]
    subst split
    exact @Synced.body parses payloads state future ready payload more synced.handed rfl
      synced.parsed synced.allocated synced.recorded
      { reading with } (by rw [← bytes, ← append_assoc])

/-- A closed descriptor stays closed. -/
theorem Stopped.step (stopped : Stopped parses payloads rest state) (arrival : Arrival) :
    Stopped parses payloads rest (state.descriptorReady parses arrival) := by
  unfold descriptorReady
  rw [if_pos stopped.waiting, startMessage_closed arrival
    (by change ¬ state.valid = true; rw [stopped.valid]; decide)]
  exact { stopped with waiting := rfl }

end Steps

section Cuts

variable {parses : List UInt8 → Bool} {state : Receiver}

theorem readHeader_cut {read : List UInt8} (found : state.available = read)
    (nonempty : read ≠ []) (short : read.length < 4) :
    (state.readHeader 0x1fffffff).2.1 = protocolVersion ∧
      maxBufferSize < (state.readHeader 0x1fffffff).2.2 := by
  have stale : bytesOf 4 (0x1fffffff : BitVec 32).toNat = [255, 255, 255, 31] := by decide
  have value : ∃ low < 2 ^ 24, valueOf (read ++ [255, 255, 255, 31].drop read.length) =
      2 ^ 24 * 31 + low := by
    match read, nonempty, short with
    | [first], _, _ =>
      have := first.toNat_lt
      exact ⟨first.toNat + 256 * (255 + 256 * 255), by omega, by
        simp only [length_singleton, drop_succ_cons, drop_zero, cons_append,
          nil_append, valueOf, UInt8.reduceToNat]
        omega⟩
    | [first, second], _, _ =>
      have := first.toNat_lt
      have := second.toNat_lt
      exact ⟨first.toNat + 256 * (second.toNat + 256 * 255), by omega, by
        simp only [length_cons, length_nil, drop_succ_cons, drop_zero,
          cons_append, nil_append, valueOf, UInt8.reduceToNat]
        omega⟩
    | [first, second, third], _, _ =>
      have := first.toNat_lt
      have := second.toNat_lt
      have := third.toNat_lt
      exact ⟨first.toNat + 256 * (second.toNat + 256 * third.toNat), by omega, by
        simp only [length_cons, length_nil, drop_succ_cons, drop_zero,
          cons_append, nil_append, valueOf, UInt8.reduceToNat]
        omega⟩
  obtain ⟨low, small, value⟩ := value
  have number : (BitVec.ofNat 32 (2 ^ 24 * 31 + low)).toNat = 2 ^ 24 * 31 + low := by
    rw [BitVec.toNat_ofNat]
    omega
  unfold readHeader
  dsimp only
  rw [found, take_of_length_le (by omega), if_neg (by simpa using nonempty), stale, value]
  dsimp only
  rw [decodeHeader_version, decodeHeader_size, number]
  unfold protocolVersion maxBufferSize
  constructor
  · omega
  · omega

/-- A cut inside a header: the bytes of the header are lost, and with an unlucky value in the
memory of the local variable the descriptor is closed. -/
theorem descriptorReady_cut {chunk : List UInt8} (waiting : state.expectedSize = 0)
    (valid : state.valid = true) (nonempty : state.available ++ chunk ≠ [])
    (short : (state.available ++ chunk).length < 4) :
    (state.descriptorReady parses ⟨chunk, 0x1fffffff, true⟩).handed = state.handed ∧
      (state.descriptorReady parses ⟨chunk, 0x1fffffff, true⟩).valid = false ∧
      (state.descriptorReady parses ⟨chunk, 0x1fffffff, true⟩).expectedSize ≠ 0 := by
  unfold descriptorReady
  set ready := { state with available := state.available ++ chunk }
  obtain ⟨version, size⟩ := @readHeader_cut ready _ rfl nonempty short
  have shape : (ready.readHeader 0x1fffffff).1 =
      { ready with available := ready.available.drop 4 } := by
    unfold readHeader
    dsimp only
    split <;> rfl
  rw [if_pos (show ready.expectedSize = 0 from waiting)]
  unfold startMessage
  rw [if_pos (show ready.valid = true from valid)]
  generalize ready.readHeader 0x1fffffff = result at version size shape ⊢
  obtain ⟨read, announced, expected⟩ := result
  dsimp only at version size shape ⊢
  have nonzero : expected ≠ 0 := by omega
  rw [if_neg nonzero, if_neg (not_not.mpr version), if_pos size, shape]
  exact ⟨rfl, rfl, nonzero⟩

/-- Nothing is handed over behind such a cut. -/
theorem run_closed (closed : state.valid = false) (waiting : state.expectedSize ≠ 0)
    (arrivals : List Arrival) :
    (run (descriptorReady parses) state arrivals).handed = state.handed := by
  induction arrivals generalizing state with
  | nil => rfl
  | cons arrival arrivals ih =>
    have still : (state.descriptorReady parses arrival).handed = state.handed ∧
        (state.descriptorReady parses arrival).valid = false ∧
        (state.descriptorReady parses arrival).expectedSize ≠ 0 := by
      unfold descriptorReady receiveMessage
      rw [if_neg waiting, if_neg (by rw [closed]; decide)]
      exact ⟨rfl, closed, waiting⟩
    rw [run_cons, ih still.2.1 still.2.2, still.1]

end Cuts

section Runs

variable {parses : List UInt8 → Bool} {payloads rest : List (List UInt8)} {state : Receiver}

def calls (chunks : List (List UInt8)) : List Arrival := chunks.map (fun chunk => ⟨chunk, 0, true⟩)

theorem map_chunk_calls (chunks : List (List UInt8)) :
    (calls chunks).map Arrival.chunk = chunks := by
  unfold calls
  rw [map_map]
  exact map_id _

theorem memory_calls {chunks : List (List UInt8)} {arrival : Arrival}
    (member : arrival ∈ calls chunks) : arrival.memory = true := by
  obtain ⟨_, _, rfl⟩ := mem_map.mp member
  rfl

/-- A whole header covers what was in the memory of the local variable. -/
theorem descriptorReady_header {arrival : Arrival} (whole : state.WholeHeader arrival) :
    state.descriptorReady parses arrival =
      state.descriptorReady parses { arrival with header := 0 } := by
  unfold descriptorReady
  dsimp only
  by_cases waiting : state.expectedSize = 0
  · by_cases valid : state.valid = true
    · have same : { state with available := state.available ++ arrival.chunk }.readHeader
          arrival.header =
          { state with available := state.available ++ arrival.chunk }.readHeader 0 := by
        unfold readHeader
        dsimp only
        rcases whole waiting valid with nothing | enough
        · rw [length_eq_zero_iff.mp nothing]
          rfl
        · have covered : ∀ header : BitVec 32, (bytesOf 4 header.toNat).drop
              ((state.available ++ arrival.chunk).take 4).length = [] := by
            intro header
            rw [length_take_of_le enough, drop_of_length_le]
            rw [bytesOf_length]
          rw [covered, covered]
      unfold startMessage
      dsimp only
      rw [same]
    · rw [@startMessage_closed { state with available := state.available ++ arrival.chunk } _ valid,
        @startMessage_closed { state with available := state.available ++ arrival.chunk } _ valid]
  · rw [if_neg waiting, if_neg waiting]

theorem run_header {arrivals : List Arrival} (memory : ∀ arrival ∈ arrivals, arrival.memory = true)
    (permitted : Permitted (descriptorReady parses) WholeHeader state
      (calls (arrivals.map Arrival.chunk))) :
    run (descriptorReady parses) state arrivals =
      run (descriptorReady parses) state (calls (arrivals.map Arrival.chunk)) := by
  induction arrivals generalizing state with
  | nil => rfl
  | cons arrival arrivals ih =>
    have whole : state.WholeHeader arrival := permitted.1
    have same : state.descriptorReady parses arrival =
        state.descriptorReady parses ⟨arrival.chunk, 0, true⟩ := by
      rw [descriptorReady_header whole, memory arrival mem_cons_self]
    unfold calls
    rw [map_cons, map_cons, run_cons, run_cons, same]
    exact ih (fun other member => memory other (mem_cons_of_mem arrival member)) permitted.2

theorem Stopped.run (stopped : Stopped parses payloads rest state) (arrivals : List Arrival) :
    Stopped parses payloads rest (run (descriptorReady parses) state arrivals) :=
  run_invariant (fun _ arrival stopped _ => stopped.step arrival) stopped (permitted_true _ _ _)

theorem Stopped.permitted (stopped : Stopped parses payloads rest state) (arrivals : List Arrival) :
    Permitted (descriptorReady parses) WholeHeader state arrivals := by
  induction arrivals generalizing state with
  | nil => trivial
  | cons arrival arrivals ih =>
    refine ⟨?_, ih (stopped.step arrival)⟩
    intro _ valid
    rw [stopped.valid] at valid
    cases valid

variable (wellFormed : ∀ payload ∈ payloads, WellFormed payload)

include wellFormed

/-- The chunks arrive one after the other. -/
theorem Synced.run {chunks : List (List UInt8)} {future : List UInt8}
    (synced : Synced parses payloads rest state (chunks.flatten ++ future))
    (permitted : Permitted (descriptorReady parses) WholeHeader state (calls chunks)) :
    ∃ remaining,
      Synced parses payloads remaining (run (descriptorReady parses) state (calls chunks)) future ∨
      Stopped parses payloads remaining (run (descriptorReady parses) state (calls chunks)) := by
  induction chunks generalizing state rest with
  | nil => exact ⟨rest, Or.inl synced⟩
  | cons chunk chunks ih =>
    rw [flatten_cons, append_assoc] at synced
    obtain ⟨remaining, next, _⟩ :=
      @Synced.step parses payloads rest state (chunks.flatten ++ future) ⟨chunk, 0, true⟩ wellFormed
        synced permitted.1 rfl
    rcases next with next | stopped
    · exact ih next permitted.2
    · exact ⟨remaining, Or.inr (stopped.run _)⟩

/-- When everything has arrived, every call hands over a payload. -/
theorem Synced.drain {count : Nat} (synced : Synced parses payloads rest state [])
    (few : rest.length ≤ count)
    (permitted : Permitted (descriptorReady parses) WholeHeader state
      (calls (List.replicate count []))) :
    Synced parses payloads [] (TransitionSystem.run (descriptorReady parses) state
        (calls (List.replicate count []))) [] ∨
      ∃ remaining, Stopped parses payloads remaining (TransitionSystem.run (descriptorReady parses)
        state (calls (List.replicate count []))) := by
  induction count generalizing state rest with
  | zero =>
    rw [length_eq_zero_iff.mp (Nat.le_zero.mp few)] at synced
    exact Or.inl synced
  | succ count ih =>
    obtain ⟨remaining, next, shorter⟩ :=
      @Synced.step parses payloads rest state [] ⟨[], 0, true⟩ wellFormed synced permitted.1 rfl
    have fewer : remaining.length ≤ count := by
      rw [shorter rfl, length_tail]
      omega
    rcases next with next | stopped
    · exact ih next fewer permitted.2
    · exact Or.inr ⟨remaining, stopped.run _⟩

/-- A cut inside a header can lose a payload. -/
theorem Synced.cut {chunks : List (List UInt8)} {future : List UInt8}
    (synced : Synced parses payloads rest state (chunks.flatten ++ future))
    (refused : ¬ Permitted (descriptorReady parses) WholeHeader state (calls chunks)) :
    ∃ arrivals : List Arrival, arrivals.map Arrival.chunk = chunks ∧
      (∀ arrival ∈ arrivals, arrival.memory = true) ∧
      (TransitionSystem.run (descriptorReady parses) state arrivals).handed ≠ payloads := by
  induction chunks generalizing state rest with
  | nil => exact absurd trivial refused
  | cons chunk chunks ih =>
    rw [flatten_cons, append_assoc] at synced
    by_cases whole : state.WholeHeader ⟨chunk, 0, true⟩
    · obtain ⟨remaining, next, _⟩ :=
        @Synced.step parses payloads rest state (chunks.flatten ++ future) ⟨chunk, 0, true⟩
          wellFormed synced whole rfl
      have later : ¬ Permitted (descriptorReady parses) WholeHeader
          (state.descriptorReady parses ⟨chunk, 0, true⟩) (calls chunks) :=
        fun permitted => refused ⟨whole, permitted⟩
      rcases next with next | stopped
      · obtain ⟨arrivals, same, memory, lost⟩ := ih next later
        refine ⟨⟨chunk, 0, true⟩ :: arrivals, by rw [map_cons, same], ?_, lost⟩
        intro arrival member
        rcases mem_cons.mp member with rfl | member
        · rfl
        · exact memory arrival member
      · exact absurd (stopped.permitted _) later
    · unfold WholeHeader at whole
      push Not at whole
      obtain ⟨waiting, valid, nonempty, short⟩ := whole
      obtain ⟨handed, closed, stuck⟩ := @descriptorReady_cut parses state chunk waiting valid
        (fun empty => nonempty (length_eq_zero_iff.mpr empty)) short
      refine ⟨⟨chunk, 0x1fffffff, true⟩ :: calls chunks, ?_, ?_, ?_⟩
      · rw [map_cons, map_chunk_calls]
      · intro arrival member
        rcases mem_cons.mp member with rfl | member
        · rfl
        · exact memory_calls member
      · rw [run_cons, run_closed closed stuck, handed, ← synced.handed]
        intro same
        have none : rest = [] := by
          have lengths := congrArg List.length same
          rw [length_append] at lengths
          exact length_eq_zero_iff.mp (by omega)
        have bytes := synced.position
        rw [none] at bytes
        cases bytes with
        | idle _ bytes =>
          rw [stream_nil, ← append_assoc] at bytes
          exact nonempty (by rw [(append_eq_nil_iff.mp bytes).1]; rfl)
        | busy payload more split => cases split

omit wellFormed

theorem initial_synced (parses : List UInt8 → Bool) (payloads : List (List UInt8)) :
    Synced parses payloads payloads initial (stream payloads) :=
  ⟨rfl, fun _ member => absurd member not_mem_nil, rfl, by decide, by decide, .idle rfl rfl⟩

/-- All payloads but the last one parse. -/
def Parsable (parses : List UInt8 → Bool) (payloads : List (List UInt8)) : Prop :=
  ∀ payload ∈ payloads.dropLast, parses payload = true

theorem Stopped.handed_iff (stopped : Stopped parses payloads rest state) :
    state.handed = payloads ↔ Parsable parses payloads := by
  obtain ⟨front, payload, split, refused, parsed⟩ := stopped.last
  constructor
  · intro same other member
    rw [← same, split, dropLast_concat] at member
    exact parsed other member
  · intro parsable
    have none : rest = [] := by
      rcases rest.eq_nil_or_concat' with empty | ⟨init, last, rfl⟩
      · exact empty
      · have member : payload ∈ payloads.dropLast := by
          rw [← stopped.handed, split, ← append_assoc, dropLast_concat]
          simp
        rw [parsable payload member] at refused
        cases refused
    rw [← stopped.handed, none, append_nil]

/-- Whatever the chunks are and whatever the memory of the local variable holds, the payloads
are handed over in order, if and only if all of them but the last one parse and no call
that starts a message finds a part of its header. -/
theorem payloads_handed_iff (parses : List UInt8 → Bool) {payloads chunks : List (List UInt8)}
    (wellFormed : ∀ payload ∈ payloads, WellFormed payload)
    (cut : chunks.flatten = stream payloads) :
    (∀ arrivals : List Arrival,
      arrivals.map Arrival.chunk = chunks ++ List.replicate payloads.length [] →
      (∀ arrival ∈ arrivals, arrival.memory = true) →
        (TransitionSystem.run (descriptorReady parses) initial arrivals).handed = payloads) ↔
      Parsable parses payloads ∧
        Permitted (descriptorReady parses) WholeHeader initial
          (calls (chunks ++ List.replicate payloads.length [])) := by
  have empty : (chunks ++ List.replicate payloads.length []).flatten ++ [] = stream payloads := by
    rw [List.append_nil, List.flatten_append, cut, List.flatten_replicate_nil, List.append_nil]
  have start := initial_synced parses payloads
  have final : Permitted (descriptorReady parses) WholeHeader initial
      (calls (chunks ++ List.replicate payloads.length [])) →
      ((TransitionSystem.run (descriptorReady parses) initial
        (calls (chunks ++ List.replicate payloads.length []))).handed = payloads ↔
          Parsable parses payloads) := by
    intro permitted
    have split : calls (chunks ++ List.replicate payloads.length []) =
        calls chunks ++ calls (List.replicate payloads.length []) := List.map_append
    rw [split] at permitted ⊢
    rw [permitted_append_iff] at permitted
    rw [run_append]
    have arrived : Synced parses payloads payloads initial (chunks.flatten ++ []) := by
      rw [List.append_nil, cut]
      exact start
    obtain ⟨rest, middle⟩ := arrived.run wellFormed permitted.1
    rcases middle with synced | stopped
    · have few : rest.length ≤ payloads.length := by
        rw [← synced.handed, List.length_append]
        omega
      rcases synced.drain wellFormed few permitted.2 with done | ⟨remaining, stopped⟩
      · have handed := done.handed
        rw [List.append_nil] at handed
        constructor
        · intro _ payload member
          apply done.parsed
          rw [handed]
          exact List.dropLast_subset _ member
        · intro _
          exact handed
      · exact stopped.handed_iff
    · exact (stopped.run _).handed_iff
  constructor
  · intro all
    by_cases permitted : Permitted (descriptorReady parses) WholeHeader initial
        (calls (chunks ++ List.replicate payloads.length []))
    · exact ⟨(final permitted).mp (all _ (map_chunk_calls _) (fun _ => memory_calls)), permitted⟩
    · rw [← empty] at start
      obtain ⟨arrivals, same, memory, lost⟩ := start.cut wellFormed permitted
      exact absurd (all arrivals same memory) lost
  · rintro ⟨parsable, permitted⟩ arrivals same memory
    rw [← same] at permitted
    rw [run_header memory permitted, same]
    rw [same] at permitted
    exact (final permitted).mpr parsable

/-- A message that is cut behind its header. -/
theorem whole_header_handed :
    (TransitionSystem.run (descriptorReady (fun _ => true)) initial
      [⟨[1, 0, 0, 16], 5, true⟩, ⟨[42], 6, true⟩, ⟨[], 7, true⟩]).handed = [[42]] := by
  have wellFormed : ∀ payload ∈ [[42]], WellFormed payload := by
    intro payload member
    rw [List.mem_singleton.mp member]
    unfold WellFormed
    decide
  refine (@payloads_handed_iff (fun _ => true) [[42]] [[1, 0, 0, 16], [42]] wellFormed
    (by decide +kernel)).mpr ⟨fun _ _ => rfl, ?_, ?_, ?_, trivial⟩ _ rfl ?_
  · exact fun _ _ => Or.inr (by decide)
  · exact fun waiting => absurd waiting (by decide +kernel)
  · exact fun _ _ => Or.inl (by decide +kernel)
  · decide

/-- A message that is cut inside its header, while the local variable still holds the header
before it: the rest of the header is taken for the payload. -/
theorem cut_header_misread :
    [[1, 0], [0, 16, 42]].flatten = stream [[42]] ∧
      (TransitionSystem.run (descriptorReady (fun _ => true)) initial
        [⟨[1, 0], 0x10000001, true⟩, ⟨[0, 16, 42], 0x10000001, true⟩,
          ⟨[], 0x10000001, true⟩]).handed ≠ [[42]] := by
  decide +kernel

end Runs

end Receiver

end OpenLighting.RpcChannel
