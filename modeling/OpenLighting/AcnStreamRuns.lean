import OpenLighting.AcnStreamParser

/- A receiver of an ACN stream does the same however the bytes arrive. -/
namespace OpenLighting.Acn.Stream

open ByteCodec TransitionSystem Descriptor List

namespace Transport
variable {Header : Type} {layer : Layer Header} {transport : Transport} {consumed : List UInt8}

def view (transport : Transport) : Parser :=
  ⟨transport.machine, transport.buffer.take transport.machine.dataLength⟩

/-- The receiver is where the bytes that it has read take it. -/
structure Corresponds (layer : Layer Header) (transport : Transport) (consumed : List UInt8) :
    Prop where
  settled : transport.view.settle layer = Parser.parsed layer consumed
  within : transport.machine.dataLength ≤ transport.buffer.length
  ended : transport.machine.valid = false → transport.machine.outstanding = 0
  still : transport.running = false → transport.view.Stable
  inside : ∀ access ∈ transport.accesses, access.Inside

theorem corresponds_initial (layer : Layer Header) : Corresponds layer initial [] := by
  refine ⟨rfl, Nat.le_refl 0, fun invalid => Bool.noConfusion invalid, fun _ => ?_, ?_⟩
  · exact Or.inr (Nat.succ_ne_zero 19)
  · exact fun access member => absurd member not_mem_nil

def readBuffer (transport : Transport) : List UInt8 :=
  (if transport.machine.outstanding > transport.buffer.length - transport.machine.dataLength then
    transport.increaseBufferSize (transport.machine.dataLength + transport.machine.outstanding)
  else transport).buffer

theorem readBuffer_spec (within : transport.machine.dataLength ≤ transport.buffer.length) :
    transport.readBuffer.take transport.machine.dataLength =
        transport.buffer.take transport.machine.dataLength ∧
      transport.machine.dataLength + transport.machine.outstanding ≤
        transport.readBuffer.length := by
  unfold readBuffer
  split
  · unfold increaseBufferSize
    split
    · exact ⟨rfl, by assumption⟩
    · have length : (transport.buffer.take transport.machine.dataLength).length =
          transport.machine.dataLength := length_take_of_le within
      constructor
      · exact take_left' length
      · rw [length_append, length, length_replicate]
        omega
  · exact ⟨rfl, by omega⟩

theorem readRequiredData_of_outstanding (asks : transport.machine.outstanding ≠ 0) :
    transport.readRequiredData =
      let received := Descriptor.receive transport.machine.outstanding transport.pending
        transport.readBuffer transport.machine.dataLength
      ⟨transport.machine.received received.dataRead, received.buffer,
        transport.accesses ++ received.accesses, received.pending, transport.running⟩ := by
  unfold readRequiredData readBuffer
  rw [if_neg asks]
  split
  · unfold increaseBufferSize
    split <;> rfl
  · rfl

def readBytes (transport : Transport) : List UInt8 :=
  collected transport.machine.outstanding transport.pending

theorem readRequiredData_pending (transport : Transport) :
    transport.readBytes ++ transport.readRequiredData.pending.flatten =
        transport.pending.flatten ∧
      transport.readRequiredData.machine =
        transport.machine.received transport.readBytes.length := by
  by_cases asks : transport.machine.outstanding = 0
  · have nothing : transport.readBytes = [] := by
      unfold readBytes
      rw [asks, collected_zero]
    have same : transport.readRequiredData = transport := if_pos asks
    rw [same, nothing]
    exact ⟨rfl, rfl⟩
  · have read := collected_append_pending transport.machine.outstanding transport.pending
      transport.readBuffer transport.machine.dataLength 0
    rw [readRequiredData_of_outstanding asks]
    rw [Nat.sub_zero, Nat.zero_add] at read
    refine ⟨read.1, ?_⟩
    dsimp only
    rw [Descriptor.receive, read.2]
    rfl

/-- Reading is like getting the bytes one by one. -/
theorem Corresponds.readRequiredData (corresponds : Corresponds layer transport consumed)
    (contiguous : Descriptor.Contiguous transport.machine.outstanding transport.pending) :
    let next := transport.readRequiredData
    next.view.settle layer = Parser.parsed layer (consumed ++ transport.readBytes) ∧
      next.machine.dataLength ≤ next.buffer.length ∧
      (next.machine.valid = false → next.machine.outstanding = 0) ∧
      ∀ access ∈ next.accesses, access.Inside := by
  by_cases asks : transport.machine.outstanding = 0
  · have nothing : transport.readBytes = [] := by
      unfold readBytes
      rw [asks, collected_zero]
    have same : transport.readRequiredData = transport := if_pos asks
    rw [same, nothing, append_nil]
    exact ⟨corresponds.settled, corresponds.within, corresponds.ended, corresponds.inside⟩
  · have valid : transport.machine.valid = true := by
      by_contra invalid
      exact asks (corresponds.ended (by simpa using invalid))
    have memory := readBuffer_spec corresponds.within
    have stored := stored_of_contiguous transport.readBuffer contiguous memory.2
    have machine := (readRequiredData_pending transport).2
    have shape := readRequiredData_of_outstanding asks
    have length := length_collected transport.machine.outstanding transport.pending
    have stable : transport.view.Stable := Or.inr asks
    have read : transport.readRequiredData.view =
        transport.view.received transport.readBytes := by
      unfold view Parser.received
      rw [machine, shape]
      rw [show (transport.machine.received transport.readBytes.length).dataLength =
        transport.machine.dataLength + transport.readBytes.length from rfl]
      rw [show transport.readBytes = collected transport.machine.outstanding transport.pending
        from rfl, stored.taken, memory.1]
    refine ⟨?_, ?_, ?_, ?_⟩
    · rw [read, Parser.parsed, run_append, ← Parser.parsed, ← corresponds.settled,
        Parser.settle_of_stable stable]
      exact (Parser.run_push valid stable length).symm
    · rw [machine, shape]
      rw [stored.length]
      exact Nat.le_trans (Nat.add_le_add_left length _) memory.2
    · rw [machine]
      intro invalid
      exact absurd (valid.symm.trans invalid) Bool.noConfusion
    · rw [shape]
      intro access member
      rcases mem_append.mp member with before | now
      · exact corresponds.inside access before
      · exact stored.inside access now

/-- What is complete is handled in the buffer. -/
theorem corresponds_handle (unstable : ¬ transport.view.Stable)
    (settled : transport.view.settle layer = Parser.parsed layer consumed)
    (within : transport.machine.dataLength ≤ transport.buffer.length)
    (inside : ∀ access ∈ transport.accesses, access.Inside) :
    let machine := transport.machine.handle layer
      (transport.buffer.take transport.machine.dataLength)
    Corresponds layer { transport with machine := machine, running := machine.valid } consumed := by
  intro machine
  have ready : transport.machine.outstanding = 0 := by
    by_contra asks
    exact unstable (Or.inr asks)
  have spec := Machine.handle_spec layer ready
    (transport.buffer.take transport.machine.dataLength)
  have view : (⟨machine, transport.buffer.take machine.dataLength⟩ : Parser) =
      transport.view.handle layer := by
    show _ = (⟨machine, (transport.buffer.take transport.machine.dataLength).take
      machine.dataLength⟩ : Parser)
    rw [take_take, Nat.min_eq_left spec.1]
  refine ⟨?_, Nat.le_trans spec.1 within, ?_, fun stopped => Or.inl stopped, inside⟩
  · show (⟨machine, transport.buffer.take machine.dataLength⟩ : Parser).settle layer = _
    rw [view, Parser.settle_handle unstable, settled]
  · intro invalid
    rcases spec.2 with ended | ⟨same, -⟩
    · exact ended.2
    · exact absurd (Or.inl (same.symm.trans invalid)) unstable

/-- The loop of `Receive` keeps up with the bytes. -/
theorem Corresponds.pass (corresponds : Corresponds layer transport consumed)
    (contiguous : transport.Contiguous .pass) :
    ∃ got, transport.pending.flatten = got ++ (transport.pass layer).pending.flatten ∧
      Corresponds layer (transport.pass layer) (consumed ++ got) := by
  unfold Transport.pass
  by_cases running : transport.running = true
  · rw [if_pos running]
    have bytes := (readRequiredData_pending transport).1
    have read := corresponds.readRequiredData (contiguous running)
    obtain ⟨settled, within, ended, inside⟩ := read
    refine ⟨transport.readBytes, ?_⟩
    by_cases stops : transport.readRequiredData.machine.valid = false ∨
        transport.readRequiredData.machine.outstanding ≠ 0
    · rw [if_pos stops]
      exact ⟨bytes.symm, settled, within, ended, fun _ => stops, inside⟩
    · rw [if_neg stops]
      exact ⟨bytes.symm, corresponds_handle stops settled within inside⟩
  · rw [if_neg running]
    exact ⟨[], rfl, by rw [append_nil]; exact corresponds⟩

/-- The bytes that the events bring. -/
def arrived : List Event → List UInt8
  | [] => []
  | .arrives found :: rest => found ++ arrived rest
  | _ :: rest => arrived rest

theorem Corresponds.step (corresponds : Corresponds layer transport consumed) {event : Event}
    (contiguous : transport.Contiguous event) :
    ∃ got, transport.pending.flatten ++ arrived [event] =
        got ++ (transport.step layer event).pending.flatten ∧
      Corresponds layer (transport.step layer event) (consumed ++ got) := by
  cases event with
  | arrives found =>
    refine ⟨[], ?_, ?_⟩
    · show _ = (transport.pending ++ [found]).flatten
      rw [flatten_append]
      rfl
    · rw [append_nil]
      exact { corresponds with }
  | receive =>
    refine ⟨[], append_nil _, ?_⟩
    rw [append_nil]
    exact { corresponds with still := fun running => Bool.noConfusion running }
  | pass =>
    obtain ⟨got, split, next⟩ := corresponds.pass contiguous
    exact ⟨got, by rw [split]; exact append_nil _, next⟩

theorem arrived_cons (event : Event) (rest : List Event) :
    arrived (event :: rest) = arrived [event] ++ arrived rest := by
  cases event with
  | arrives found =>
    show found ++ arrived rest = (found ++ []) ++ arrived rest
    rw [append_nil]
  | receive | pass => rfl

/-- What arrives is read, or still to be read, and the receiver is where it takes it. -/
theorem Corresponds.run {events : List Event} (corresponds : Corresponds layer transport consumed)
    (contiguous : Permitted (Transport.step layer) Contiguous transport events) :
    ∃ got, transport.pending.flatten ++ arrived events =
        got ++ (TransitionSystem.run (Transport.step layer) transport events).pending.flatten ∧
      Corresponds layer (TransitionSystem.run (Transport.step layer) transport events)
        (consumed ++ got) := by
  induction events generalizing transport consumed with
  | nil => exact ⟨[], append_nil _, by rw [append_nil]; exact corresponds⟩
  | cons event rest ih =>
    obtain ⟨first, split, next⟩ := corresponds.step contiguous.1
    obtain ⟨others, later, final⟩ := ih next contiguous.2
    refine ⟨first ++ others, ?_, ?_⟩
    · rw [arrived_cons, ← append_assoc, split, append_assoc, later,
        ← append_assoc]
      rfl
    · rw [← append_assoc]
      exact final

/-- `Receive` has returned, and everything was read unless the stream is invalid. -/
def AtEnd (transport : Transport) : Prop :=
  transport.running = false ∧ (transport.machine.valid = true → transport.pending = [])

/-- At the end it only counts which bytes there were. -/
theorem Corresponds.machine_of_atEnd (corresponds : Corresponds layer transport consumed)
    (atEnd : transport.AtEnd) :
    transport.machine =
      (Parser.parsed layer (consumed ++ transport.pending.flatten)).machine := by
  have settled := corresponds.settled
  rw [Parser.settle_of_stable (corresponds.still atEnd.1)] at settled
  have same : transport.machine = (Parser.parsed layer consumed).machine :=
    congrArg Parser.machine settled
  by_cases valid : transport.machine.valid = true
  · rw [atEnd.2 valid, flatten_nil, append_nil]
    exact same
  · rw [Parser.parsed, run_append, ← Parser.parsed, Parser.run_push_of_invalid]
    · exact same
    · rw [← same]
      simpa using valid

/-- How far a call of `Receive` is from its end. -/
def remaining (transport : Transport) : Nat :=
  if transport.running then
    2 * transport.pending.flatten.length + (if transport.machine.outstanding = 0 then 2 else 1)
  else 0

/-- Every read finds something, and only a whole PDU can wait to be handled. -/
structure Ready (transport : Transport) : Prop where
  found : ∀ found ∈ transport.pending, found ≠ []
  whole : transport.machine.outstanding = 0 →
    transport.machine.valid = false ∨ transport.machine.state = .waitingForPDU
  ended : transport.running = false → transport.machine.valid = true → transport.pending = []

theorem Ready.readRequiredData (ready : transport.Ready) :
    (∀ found ∈ transport.readRequiredData.pending, found ≠ []) ∧
      (transport.readRequiredData.machine.outstanding ≠ 0 →
        transport.readRequiredData.pending = []) := by
  by_cases asks : transport.machine.outstanding = 0
  · have same : transport.readRequiredData = transport := if_pos asks
    rw [same]
    exact ⟨ready.found, fun more => absurd asks more⟩
  · have left := @pending_of_some transport.machine.outstanding 0 transport.pending
      transport.readBuffer transport.machine.dataLength ready.found
    have machine := (readRequiredData_pending transport).2
    rw [machine, readRequiredData_of_outstanding asks]
    refine ⟨left.1, fun more => left.2 ?_⟩
    have less : transport.machine.outstanding - transport.readBytes.length ≠ 0 := more
    show transport.readBytes.length < transport.machine.outstanding
    omega

/-- A pass that handles something comes closer to the end. -/
theorem remaining_handle (ready : transport.Ready) (running : transport.running = true)
    (continues : transport.readRequiredData.machine.valid = true ∧
      transport.readRequiredData.machine.outstanding = 0) (machine : Machine)
    (handled : machine = transport.readRequiredData.machine.handle layer
      transport.readRequiredData.view.data) :
    ({ transport.readRequiredData with
        machine := machine
        running := machine.valid } : Transport).remaining < transport.remaining := by
  have bytes := congrArg List.length (readRequiredData_pending transport).1
  have read : transport.readRequiredData.machine = transport.machine.received
    transport.readBytes.length := (readRequiredData_pending transport).2
  rw [length_append] at bytes
  have spec := (Machine.handle_spec layer continues.2 transport.readRequiredData.view.data).2
  rw [← handled] at spec
  unfold remaining
  dsimp only
  rw [if_pos running]
  by_cases valid : machine.valid = true
  · rw [if_pos valid]
    by_cases asks : transport.machine.outstanding = 0
    · have whole : transport.machine.state = .waitingForPDU := by
        rcases ready.whole asks with invalid | whole
        · have same : transport.machine.valid = true := by
            have still := continues.1
            rw [read] at still
            exact still
          exact absurd (same.symm.trans invalid) Bool.noConfusion
        · exact whole
      have more : machine.outstanding ≠ 0 := by
        rcases spec with invalid | ⟨-, more | pdu⟩
        · exact absurd (valid.symm.trans invalid.1) Bool.noConfusion
        · exact more
        · rw [read] at pdu
          exact absurd whole pdu.1
      rw [if_pos asks, if_neg more]
      omega
    · have all : transport.machine.outstanding - transport.readBytes.length = 0 := by
        have none := continues.2
        rw [read] at none
        exact none
      rw [if_neg asks]
      split <;> omega
  · rw [if_neg valid]
    split <;> omega

theorem Ready.pass (ready : transport.Ready) :
    (transport.pass layer).Ready ∧
      (transport.running = true → (transport.pass layer).remaining < transport.remaining) := by
  unfold Transport.pass
  by_cases running : transport.running = true
  · have read := ready.readRequiredData
    rw [if_pos running]
    by_cases stops : transport.readRequiredData.machine.valid = false ∨
        transport.readRequiredData.machine.outstanding ≠ 0
    · rw [if_pos stops]
      refine ⟨⟨read.1, ?_, ?_⟩, fun _ => ?_⟩
      · exact fun none => Or.inl (stops.resolve_right (fun more => more none))
      · intro _ valid
        exact read.2 (stops.resolve_left (fun invalid => by
          exact absurd (valid.symm.trans invalid) Bool.noConfusion))
      · show 0 < transport.remaining
        unfold remaining
        rw [if_pos running]
        split <;> omega
    · rw [if_neg stops]
      have continues : transport.readRequiredData.machine.valid = true ∧
          transport.readRequiredData.machine.outstanding = 0 := by
        rw [not_or] at stops
        exact ⟨by simpa using stops.1, by simpa using stops.2⟩
      have spec := (Machine.handle_spec layer continues.2
        transport.readRequiredData.view.data).2
      refine ⟨⟨read.1, ?_, ?_⟩, fun _ => remaining_handle ready running continues _ rfl⟩
      · intro none
        rcases spec with invalid | ⟨-, more | pdu⟩
        · exact Or.inl invalid.1
        · exact absurd none more
        · exact Or.inr pdu.2
      · intro stopped valid
        exact absurd (valid.symm.trans stopped) Bool.noConfusion
  · rw [if_neg running]
    exact ⟨ready, fun runs => absurd runs running⟩

theorem Ready.returns (ready : transport.Ready) (layer : Layer Header) :
    ∃ count, ((Transport.pass layer)^[count] transport).AtEnd := by
  have reached := @iterate_reaches Transport Nat (Transport.pass layer) Ready
    (fun state => state.Ready ∧ state.running = false) (· < ·) Nat.lt_wfRel.wf remaining
    (fun state ready => ready.pass.1) ?_ transport ready
  · obtain ⟨count, done⟩ := reached
    exact ⟨count, done.2, done.1.ended done.2⟩
  · intro state ready running
    apply ready.pass.2
    by_contra stopped
    exact running ⟨ready, by simpa using stopped⟩

end Transport

end OpenLighting.Acn.Stream
