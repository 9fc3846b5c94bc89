import OpenLighting.AcnPduBlocks
import OpenLighting.AcnStreamFraming

/- Streams of PDU blocks, and what a receiver of an ACN stream makes of them. -/
namespace OpenLighting.Acn.Stream

open ByteCodec TransitionSystem Descriptor List

namespace Parser
variable {Header : Type} {layer : Layer Header} {parser : Parser}

section Blocks

/-- What is asked for next can come at once. -/
theorem run_push_settle {bytes : List UInt8} (valid : parser.machine.valid = true)
    (asked : bytes.length ≤ parser.machine.outstanding) :
    run (push layer) (parser.settle layer) bytes = (parser.received bytes).settle layer := by
  cases bytes with
  | nil =>
    have same : parser.received [] = parser := by
      unfold Parser.received
      rw [append_nil]
      rfl
    rw [same]
    rfl
  | cons byte rest =>
    have stable : parser.Stable := Or.inr (Nat.ne_of_gt (Nat.lt_of_lt_of_le (Nat.succ_pos _) asked))
    rw [settle_of_stable stable, run_push valid stable asked]

/-- A valid receiver with nothing in its buffer. -/
def idle (state : RXState) (outstanding : Nat) (blockSize consumed : UInt32)
    (lengthSize : PDULengthSize) (pduSize : Nat) (inflated : List (List UInt8)) : Parser :=
  ⟨⟨0, outstanding, state, blockSize, consumed, true, lengthSize, pduSize, inflated⟩, []⟩

/-- One that has so much of a PDU whose length it knows. -/
def within (outstanding : Nat) (blockSize consumed : UInt32) (lengthSize : PDULengthSize)
    (pduSize : Nat) (inflated : List (List UInt8)) (data : List UInt8) : Parser :=
  ⟨⟨data.length, outstanding, .waitingForPDU, blockSize, consumed, true, lengthSize, pduSize,
    inflated⟩, data⟩

variable {blockSize consumed : UInt32} {lengthSize : PDULengthSize} {pduSize : Nat}
  {inflated : List (List UInt8)}

theorem run_push_length {flags : UInt8} {lengths : List UInt8} {length used : Nat}
    (full : lengths.length + 1 = (lengthSizeOf flags).bytes)
    (decoded : decodeLength (flags :: lengths) = some (length, used)) :
    run (push layer) (idle .waitingForPDUFlags 1 blockSize consumed lengthSize pduSize inflated)
        (flags :: lengths) =
      (within (length - (lengths.length + 1)) blockSize consumed (lengthSizeOf flags) length inflated
        (flags :: lengths)).settle layer := by
  -- after the first byte it is known how long the field is
  let first : Parser := ⟨⟨1, 0, .waitingForPDUFlags, blockSize, consumed, true, lengthSize, pduSize,
    inflated⟩, [flags]⟩
  have unstable : ¬ first.Stable := by
    unfold Stable
    simp [first]
  have handled : first.handle layer = ⟨⟨1, 0 + ((lengthSizeOf flags).bytes - 1),
      .waitingForPDULength, blockSize, consumed, true, lengthSizeOf flags, pduSize, inflated⟩,
      [flags]⟩ := rfl
  have one : (idle .waitingForPDUFlags 1 blockSize consumed lengthSize pduSize inflated).push layer
      flags = first.settle layer := rfl
  have asked : lengths.length ≤ (first.handle layer).machine.outstanding := by
    rw [handled]
    dsimp only
    omega
  rw [run_cons, one, ← settle_handle unstable, run_push_settle (by rw [handled]) asked]
  -- and after the whole field how long the PDU is
  have eq := decodeLength_eq (show (lengthSizeOf ((flags :: lengths).headD 0)).bytes ≤
    (flags :: lengths).length from Nat.le_of_eq full.symm)
  rw [show (flags :: lengths).headD 0 = flags from rfl, decoded] at eq
  let second : Parser := ⟨⟨1 + lengths.length, 0 + ((lengthSizeOf flags).bytes - 1) - lengths.length,
    .waitingForPDULength, blockSize, consumed, true, lengthSizeOf flags, pduSize, inflated⟩,
    flags :: lengths⟩
  have read : (first.handle layer).received lengths = second := rfl
  have none : 0 + ((lengthSizeOf flags).bytes - 1) - lengths.length = 0 := by omega
  have again : ¬ second.Stable :=
    fun stable => stable.elim (fun invalid => Bool.noConfusion invalid) (fun asks => asks none)
  by_cases short : Machine.lengthIn (lengthSizeOf flags) (flags :: lengths) <
      (lengthSizeOf flags).bytes
  · rw [if_pos short] at eq
    cases eq
  · rw [if_neg short] at eq
    have same : length = Machine.lengthIn (lengthSizeOf flags) (flags :: lengths) := by
      cases eq
      rfl
    rw [read, ← settle_handle again]
    apply congrArg
    unfold Parser.handle Machine.handle
    unfold Machine.handlePDULength
    dsimp only [second]
    rw [if_neg short, ← same, none, Nat.zero_add, ← full, Nat.add_comm 1 lengths.length]
    show (⟨_, (flags :: lengths).take (flags :: lengths).length⟩ : Parser) = _
    rw [take_length]
    rfl

theorem run_push_pdu {pdu : List UInt8} {used : Nat}
    (decoded : decodeLength pdu = some (pdu.length, used)) :
    run (push layer) (idle .waitingForPDUFlags 1 blockSize consumed lengthSize pduSize inflated)
        pdu =
      if consumed + UInt32.ofNat pdu.length = blockSize then
        idle .waitingForPreamble 20 blockSize (consumed + UInt32.ofNat pdu.length)
          (lengthSizeOf (pdu.headD 0)) pdu.length (inflated ++ [pdu])
      else
        idle .waitingForPDUFlags 1 blockSize (consumed + UInt32.ofNat pdu.length)
          (lengthSizeOf (pdu.headD 0)) pdu.length (inflated ++ [pdu]) := by
  obtain ⟨flags, lengths, body, parts, full, field⟩ := lengthField_of_decodeLength decoded
  have length : pdu.length = (lengths.length + 1) + body.length := by
    rw [parts, length_cons, length_append]
    omega
  have all : (flags :: lengths) ++ body = pdu := by
    rw [parts]
    rfl
  have asked : body.length = pdu.length - (lengths.length + 1) := by omega
  have read : (within (pdu.length - (lengths.length + 1)) blockSize consumed (lengthSizeOf flags)
      pdu.length inflated (flags :: lengths)).received body =
        within 0 blockSize consumed (lengthSizeOf flags) pdu.length inflated pdu := by
    unfold Parser.received Machine.received within
    rw [all, ← asked, Nat.sub_self, length_cons, ← length]
  have framed : (within 0 blockSize consumed (lengthSizeOf flags) pdu.length inflated pdu).Framed :=
    ⟨rfl, fun state => RXState.noConfusion state, fun state => RXState.noConfusion state,
      fun _ => ⟨rfl, used, decoded⟩⟩
  have whole := @Framed.settle_pdu Header layer _ framed rfl rfl rfl
  have head : pdu.headD 0 = flags := by rw [parts]; rfl
  conv => lhs; rw [← all, run_append]
  rw [run_push_length full field, run_push_settle rfl (Nat.le_of_eq asked), read, whole.1, head]
  unfold Parser.handle
  rw [framed.handle_pdu rfl rfl layer]
  show (let machine := if consumed + UInt32.ofNat pdu.length = blockSize then _ else _
    (⟨machine, pdu.take machine.dataLength⟩ : Parser)) = _
  split
  · rfl
  · rfl

/-- A block of PDUs behind its preamble. -/
def blockBytes (pdus : List (List UInt8)) : List UInt8 :=
  acnHeader ++ (bigEndian pduBlockSize pdus.flatten.length ++ pdus.flatten)

/-- The PDUs of a block have the lengths that they tell, and the preamble can hold their sum. -/
def WellFormed (pdus : List (List UInt8)) : Prop :=
  pdus.flatten.length < 2 ^ 32 ∧
    ∀ pdu ∈ pdus, ∃ used, decodeLength pdu = some (pdu.length, used)

theorem run_push_preamble {size : Nat} (bound : size < 2 ^ 32) :
    run (push layer) (idle .waitingForPreamble 20 blockSize consumed lengthSize pduSize inflated)
        (acnHeader ++ bigEndian pduBlockSize size) =
      if size = 0 then
        idle .waitingForPreamble 20 0 consumed lengthSize pduSize inflated
      else idle .waitingForPDUFlags 1 (UInt32.ofNat size) 0 lengthSize pduSize inflated := by
  let preamble : Parser := ⟨⟨20, 0, .waitingForPreamble, blockSize, consumed, true, lengthSize,
    pduSize, inflated⟩, acnHeader ++ bigEndian pduBlockSize size⟩
  have length : (acnHeader ++ bigEndian pduBlockSize size).length = 20 := by
    rfl
  have stable : (idle .waitingForPreamble 20 blockSize consumed lengthSize pduSize inflated).Stable :=
    Or.inr (Nat.succ_ne_zero 19)
  have read : (idle .waitingForPreamble 20 blockSize consumed lengthSize pduSize
      inflated).received (acnHeader ++ bigEndian pduBlockSize size) = preamble := by
    unfold Parser.received Machine.received
    rw [length]
    rfl
  have unstable : ¬ preamble.Stable :=
    fun stable => stable.elim (fun invalid => Bool.noConfusion invalid) (fun asks => asks rfl)
  have front : (acnHeader ++ bigEndian pduBlockSize size).take acnHeaderSize = acnHeader :=
    take_left' rfl
  have back : (acnHeader ++ bigEndian pduBlockSize size).drop acnHeaderSize =
      bigEndian pduBlockSize size := drop_left' rfl
  have all : (bigEndian pduBlockSize size).take pduBlockSize = bigEndian pduBlockSize size :=
    take_of_length_le (Nat.le_of_eq (length_bigEndian _ _))
  have value : number (bigEndian pduBlockSize size) = size := by
    rw [number_bigEndian]
    exact Nat.mod_eq_of_lt bound
  have toNat : (UInt32.ofNat size).toNat = size := by
    rw [UInt32.toNat_ofNat', Nat.mod_eq_of_lt bound]
  rw [run_push rfl stable (Nat.le_of_eq length), read, ← settle_handle unstable]
  have handled : preamble.handle layer =
      if size = 0 then
        idle .waitingForPreamble 20 0 consumed lengthSize pduSize inflated
      else idle .waitingForPDUFlags 1 (UInt32.ofNat size) 0 lengthSize pduSize inflated := by
    show (⟨preamble.machine.handlePreamble preamble.data, preamble.data.take
      (preamble.machine.handlePreamble preamble.data).dataLength⟩ : Parser) = _
    unfold Machine.handlePreamble
    dsimp only [preamble]
    rw [front, if_neg (fun differs => differs rfl), back, all, value]
    by_cases empty : size = 0
    · rw [if_pos empty, empty]
      rfl
    · have some : UInt32.ofNat size ≠ 0 := by
        intro zero
        rw [zero] at toNat
        exact empty toNat.symm
      rw [if_neg empty, if_pos some]
      rfl
  rw [handled]
  split
  · exact settle_of_stable (Or.inr (Nat.succ_ne_zero 19))
  · exact settle_of_stable (Or.inr Nat.one_ne_zero)

theorem run_push_pdus {pdus : List (List UInt8)} (some : pdus ≠ [])
    (each : ∀ pdu ∈ pdus, ∃ used, decodeLength pdu = Option.some (pdu.length, used))
    (adds : consumed.toNat + pdus.flatten.length = blockSize.toNat) :
    ∃ lengthSize' pduSize', run (push layer)
        (idle .waitingForPDUFlags 1 blockSize consumed lengthSize pduSize inflated) pdus.flatten =
      idle .waitingForPreamble 20 blockSize blockSize lengthSize' pduSize' (inflated ++ pdus) := by
  induction pdus generalizing consumed lengthSize pduSize inflated with
  | nil => exact absurd rfl some
  | cons pdu rest ih =>
    obtain ⟨⟨used, decoded⟩, others⟩ := forall_mem_cons.mp each
    have bound := blockSize.toNat_lt
    rw [flatten_cons, length_append] at adds
    have length : (UInt32.ofNat pdu.length).toNat = pdu.length := by
      rw [UInt32.toNat_ofNat', Nat.mod_eq_of_lt (by omega)]
    have next : (consumed + UInt32.ofNat pdu.length).toNat = consumed.toNat + pdu.length := by
      rw [UInt32.toNat_add, length, Nat.mod_eq_of_lt (by omega)]
    rw [flatten_cons, run_append, run_push_pdu decoded]
    cases rest with
    | nil =>
      have ends : consumed + UInt32.ofNat pdu.length = blockSize := by
        apply UInt32.toNat.inj
        rw [next]
        exact adds
      rw [if_pos ends, ends]
      exact ⟨_, _, rfl⟩
    | cons second rest =>
      obtain ⟨usedSecond, decodedSecond⟩ := others second mem_cons_self
      have least := used_of_decodeLength decodedSecond
      have more : consumed + UInt32.ofNat pdu.length ≠ blockSize := by
        intro ends
        rw [ends] at next
        rw [flatten_cons, length_append] at adds
        omega
      rw [if_neg more]
      obtain ⟨lengthSize', pduSize', whole⟩ := @ih (consumed + UInt32.ofNat pdu.length)
        (lengthSizeOf (pdu.headD 0)) pdu.length (inflated ++ [pdu]) (cons_ne_nil _ _)
        others (by rw [next]; omega)
      rw [append_assoc] at whole
      exact ⟨lengthSize', pduSize', whole⟩

def BetweenBlocks (parser : Parser) (inflated : List (List UInt8)) : Prop :=
  ∃ blockSize consumed lengthSize pduSize,
    parser = idle .waitingForPreamble 20 blockSize consumed lengthSize pduSize inflated

theorem BetweenBlocks.block {pdus : List (List UInt8)} (between : parser.BetweenBlocks inflated)
    (wellFormed : WellFormed pdus) :
    (run (push layer) parser (blockBytes pdus)).BetweenBlocks (inflated ++ pdus) := by
  obtain ⟨blockSize, consumed, lengthSize, pduSize, rfl⟩ := between
  unfold blockBytes
  rw [← append_assoc, run_append, run_push_preamble wellFormed.1]
  have size : (UInt32.ofNat pdus.flatten.length).toNat = pdus.flatten.length := by
    rw [UInt32.toNat_ofNat', Nat.mod_eq_of_lt wellFormed.1]
  cases pdus with
  | nil =>
    rw [append_nil]
    exact ⟨_, _, _, _, rfl⟩
  | cons pdu rest =>
    obtain ⟨used, decoded⟩ := wellFormed.2 pdu mem_cons_self
    have least := used_of_decodeLength decoded
    have positive : (pdu :: rest).flatten.length ≠ 0 := by
      rw [flatten_cons, length_append]
      omega
    rw [if_neg positive]
    obtain ⟨lengthSize', pduSize', whole⟩ := @run_push_pdus Header layer
      (UInt32.ofNat (pdu :: rest).flatten.length) 0 lengthSize pduSize inflated (pdu :: rest)
      (cons_ne_nil _ _) wellFormed.2 (by rw [size]; exact Nat.zero_add _)
    exact ⟨_, _, lengthSize', pduSize', whole⟩

/-- Of well-formed blocks the PDUs are inflated, all of them and no others. -/
theorem betweenBlocks_parsed (blocks : List (List (List UInt8)))
    (wellFormed : ∀ pdus ∈ blocks, WellFormed pdus) :
    (parsed layer (blocks.flatMap blockBytes)).BetweenBlocks blocks.flatten := by
  suffices ∀ (parser : Parser) (inflated : List (List UInt8)), parser.BetweenBlocks inflated →
      (run (push layer) parser (blocks.flatMap blockBytes)).BetweenBlocks
        (inflated ++ blocks.flatten) from this initial [] ⟨0, 0, .twoBytes, 0, rfl⟩
  induction blocks with
  | nil =>
    intro parser inflated between
    rw [flatten_nil, append_nil]
    exact between
  | cons pdus rest ih =>
    intro parser inflated between
    have both := forall_mem_cons.mp wellFormed
    rw [flatMap_cons, run_append, flatten_cons, ← append_assoc]
    exact ih both.2 _ _ (between.block both.1)

end Blocks

end Parser

namespace Transport
variable {Header : Type} {layer : Layer Header}

def after (layer : Layer Header) (events : List Event) : Transport :=
  run (step layer) initial events

/-- Some PDU of a stream crosses the end of its block. -/
def Crossed (layer : Layer Header) (stream : List UInt8) : Prop :=
  ∃ front byte back, stream = front ++ byte :: back ∧
    (Parser.parsed layer front).Crosses layer byte

/-- What a receiver is to do in a run: it reads into its buffer, depends only on the bytes,
returns, inflates well-formed blocks and does not accept a PDU that crosses the end of its
block, as soon as it is there. -/
structure Reassembles (layer : Layer Header) (events : List Event) : Prop where
  inside : ∀ access ∈ (after layer events).accesses, access.Inside
  same : (after layer events).AtEnd →
    (after layer events).machine.inflated =
        (Parser.parsed layer (arrived events)).machine.inflated ∧
      (after layer events).machine.valid = (Parser.parsed layer (arrived events)).machine.valid
  returns : (∀ event ∈ events, event ≠ .arrives []) →
    ∃ count, ((pass layer)^[count] (after layer (events ++ [.receive]))).AtEnd
  blocks : ∀ blocks : List (List (List UInt8)), (∀ pdus ∈ blocks, Parser.WellFormed pdus) →
    arrived events = blocks.flatMap Parser.blockBytes → (after layer events).AtEnd →
      (after layer events).machine.inflated = blocks.flatten ∧
        (after layer events).machine.valid = true
  detects : ∀ others, Permitted (step layer) Contiguous initial others →
    (after layer others).AtEnd → arrived others <+: arrived events →
      Crossed layer (arrived others) → (after layer others).machine.valid = false

variable {events : List Event}

theorem corresponds_after (contiguous : Permitted (step layer) Contiguous initial events) :
    ∃ consumed, arrived events = consumed ++ (after layer events).pending.flatten ∧
      Corresponds layer (after layer events) consumed := by
  obtain ⟨consumed, split, corresponds⟩ := (corresponds_initial layer).run contiguous
  exact ⟨consumed, split, corresponds⟩

theorem machine_after (contiguous : Permitted (step layer) Contiguous initial events)
    (atEnd : (after layer events).AtEnd) :
    (after layer events).machine = (Parser.parsed layer (arrived events)).machine := by
  obtain ⟨consumed, split, corresponds⟩ := corresponds_after contiguous
  rw [split]
  exact corresponds.machine_of_atEnd atEnd

/-- What does not depend on whether `Receive` runs. -/
theorem ready_of_running {transport : Transport}
    (found : ∀ found ∈ transport.pending, found ≠ [])
    (whole : transport.machine.outstanding = 0 →
      transport.machine.valid = false ∨ transport.machine.state = .waitingForPDU)
    (running : transport.running = true) : transport.Ready :=
  ⟨found, whole, fun stopped => absurd (running.symm.trans stopped) Bool.noConfusion⟩

theorem ready_after (some : ∀ event ∈ events, event ≠ .arrives []) :
    (after layer (events ++ [.receive])).Ready := by
  have sound : ∀ transport : Transport, (∀ found ∈ transport.pending, found ≠ []) →
      (transport.machine.outstanding = 0 →
        transport.machine.valid = false ∨ transport.machine.state = .waitingForPDU) →
      (run (step layer) transport (events ++ [.receive])).Ready := by
    induction events with
    | nil => exact fun transport found whole => ready_of_running found whole rfl
    | cons event rest ih =>
      intro transport found whole
      have others := forall_mem_cons.mp some
      rw [cons_append, run_cons]
      cases event with
      | arrives bytes =>
        refine ih others.2 _ (fun other member => ?_) whole
        rcases mem_append.mp member with before | last
        · exact found other before
        · rw [mem_singleton.mp last]
          exact fun nothing => others.1 (by rw [nothing])
      | receive => exact ih others.2 _ found whole
      | pass =>
        by_cases running : transport.running = true
        · have ready := (@Ready.pass Header layer _ (ready_of_running found whole running)).1
          exact ih others.2 _ ready.found ready.whole
        · rw [show step layer transport .pass = transport from if_neg running]
          exact ih others.2 _ found whole
  exact sound initial (fun found member => absurd member not_mem_nil)
    (fun none => absurd none (Nat.succ_ne_zero 19))

theorem length_pending_pass (transport : Transport) :
    (transport.pass layer).pending.length ≤ transport.pending.length := by
  have read : transport.readRequiredData.pending.length ≤ transport.pending.length := by
    by_cases asks : transport.machine.outstanding = 0
    · rw [show transport.readRequiredData = transport from if_pos asks]
    · rw [readRequiredData_of_outstanding asks]
      exact length_pending _ _ _ _ _
  unfold pass
  by_cases running : transport.running = true
  · rw [if_pos running]
    dsimp only
    split
    · exact read
    · exact read
  · rw [if_neg running]

/-- With two reads or less still to come, every pass finds its bytes in two reads. -/
theorem permitted_passes (count : Nat) {transport : Transport}
    (few : transport.pending.length ≤ 2) :
    Permitted (step layer) Contiguous transport (List.replicate count .pass) ∧
      run (step layer) transport (List.replicate count .pass) = (pass layer)^[count] transport := by
  induction count generalizing transport with
  | zero => exact ⟨trivial, rfl⟩
  | succ count ih =>
    have next := ih (Nat.le_trans (@length_pending_pass Header layer transport) few)
    exact ⟨⟨fun _ => Nat.le_trans (dataReads_le_length _ _) few, next.1⟩, next.2⟩

theorem arrived_append (first second : List Event) :
    arrived (first ++ second) = arrived first ++ arrived second := by
  induction first with
  | nil => rfl
  | cons event rest ih =>
    rw [cons_append, arrived_cons, ih, arrived_cons event rest, append_assoc]

theorem arrived_passes (count : Nat) : arrived (List.replicate count .pass) = [] := by
  induction count with
  | zero => rfl
  | succ count ih => exact ih

/-- One read of all the bytes, and `Receive` until it returns. -/
theorem exists_atEnd (layer : Layer Header) {stream : List UInt8} (some : stream ≠ []) :
    ∃ events, Permitted (step layer) Contiguous initial events ∧
      (after layer events).AtEnd ∧ arrived events = stream := by
  have ready : (after layer ([.arrives stream] ++ [.receive])).Ready := by
    apply ready_after
    intro event member
    rw [mem_singleton.mp member]
    exact fun nothing => some (Event.arrives.inj nothing)
  obtain ⟨count, atEnd⟩ := ready.returns layer
  have few : (after layer ([.arrives stream] ++ [.receive])).pending.length ≤ 2 :=
    show 1 ≤ 2 by decide
  have passes := @permitted_passes Header layer count _ few
  refine ⟨([.arrives stream] ++ [.receive]) ++ List.replicate count .pass, ?_, ?_, ?_⟩
  · exact permitted_append_iff.mpr ⟨⟨trivial, trivial, trivial⟩, passes.1⟩
  · unfold after at *
    rw [run_append, passes.2]
    exact atEnd
  · rw [arrived_append, arrived_passes, append_nil]
    exact append_nil stream

/-- If no bytes of a `Receive` come in more than two reads, a receiver reassembles a stream
exactly if no PDU crosses the end of its block. -/
theorem reassembles_iff (layer : Layer Header) (events : List Event)
    (contiguous : Permitted (step layer) Contiguous initial events) :
    Reassembles layer events ↔ Parser.WithinBlocks layer (arrived events) := by
  rw [← Parser.detects_iff]
  constructor
  · intro reassembles front byte back split crosses
    obtain ⟨others, permitted, atEnd, bytes⟩ := exists_atEnd layer
      (List.append_ne_nil_of_right_ne_nil front (List.cons_ne_nil byte []))
    have machine := machine_after permitted atEnd
    rw [bytes] at machine
    rw [← machine]
    apply reassembles.detects others permitted atEnd
    · rw [bytes, split]
      exact ⟨back, by rw [List.append_assoc]; rfl⟩
    · rw [bytes]
      exact ⟨front, byte, [], rfl, crosses⟩
  · intro detects
    obtain ⟨consumed, split, corresponds⟩ := corresponds_after contiguous
    refine ⟨corresponds.inside, fun atEnd => ?_, fun some => ?_, ?_, ?_⟩
    · rw [machine_after contiguous atEnd]
      exact ⟨rfl, rfl⟩
    · exact (ready_after some).returns layer
    · intro blocks wellFormed bytes atEnd
      obtain ⟨blockSize, used, lengthSize, pduSize, between⟩ :=
        @Parser.betweenBlocks_parsed Header layer blocks wellFormed
      rw [machine_after contiguous atEnd, bytes, between]
      exact ⟨rfl, rfl⟩
    · intro others permitted atEnd within crossed
      obtain ⟨front, byte, back, bytes, crosses⟩ := crossed
      obtain ⟨beyond, whole⟩ := within
      have invalid := detects front byte (back ++ beyond)
        (by rw [← whole, bytes, List.append_assoc]; rfl) crosses
      rw [machine_after permitted atEnd, bytes, List.append_cons, Parser.parsed, run_append,
        ← Parser.parsed, Parser.run_push_of_invalid invalid]
      exact invalid

/-- A PDU with a vector, a header of one byte and the data `[1, 2]`, behind a preamble for a
block of this size. -/
def exampleStream (size : Nat) : List UInt8 :=
  acnHeader ++ (bigEndian pduBlockSize size ++ [0x70, 6, 1, 7, 1, 2])

theorem reassembles_split :
    Reassembles byteLayer ([.arrives ((exampleStream 6).take 9), .receive, .pass,
      .arrives ((exampleStream 6).drop 9), .receive] ++ List.replicate 6 .pass) :=
  (reassembles_iff byteLayer _ (by decide +kernel)).mpr (by decide +kernel)

/-- A block of four bytes whose only PDU has six leaves the stream valid. -/
theorem crossing_accepted :
    ∃ events, Permitted (step byteLayer) Contiguous initial events ∧
      (after byteLayer events).AtEnd ∧ Crossed byteLayer (arrived events) ∧
      (after byteLayer events).machine.valid = true ∧ ¬ Reassembles byteLayer events := by
  let events : List Event := [.arrives (exampleStream 4), .receive] ++ List.replicate 6 .pass
  have permitted : Permitted (step byteLayer) Contiguous initial events := by decide +kernel
  have atEnd : (after byteLayer events).AtEnd := ⟨by decide +kernel, fun _ => by decide +kernel⟩
  have crossed : Crossed byteLayer (arrived events) :=
    ⟨(exampleStream 4).take 25, 2, [], by decide +kernel, by decide +kernel⟩
  have valid : (after byteLayer events).machine.valid = true := by decide +kernel
  refine ⟨events, permitted, atEnd, crossed, valid, fun reassembles => ?_⟩
  have invalid := reassembles.detects events permitted atEnd (List.prefix_refl _) crossed
  exact absurd (valid.symm.trans invalid) Bool.noConfusion

end Transport

end OpenLighting.Acn.Stream
