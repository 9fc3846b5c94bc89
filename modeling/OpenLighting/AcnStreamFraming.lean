import OpenLighting.AcnStreamRuns

/- What a receiver of an ACN stream waits for, and which PDUs cross the end of a block. -/
namespace OpenLighting.Acn.Stream

open ByteCodec TransitionSystem Descriptor

/-- The size of the length field that the flags tell. -/
def lengthSizeOf (flags : UInt8) : PDULengthSize :=
  if flags &&& lengthFlag ≠ 0 then .threeBytes else .twoBytes

variable {data : List UInt8}

/-- The receiver and the inflator read the same length. -/
theorem decodeLength_eq (enough : (lengthSizeOf (data.headD 0)).bytes ≤ data.length) :
    decodeLength data =
      let lengthSize := lengthSizeOf (data.headD 0)
      let length := Machine.lengthIn lengthSize data
      if length < lengthSize.bytes then none else some (length, lengthSize.bytes) := by
  cases data with
  | nil =>
    have none : (lengthSizeOf 0).bytes ≤ 0 := enough
    exact absurd none (by decide)
  | cons flags rest =>
    unfold lengthSizeOf at *
    rw [show (flags :: rest).headD 0 = flags from rfl] at *
    unfold decodeLength
    dsimp only
    by_cases long : flags &&& lengthFlag ≠ 0
    · rw [if_pos long] at enough ⊢
      rw [if_pos long]
      match rest, enough with
      | high :: low :: _, _ => rfl
      | [_], enough => exact absurd enough (show ¬ 3 ≤ 2 by decide)
      | [], enough => exact absurd enough (show ¬ 3 ≤ 1 by decide)
    · rw [if_neg long] at enough ⊢
      rw [if_neg long]
      match rest, enough with
      | low :: _, _ => rfl
      | [], enough => exact absurd enough (show ¬ 2 ≤ 1 by decide)

/-- A length that is there does not depend on what follows it. -/
theorem decodeLength_append {length used : Nat} (decoded : decodeLength data = some (length, used))
    (more : List UInt8) : decodeLength (data ++ more) = some (length, used) := by
  cases data with
  | nil => cases decoded
  | cons flags rest =>
    rw [List.cons_append]
    unfold decodeLength at *
    dsimp only at *
    by_cases long : flags &&& lengthFlag ≠ 0
    · rw [if_pos long] at decoded ⊢
      match rest, decoded with
      | high :: low :: _, decoded => exact decoded
      | [_], decoded | [], decoded => cases decoded
    · rw [if_neg long] at decoded ⊢
      match rest, decoded with
      | low :: _, decoded => exact decoded
      | [], decoded => cases decoded

theorem lengthField_of_decodeLength {length used : Nat}
    (decoded : decodeLength data = some (length, used)) :
    ∃ flags lengths body, data = flags :: (lengths ++ body) ∧
      lengths.length + 1 = (lengthSizeOf flags).bytes ∧
      decodeLength (flags :: lengths) = some (length, used) := by
  cases data with
  | nil => cases decoded
  | cons flags rest =>
    unfold decodeLength at *
    dsimp only at *
    unfold lengthSizeOf
    by_cases long : flags &&& lengthFlag ≠ 0
    · rw [if_pos long] at decoded
      match rest, decoded with
      | high :: low :: body, decoded =>
        refine ⟨flags, [high, low], body, rfl, ?_, ?_⟩
        · rw [if_pos long]
          rfl
        · rw [if_pos long]
          exact decoded
      | [_], decoded | [], decoded => cases decoded
    · rw [if_neg long] at decoded
      match rest, decoded with
      | low :: body, decoded =>
        refine ⟨flags, [low], body, rfl, ?_, ?_⟩
        · rw [if_neg long]
          rfl
        · rw [if_neg long]
          exact decoded
      | [], decoded => cases decoded

/-- A PDU of the length that it tells is used up. -/
theorem inflatePDUBlock_consumes {Header : Type} (layer : Layer Header) {used : Nat}
    (decoded : decodeLength data = some (data.length, used)) :
    (layer.inflatePDUBlock data).2 = data.length := by
  unfold Layer.inflatePDUBlock
  have some : data ≠ [] := by
    intro nothing
    rw [nothing] at decoded
    cases decoded
  obtain ⟨fuel, length⟩ := Nat.exists_eq_succ_of_ne_zero
    (show data.length ≠ 0 from fun zero => some (List.eq_nil_of_length_eq_zero zero))
  have step : ∀ fields, (layer.inflateFrom (fuel + 1) fields data).2 = data.length := by
    intro fields
    rw [Layer.inflateFrom, decoded]
    dsimp only
    rw [if_pos (Nat.le_refl _), List.drop_length, Layer.inflateFrom_nil]
    rfl
  rw [show data.length = fuel + 1 from length]
  rw [step, length]

namespace Parser
variable {Header : Type} {layer : Layer Header} {parser : Parser}

/-- How the bytes in the buffer and those still outstanding make up what is waited for. -/
structure Framed (parser : Parser) : Prop where
  length : parser.machine.dataLength = parser.data.length
  flags : parser.machine.state = .waitingForPDUFlags →
    parser.data.length + parser.machine.outstanding = 1
  lengths : parser.machine.state = .waitingForPDULength →
    parser.data ≠ [] ∧ parser.machine.lengthSize = lengthSizeOf (parser.data.headD 0) ∧
      parser.data.length + parser.machine.outstanding = parser.machine.lengthSize.bytes
  pdu : parser.machine.state = .waitingForPDU →
    parser.data.length + parser.machine.outstanding = parser.machine.pduSize ∧
      ∃ used, decodeLength parser.data = some (parser.machine.pduSize, used)

theorem framed_initial : initial.Framed :=
  ⟨rfl, fun state => RXState.noConfusion state, fun state => RXState.noConfusion state,
    fun state => RXState.noConfusion state⟩

theorem headD_append (some : data ≠ []) (more : List UInt8) :
    (data ++ more).headD 0 = data.headD 0 := by
  cases data with
  | nil => exact absurd rfl some
  | cons first rest => rfl

theorem Framed.received (framed : parser.Framed) {bytes : List UInt8}
    (asked : bytes.length ≤ parser.machine.outstanding) : (parser.received bytes).Framed := by
  have length : (parser.data ++ bytes).length = parser.data.length + bytes.length :=
    List.length_append
  refine ⟨?_, fun state => ?_, fun state => ?_, fun state => ?_⟩
  · show parser.machine.dataLength + bytes.length = (parser.data ++ bytes).length
    rw [framed.length, length]
  · have flags := framed.flags state
    show (parser.data ++ bytes).length + (parser.machine.outstanding - bytes.length) = 1
    omega
  · have lengths := framed.lengths state
    refine ⟨List.append_ne_nil_of_left_ne_nil lengths.1 bytes, ?_, ?_⟩
    · show parser.machine.lengthSize = lengthSizeOf ((parser.data ++ bytes).headD 0)
      rw [headD_append lengths.1, lengths.2.1]
    · show (parser.data ++ bytes).length + (parser.machine.outstanding - bytes.length) = _
      have whole := lengths.2.2
      show _ = parser.machine.lengthSize.bytes
      omega
  · obtain ⟨whole, used, decoded⟩ := framed.pdu state
    refine ⟨?_, used, decodeLength_append decoded bytes⟩
    show (parser.data ++ bytes).length + (parser.machine.outstanding - bytes.length) =
      parser.machine.pduSize
    omega

/-- A whole PDU is handed to the inflator, and the stream stays valid. -/
theorem Framed.handle_pdu (framed : parser.Framed) (state : parser.machine.state = .waitingForPDU)
    (ready : parser.machine.outstanding = 0) (layer : Layer Header) :
    parser.machine.handle layer parser.data =
      let machine : Machine := { parser.machine with
        inflated := parser.machine.inflated ++ [parser.data]
        consumedBlockSize :=
          parser.machine.consumedBlockSize + UInt32.ofNat parser.machine.pduSize }
      if machine.consumedBlockSize = machine.blockSize then machine.enterWaitingForPreamble
      else machine.enterWaitingForPDU := by
  obtain ⟨whole, used, decoded⟩ := framed.pdu state
  rw [ready, Nat.add_zero] at whole
  rw [← whole] at decoded
  have consumes := inflatePDUBlock_consumes layer decoded
  unfold Machine.handle Machine.handlePDU
  rw [state]
  dsimp only
  rw [framed.length, ← whole, if_neg (fun differs => differs rfl), List.take_length, consumes,
    if_neg (fun differs => differs rfl)]
  rfl

theorem framed_enterWaitingForPreamble (machine : Machine) :
    Framed ⟨machine.enterWaitingForPreamble, []⟩ :=
  ⟨rfl, fun state => RXState.noConfusion state, fun state => RXState.noConfusion state,
    fun state => RXState.noConfusion state⟩

theorem framed_enterWaitingForPDU (machine : Machine) :
    Framed ⟨machine.enterWaitingForPDU, []⟩ :=
  ⟨rfl, fun _ => rfl, fun state => RXState.noConfusion state,
    fun state => RXState.noConfusion state⟩

theorem Framed.handle_flags (framed : parser.Framed)
    (state : parser.machine.state = .waitingForPDUFlags)
    (ready : parser.machine.outstanding = 0) : (parser.handle layer).Framed := by
  have one := framed.flags state
  have some : parser.data ≠ [] := List.ne_nil_of_length_pos (by omega)
  have next : parser.handle layer =
      ⟨{ parser.machine with
          lengthSize := lengthSizeOf (parser.data.headD 0)
          outstanding := parser.machine.outstanding +
            ((lengthSizeOf (parser.data.headD 0)).bytes - 1)
          state := .waitingForPDULength }, parser.data⟩ := by
    unfold Parser.handle Machine.handle
    rw [state]
    show (⟨_, parser.data.take parser.machine.dataLength⟩ : Parser) = _
    rw [framed.length, List.take_length]
    rfl
  rw [next]
  refine ⟨framed.length, fun state => RXState.noConfusion state, fun _ => ⟨some, rfl, ?_⟩,
    fun state => RXState.noConfusion state⟩
  have least : 2 ≤ (lengthSizeOf (parser.data.headD 0)).bytes := by
    unfold lengthSizeOf
    split <;> decide
  show parser.data.length + (parser.machine.outstanding +
    ((lengthSizeOf (parser.data.headD 0)).bytes - 1)) = (lengthSizeOf (parser.data.headD 0)).bytes
  omega

theorem Framed.handle_length (framed : parser.Framed)
    (state : parser.machine.state = .waitingForPDULength)
    (ready : parser.machine.outstanding = 0)
    (valid : (parser.handle layer).machine.valid = true) : (parser.handle layer).Framed := by
  obtain ⟨some, sizes, whole⟩ := framed.lengths state
  rw [ready, Nat.add_zero] at whole
  have decoded := decodeLength_eq (show (lengthSizeOf (parser.data.headD 0)).bytes ≤
    parser.data.length by rw [← sizes]; omega)
  rw [← sizes] at decoded
  have next : parser.handle layer = ⟨parser.machine.handlePDULength parser.data,
      parser.data.take (parser.machine.handlePDULength parser.data).dataLength⟩ := by
    unfold Parser.handle Machine.handle
    rw [state]
  rw [next] at valid ⊢
  unfold Machine.handlePDULength at *
  by_cases short : Machine.lengthIn parser.machine.lengthSize parser.data <
      parser.machine.lengthSize.bytes
  · rw [if_pos short] at valid
    cases valid
  · rw [if_neg short] at decoded ⊢
    rw [show parser.data.take parser.machine.dataLength = parser.data by
      rw [framed.length, List.take_length]]
    refine ⟨framed.length, fun state => RXState.noConfusion state,
      fun state => RXState.noConfusion state, fun _ => ⟨?_, _, decoded⟩⟩
    show parser.data.length + (parser.machine.outstanding +
      (Machine.lengthIn parser.machine.lengthSize parser.data -
        parser.machine.lengthSize.bytes)) =
          Machine.lengthIn parser.machine.lengthSize parser.data
    omega

/-- What is handled leaves what is waited for next. -/
theorem Framed.handle (framed : parser.Framed) (ready : parser.machine.outstanding = 0)
    (valid : (parser.handle layer).machine.valid = true) : (parser.handle layer).Framed := by
  cases state : parser.machine.state with
  | waitingForPreamble =>
    have next : parser.handle layer = ⟨parser.machine.handlePreamble parser.data,
        parser.data.take (parser.machine.handlePreamble parser.data).dataLength⟩ := by
      unfold Parser.handle Machine.handle
      rw [state]
    rw [next] at valid ⊢
    unfold Machine.handlePreamble at *
    dsimp only at *
    split at valid
    · cases valid
    · rename_i header
      rw [if_neg header]
      split
      · exact framed_enterWaitingForPDU _
      · exact framed_enterWaitingForPreamble _
  | waitingForPDUFlags => exact framed.handle_flags state ready
  | waitingForPDULength => exact framed.handle_length state ready valid
  | waitingForPDU =>
    unfold Parser.handle
    rw [framed.handle_pdu state ready layer]
    dsimp only
    split
    · exact framed_enterWaitingForPreamble _
    · exact framed_enterWaitingForPDU _

theorem ready_of_unstable (unstable : ¬ parser.Stable) :
    parser.machine.valid = true ∧ parser.machine.outstanding = 0 := by
  unfold Stable at unstable
  rw [not_or] at unstable
  exact ⟨by simpa using unstable.1, by simpa using unstable.2⟩

theorem Framed.settle (framed : parser.Framed)
    (valid : (parser.settle layer).machine.valid = true) : (parser.settle layer).Framed := by
  unfold Parser.settle at *
  by_cases stable : parser.Stable
  · rw [if_pos stable] at valid ⊢
    exact framed
  · have ready := ready_of_unstable stable
    rw [if_neg stable] at valid ⊢
    by_cases next : (parser.handle layer).Stable
    · rw [if_pos next] at valid ⊢
      exact framed.handle ready.2 valid
    · have again := ready_of_unstable next
      rw [if_neg next] at valid ⊢
      exact (framed.handle ready.2 again.1).handle again.2 valid

/-- A valid receiver waits for bytes, and it is known which. -/
def Waiting (parser : Parser) : Prop :=
  parser.machine.valid = true → parser.Framed ∧ parser.machine.outstanding ≠ 0

theorem waiting_initial : initial.Waiting := fun _ => ⟨framed_initial, Nat.succ_ne_zero 19⟩

theorem Waiting.push (waiting : parser.Waiting) (byte : UInt8) :
    (parser.push layer byte).Waiting := by
  unfold Parser.push
  by_cases valid : parser.machine.valid = true
  · rw [if_pos valid]
    intro still
    have before := waiting valid
    have one : [byte].length ≤ parser.machine.outstanding := Nat.pos_of_ne_zero before.2
    have stable := stable_settle layer (parser.received [byte])
    refine ⟨(before.1.received one).settle still, ?_⟩
    rcases stable with invalid | asks
    · exact absurd (still.symm.trans invalid) Bool.noConfusion
    · exact asks
  · rw [if_neg valid]
    exact waiting

/-- The receiver when the next byte is in the buffer and, if it ends the length, this is read. -/
def complete (layer : Layer Header) (parser : Parser) (byte : UInt8) : Parser :=
  if (parser.received [byte]).machine.state = .waitingForPDULength then
    (parser.received [byte]).handle layer
  else parser.received [byte]

/-- The next byte completes a PDU that goes on behind the end of its block. -/
def Crosses (layer : Layer Header) (parser : Parser) (byte : UInt8) : Prop :=
  let complete := (parser.complete layer byte).machine
  parser.machine.valid = true ∧ complete.valid = true ∧ complete.outstanding = 0 ∧
    complete.state = .waitingForPDU ∧
    complete.blockSize.toNat < complete.consumedBlockSize.toNat + complete.pduSize

instance (layer : Layer Header) (parser : Parser) (byte : UInt8) :
    Decidable (parser.Crosses layer byte) := inferInstanceAs (Decidable (_ ∧ _))

/-- Handling a whole PDU leaves nothing to handle. -/
theorem Framed.settle_pdu (framed : parser.Framed) (valid : parser.machine.valid = true)
    (state : parser.machine.state = .waitingForPDU) (ready : parser.machine.outstanding = 0) :
    parser.settle layer = parser.handle layer ∧
      (parser.handle layer).machine.valid = true := by
  have next := framed.handle_pdu state ready layer
  have unstable : ¬ parser.Stable := by
    unfold Stable
    rw [valid, ready]
    simp
  have after : (parser.handle layer).machine.valid = true ∧
      (parser.handle layer).machine.outstanding ≠ 0 := by
    unfold Parser.handle
    rw [next]
    dsimp only
    split
    · exact ⟨valid, Nat.succ_ne_zero 19⟩
    · exact ⟨valid, Nat.one_ne_zero⟩
  refine ⟨?_, after.1⟩
  unfold Parser.settle
  rw [if_neg unstable, if_pos (show (parser.handle layer).Stable from Or.inr after.2)]

/-- A PDU that crosses the end of its block leaves the stream valid. -/
theorem Waiting.valid_of_crosses (waiting : parser.Waiting) {byte : UInt8}
    (crosses : parser.Crosses layer byte) : (parser.push layer byte).machine.valid = true := by
  obtain ⟨valid, still, ready, state, -⟩ := crosses
  have before := waiting valid
  have one : [byte].length ≤ parser.machine.outstanding := Nat.pos_of_ne_zero before.2
  have framed := before.1.received one
  unfold Parser.push
  rw [if_pos valid]
  unfold complete at still ready state
  by_cases length : (parser.received [byte]).machine.state = .waitingForPDULength
  · rw [if_pos length] at still ready state
    have none : (parser.received [byte]).machine.outstanding = 0 := by
      unfold Parser.handle Machine.handle at ready still
      rw [length] at ready still
      unfold Machine.handlePDULength at ready still
      dsimp only at ready still
      split at still
      · cases still
      · rename_i enough
        rw [if_neg enough] at ready
        exact (Nat.add_eq_zero_iff.mp ready).1
    have unstable : ¬ (parser.received [byte]).Stable := by
      unfold Stable
      rw [none, show (parser.received [byte]).machine.valid = true from valid]
      simp
    have whole := @Framed.settle_pdu Header layer _ (framed.handle none still) still state ready
    rw [← settle_handle unstable, whole.1]
    exact whole.2
  · rw [if_neg length] at still ready state
    have whole := @Framed.settle_pdu Header layer _ framed still state ready
    rw [whole.1]
    exact whole.2

/-- Every PDU that crosses the end of its block makes the stream invalid. -/
def Detects (layer : Layer Header) (stream : List UInt8) : Prop :=
  ∀ front byte back, stream = front ++ byte :: back → (parsed layer front).Crosses layer byte →
    (parsed layer (front ++ [byte])).machine.valid = false

/-- No PDU of a stream crosses the end of its block. -/
def WithinBlocks (layer : Layer Header) (stream : List UInt8) : Prop :=
  Permitted (push layer) (fun parser byte => ¬ parser.Crosses layer byte) initial stream

instance (layer : Layer Header) (stream : List UInt8) : Decidable (WithinBlocks layer stream) :=
  inferInstanceAs (Decidable (Permitted _ _ _ _))

theorem detects_iff (layer : Layer Header) (stream : List UInt8) :
    Detects layer stream ↔ WithinBlocks layer stream := by
  unfold Detects WithinBlocks
  rw [← @steps_iff_permitted Parser UInt8 (push layer)
    (fun parser byte => ¬ parser.Crosses layer byte)
    (fun parser byte => parser.Crosses layer byte →
      (parser.push layer byte).machine.valid = false) Waiting
    (fun parser byte waiting _ => waiting.push byte) ?_ initial stream waiting_initial]
  · simp only [parsed, run_append, run_cons, run_nil]
  · intro parser byte waiting
    constructor
    · intro detects crosses
      have valid := waiting.valid_of_crosses crosses
      exact absurd (valid.symm.trans (detects crosses)) Bool.noConfusion
    · exact fun within crosses => absurd crosses within

end Parser

end OpenLighting.Acn.Stream
