import OpenLighting.AcnStream

/- The receiver of an ACN stream, one byte after the other. -/
namespace OpenLighting.Acn.Stream

open ByteCodec TransitionSystem

namespace Machine
variable {Header : Type} {machine : Machine} {data : List UInt8}

theorem handlePreamble_spec (ready : machine.outstanding = 0) (data : List UInt8) :
    (machine.handlePreamble data).dataLength ≤ machine.dataLength ∧
      ((machine.handlePreamble data).valid = false ∧
          (machine.handlePreamble data).outstanding = 0 ∨
        (machine.handlePreamble data).valid = machine.valid ∧
          (machine.handlePreamble data).outstanding ≠ 0) := by
  unfold handlePreamble
  dsimp only
  split
  · exact ⟨Nat.le_refl _, Or.inl ⟨rfl, ready⟩⟩
  · split
    · exact ⟨Nat.zero_le _, Or.inr ⟨rfl, Nat.one_ne_zero⟩⟩
    · exact ⟨Nat.zero_le _, Or.inr ⟨rfl, Nat.succ_ne_zero 19⟩⟩

theorem handlePDU_spec (layer : Layer Header) (ready : machine.outstanding = 0)
    (data : List UInt8) :
    (machine.handlePDU layer data).dataLength ≤ machine.dataLength ∧
      ((machine.handlePDU layer data).valid = false ∧
          (machine.handlePDU layer data).outstanding = 0 ∨
        (machine.handlePDU layer data).valid = machine.valid ∧
          (machine.handlePDU layer data).outstanding ≠ 0) := by
  unfold handlePDU
  dsimp only
  split
  · exact ⟨Nat.le_refl _, Or.inl ⟨rfl, ready⟩⟩
  · split
    · exact ⟨Nat.le_refl _, Or.inl ⟨rfl, ready⟩⟩
    · split
      · exact ⟨Nat.zero_le _, Or.inr ⟨rfl, Nat.succ_ne_zero 19⟩⟩
      · exact ⟨Nat.zero_le _, Or.inr ⟨rfl, Nat.one_ne_zero⟩⟩

/-- The switch makes the stream invalid, asks for more bytes or has a whole PDU to handle next. -/
theorem handle_spec (layer : Layer Header) (ready : machine.outstanding = 0) (data : List UInt8) :
    (machine.handle layer data).dataLength ≤ machine.dataLength ∧
      ((machine.handle layer data).valid = false ∧
          (machine.handle layer data).outstanding = 0 ∨
        (machine.handle layer data).valid = machine.valid ∧
          ((machine.handle layer data).outstanding ≠ 0 ∨
            machine.state ≠ .waitingForPDU ∧
              (machine.handle layer data).state = .waitingForPDU)) := by
  unfold handle
  cases state : machine.state with
  | waitingForPreamble =>
    have spec := handlePreamble_spec ready data
    exact ⟨spec.1, spec.2.imp_right (And.imp_right Or.inl)⟩
  | waitingForPDUFlags =>
    refine ⟨Nat.le_refl _, Or.inr ⟨rfl, Or.inl ?_⟩⟩
    show machine.outstanding +
      ((if data.headD 0 &&& lengthFlag ≠ 0 then PDULengthSize.threeBytes
        else PDULengthSize.twoBytes).bytes - 1) ≠ 0
    split <;> simp [PDULengthSize.bytes]
  | waitingForPDULength =>
    unfold handlePDULength
    dsimp only
    split
    · exact ⟨Nat.le_refl _, Or.inl ⟨rfl, ready⟩⟩
    · exact ⟨Nat.le_refl _, Or.inr ⟨rfl, Or.inr ⟨RXState.noConfusion, rfl⟩⟩⟩
  | waitingForPDU =>
    have spec := handlePDU_spec layer ready data
    exact ⟨spec.1, spec.2.imp_right (And.imp_right Or.inl)⟩

end Machine

/-- A receiver and the bytes in its buffer. -/
structure Parser where
  machine : Machine
  data : List UInt8
  deriving DecidableEq

namespace Parser
variable {Header : Type}

def initial : Parser := ⟨Machine.initial, []⟩

/-- It waits for bytes, or no longer does. -/
def Stable (parser : Parser) : Prop :=
  parser.machine.valid = false ∨ parser.machine.outstanding ≠ 0

instance (parser : Parser) : Decidable parser.Stable := inferInstanceAs (Decidable (_ ∨ _))

def handle (layer : Layer Header) (parser : Parser) : Parser :=
  let machine := parser.machine.handle layer parser.data
  ⟨machine, parser.data.take machine.dataLength⟩

/-- What is complete is handled. The length of a PDU may be all there is of it. -/
def settle (layer : Layer Header) (parser : Parser) : Parser :=
  if parser.Stable then parser
  else if (parser.handle layer).Stable then parser.handle layer
  else (parser.handle layer).handle layer

def received (parser : Parser) (bytes : List UInt8) : Parser :=
  ⟨parser.machine.received bytes.length, parser.data ++ bytes⟩

/-- The next byte of the stream. -/
def push (layer : Layer Header) (parser : Parser) (byte : UInt8) : Parser :=
  if parser.machine.valid then (parser.received [byte]).settle layer else parser

/-- What a receiver makes of a stream of bytes. -/
def parsed (layer : Layer Header) (stream : List UInt8) : Parser :=
  run (push layer) initial stream

section Settling
variable {layer : Layer Header} {parser : Parser}

theorem settle_of_stable (stable : parser.Stable) : parser.settle layer = parser := if_pos stable

/-- After two steps nothing is left to handle. -/
theorem stable_settle (layer : Layer Header) (parser : Parser) : (parser.settle layer).Stable := by
  unfold settle
  split
  · assumption
  · rename_i unstable
    have ready : parser.machine.outstanding = 0 := by
      by_contra waiting
      exact unstable (Or.inr waiting)
    split
    · assumption
    · rename_i still
      have waiting : (parser.handle layer).machine.outstanding = 0 := by
        by_contra waiting
        exact still (Or.inr waiting)
      have first := (Machine.handle_spec layer ready parser.data).2
      have whole : (parser.handle layer).machine.state = .waitingForPDU := by
        rcases first with invalid | ⟨-, asks | whole⟩
        · exact absurd (Or.inl invalid.1) still
        · exact absurd waiting asks
        · exact whole.2
      rcases (Machine.handle_spec layer waiting (parser.handle layer).data).2 with
        invalid | ⟨-, asks | again⟩
      · exact Or.inl invalid.1
      · exact Or.inr asks
      · exact absurd whole again.1

theorem settle_handle (unstable : ¬ parser.Stable) :
    (parser.handle layer).settle layer = parser.settle layer := by
  have whole := stable_settle layer parser
  unfold settle at whole
  rw [if_neg unstable] at whole
  unfold settle
  split
  · rfl
  · rename_i still
    rw [if_neg still] at whole
    rw [if_pos whole]

theorem received_received (parser : Parser) (first second : List UInt8) :
    (parser.received first).received second = parser.received (first ++ second) := by
  unfold received Machine.received
  rw [List.append_assoc, List.length_append, Nat.add_assoc, Nat.sub_sub]

/-- Bytes that are asked for can come one after the other. -/
theorem run_push {bytes : List UInt8} (valid : parser.machine.valid = true)
    (stable : parser.Stable) (asked : bytes.length ≤ parser.machine.outstanding) :
    run (push layer) parser bytes = (parser.received bytes).settle layer := by
  induction bytes generalizing parser with
  | nil =>
    have same : parser.received [] = parser := by
      unfold received
      rw [List.append_nil]
      rfl
    rw [same, settle_of_stable stable]
    rfl
  | cons byte rest ih =>
    rw [List.length_cons] at asked
    have first : parser.push layer byte = (parser.received [byte]).settle layer := if_pos valid
    rw [run_cons, first]
    cases rest with
    | nil => rfl
    | cons second rest =>
      have more : (parser.received [byte]).machine.outstanding = parser.machine.outstanding - 1 :=
        rfl
      rw [List.length_cons] at asked
      have waiting : (parser.received [byte]).Stable := Or.inr (by omega)
      have others := @ih (parser.received [byte]) valid waiting
        (by rw [more, List.length_cons]; omega)
      rw [settle_of_stable waiting, others, received_received]
      rfl

theorem run_push_of_invalid (invalid : parser.machine.valid = false) (bytes : List UInt8) :
    run (push layer) parser bytes = parser := by
  induction bytes with
  | nil => rfl
  | cons byte rest ih =>
    rw [run_cons, push, if_neg (by simp [invalid])]
    exact ih

end Settling

end Parser

end OpenLighting.Acn.Stream
