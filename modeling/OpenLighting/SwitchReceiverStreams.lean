import OpenLighting.SwitchReceiver

/- Streams of frames. -/
namespace OpenLighting.SwitchReceiver

open TransitionSystem

/-- Frames one behind the other, each with some bytes in front of it, and some behind the last. -/
def stream {Sent : Type} (frame : Sent → List UInt8) :
    List (List UInt8 × Sent) → List UInt8 → List UInt8
  | [], trailing => trailing
  | (gap, sent) :: rest, trailing => gap ++ (frame sent ++ stream frame rest trailing)

/-- The frames can be sent, and what is between them does not look like the start of one. -/
structure Separated {Sent : Type} (som : UInt8) (Fits : Sent → Prop)
    (sends : List (List UInt8 × Sent)) (trailing : List UInt8) : Prop where
  gaps : ∀ send ∈ sends, som ∉ send.1
  fit : ∀ send ∈ sends, Fits send.2
  trailing : som ∉ trailing

section Streams
variable {State Label Message Sent : Type} {receiver : Receiver State Label Message}
  {Inv : State → Prop} {size : Nat} {frame : Sent → List UInt8} {som : UInt8} {Fits : Sent → Prop}
  {message : Sent → Message} {idle : State → Prop}

/-- What the receiver does between the frames and with a frame. -/
structure Framed (receiver : Receiver State Label Message) (idle : State → Prop) (som : UInt8)
    (frame : Sent → List UInt8) (Fits : Sent → Prop) (message : Sent → Message) : Prop where
  skips : ∀ state data messages byte, idle state → byte ≠ som → ∃ state' data',
    Parser.push receiver ⟨state, data, messages⟩ byte = ⟨state', data', messages⟩ ∧ idle state'
  takes : ∀ state data messages sent, idle state → Fits sent → ∃ state' data',
    run (Parser.push receiver) ⟨state, data, messages⟩ (frame sent) =
      ⟨state', data', messages ++ [message sent]⟩ ∧ idle state'

section

variable {state : State} (framed : Framed receiver idle som frame Fits message)
  (between : idle state) (data : List UInt8) (messages : List Message)
include framed between data messages

theorem Framed.run_gap {gap : List UInt8} (other : som ∉ gap) : ∃ state' data',
      run (Parser.push receiver) ⟨state, data, messages⟩ gap = ⟨state', data', messages⟩ ∧
        idle state' := by
  induction gap generalizing state data with
  | nil => exact ⟨state, data, rfl, between⟩
  | cons byte rest ih =>
    rw [List.mem_cons, not_or] at other
    have ⟨state', data', pushed, between'⟩ :=
      framed.skips state data messages byte between (Ne.symm other.1)
    have ⟨state'', data'', done, still⟩ := ih between' data' other.2
    refine ⟨state'', data'', ?_, still⟩
    rw [← done, ← pushed]
    rfl

/-- Every frame of a stream is taken, and nothing else. -/
theorem Framed.run_stream {sends : List (List UInt8 × Sent)} {trailing : List UInt8}
    (separated : Separated som Fits sends trailing) :
    (run (Parser.push receiver) ⟨state, data, messages⟩ (stream frame sends trailing)).messages =
      messages ++ sends.map fun send => message send.2 := by
  induction sends generalizing state data messages with
  | nil =>
    have ⟨_, _, skipped, _⟩ := framed.run_gap between data messages separated.trailing
    rw [stream, skipped]
    exact (List.append_nil messages).symm
  | cons send rest ih =>
    have ⟨gap, sent⟩ := send
    have gaps := List.forall_mem_cons.mp separated.gaps
    have fit := List.forall_mem_cons.mp separated.fit
    have ⟨state', data', skipped, between'⟩ := framed.run_gap between data messages gaps.1
    have ⟨state'', data'', taken, between''⟩ :=
      framed.takes state' data' messages sent between' fit.1
    rw [stream, run_append, skipped, run_append, taken,
      ih between'' data'' _ ⟨gaps.2, fit.2, separated.trailing⟩, List.append_assoc]
    rfl

end

/-- Messages that were handled stay so. -/
theorem messages_push (parser : Parser State Message) (bytes : List UInt8) :
    parser.messages <+: (run (Parser.push receiver) parser bytes).messages := by
  induction bytes generalizing parser with
  | nil => exact List.prefix_rfl
  | cons byte rest ih =>
    apply List.IsPrefix.trans _ (ih _)
    unfold Parser.push
    dsimp only
    split
    · exact List.prefix_rfl
    · exact List.prefix_append _ _

/-- All that is written stays in the buffer; a call gets something as long as there is data, and
the loop comes to an end; and a stream of frames gives a message for each that has been got, in
order, and for all of them in the end. -/
structure Delivers (receiver : Receiver State Label Message) (frame : Sent → List UInt8)
    (som : UInt8) (Fits : Sent → Prop) (message : Sent → Message)
    (world : World State Label Message) (events : List Event) : Prop where
  inside : ∀ access ∈ world.accesses, access.Inside
  advances : world.control = none → world.remaining ≠ 0 →
    (run (step receiver) world [.goes, .goes]).remaining < world.remaining
  ends : ∃ count, (run (step receiver) world (List.replicate count .goes)).AtEnd
  handled : ∀ sends trailing, Separated som Fits sends trailing →
    arrived events <+: stream frame sends trailing →
    world.messages <+: sends.map fun send => message send.2
  all : ∀ sends trailing, Separated som Fits sends trailing →
    arrived events = stream frame sends trailing → world.AtEnd →
    world.messages = sends.map fun send => message send.2

theorem delivers_of_contiguous (lawful : receiver.Lawful Inv size)
    (framed : Framed receiver idle som frame Fits message) {state : State} (inv : Inv state)
    (between : idle state) {events : List Event}
    (permitted : Permitted (step receiver) (Contiguous receiver) (.start state size) events) :
    Delivers receiver frame som Fits message (run (step receiver) (.start state size) events)
      events := by
  have initial : Corresponds receiver Inv size
      ⟨state, (List.replicate size 0).take (receiver.offset state), []⟩ (.start state size) [] :=
    ⟨⟨inv, nofun, nofun⟩, List.length_replicate, nofun, rfl⟩
  have ⟨bytes, split, corresponds⟩ := run_corresponds lawful initial permitted
  change arrived events = _ at split
  have parsed := congrArg Parser.messages corresponds.parser
  change _ = (run (step receiver) (.start state size) events).messages at parsed
  constructor
  case inside => exact corresponds.inside
  case advances => exact corresponds.toLive.advances lawful
  case ends => exact corresponds.toLive.ends lawful
  case handled =>
    intro sends trailing separated front
    have ⟨more, whole⟩ := front
    rw [split, List.append_assoc] at whole
    have sent := framed.run_stream between
      ((List.replicate size 0).take (receiver.offset state)) [] separated
    rw [← whole, run_append, List.nil_append] at sent
    rw [← sent, ← parsed]
    exact messages_push _ _
  case all =>
    intro sends trailing separated same ended
    have nothing := List.length_eq_zero_iff.mp ended.2
    rw [nothing, List.append_nil] at split
    rw [← parsed, ← split, same]
    exact framed.run_stream between _ [] separated

end Streams

end OpenLighting.SwitchReceiver
