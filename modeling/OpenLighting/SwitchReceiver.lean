import OpenLighting.Descriptor
import OpenLighting.TransitionSystem

/- Receivers that are a switch over a state whose cases fall through, and that can be interrupted
wherever they ask a descriptor for data. -/
namespace OpenLighting.SwitchReceiver

open TransitionSystem List
open OpenLighting.Descriptor (Access receive collected)

/-- The cases of a switch. Each asks either for one byte or for the rest of a body, which is stored
in a buffer; then the call returns or falls into a case. The bytes of the buffer that are read are
those before the offset. -/
structure Receiver (State Label Message : Type) where
  label : State → Label
  body : Label → Bool
  wanted : State → Nat
  offset : State → Nat
  onByte : Label → State → List UInt8 → UInt8 → State × Option Label × Option Message
  onBody : State → Nat → State × Option Label

/-- A receiver with its descriptor. `pending` is what the next reads find, `accesses` are the reads
into the buffer so far; `control` is the case that the call has got to, if there is a call. -/
structure World (State Label Message : Type) where
  state : State
  buffer : List UInt8
  pending : List (List UInt8)
  accesses : List Access
  messages : List Message
  control : Option Label

/-- A read finds something when its turn comes; and the receiver goes on. -/
inductive Event where
  | arrives (found : List UInt8)
  | goes
  deriving DecidableEq

def receiveByte (pending : List (List UInt8)) : Option UInt8 × List (List UInt8) :=
  let received := receive 1 pending [0] 0
  if received.dataRead = 1 then (received.buffer.head?, received.pending)
  else (none, received.pending)

section Worlds
variable {State Label Message : Type} (receiver : Receiver State Label Message)

def World.start (state : State) (size : Nat) : World State Label Message :=
  ⟨state, List.replicate size 0, [], [], [], none⟩

variable (world : World State Label Message)

/-- How much data there is. -/
def World.remaining : Nat := world.pending.flatten.length

/-- One case of the switch. -/
def World.enter (label : Label) : World State Label Message :=
  if receiver.body label then
    let received := receive (receiver.wanted world.state) world.pending world.buffer
      (receiver.offset world.state)
    let world :=
      { world with
        buffer := received.buffer
        pending := received.pending
        accesses := world.accesses ++ received.accesses }
    if received.dataRead = 0 then { world with control := none }
    else
      let (state, next) := receiver.onBody world.state received.dataRead
      { world with state := state, control := next }
  else
    match receiveByte world.pending with
    | (none, pending) => { world with pending := pending, control := none }
    | (some byte, pending) =>
      let (state, next, message) := receiver.onByte label world.state world.buffer byte
      { world with
        state := state
        pending := pending
        messages := world.messages ++ message.toList
        control := next }

/-- Between the calls there is a loop that calls while there is data. -/
def step (world : World State Label Message) : Event → World State Label Message
  | .arrives found =>
    if found = [] then world else { world with pending := world.pending ++ [found] }
  | .goes =>
    match world.control with
    | some label => world.enter receiver label
    | none =>
      if world.remaining = 0 then world
      else { world with control := some (receiver.label world.state) }

/-- At most two reads find what is asked for. -/
def Contiguous (world : World State Label Message) : Event → Prop
  | .arrives _ => True
  | .goes => ∀ label ∈ world.control, receiver.body label = true →
      Descriptor.Contiguous (receiver.wanted world.state) world.pending

instance (world : World State Label Message) : ∀ event, Decidable (Contiguous receiver world event)
  | .arrives _ => .isTrue trivial
  | .goes => inferInstanceAs (Decidable (∀ label ∈ world.control, _ → _))

end Worlds

def arrived : List Event → List UInt8
  | [] => []
  | .arrives found :: rest => found ++ arrived rest
  | .goes :: rest => arrived rest

/-- The bytes that have been got by a state that is taken one byte at a time, and its messages. -/
structure Parser (State Message : Type) where
  state : State
  data : List UInt8
  messages : List Message

section Parsers
variable {State Label Message : Type} (receiver : Receiver State Label Message)

/-- One byte. -/
def Parser.push (parser : Parser State Message) (byte : UInt8) : Parser State Message :=
  let label := receiver.label parser.state
  if receiver.body label then
    ⟨(receiver.onBody parser.state 1).1, parser.data ++ [byte], parser.messages⟩
  else
    let (state, _, message) := receiver.onByte label parser.state parser.data byte
    ⟨state, parser.data.take (receiver.offset state), parser.messages ++ message.toList⟩

/-- A receiver whose buffer has a size: a case that asks for a byte looks at what has been got only;
a body fits the buffer, and can be got in parts; and a call falls into the case of the new state, or
into that of a body of which nothing is left. -/
structure Receiver.Lawful (Inv : State → Prop) (size : Nat) : Prop where
  looks : ∀ state buffer byte, Inv state → receiver.body (receiver.label state) = false →
    receiver.onByte (receiver.label state) state (buffer.take (receiver.offset state)) byte =
      receiver.onByte (receiver.label state) state buffer byte
  byte : ∀ state buffer byte, Inv state → receiver.body (receiver.label state) = false →
    let (state', next, _) := receiver.onByte (receiver.label state) state buffer byte
    Inv state' ∧ receiver.offset state' ≤ receiver.offset state ∧
      ∀ label ∈ next, label = receiver.label state' ∨
        (receiver.body label = true ∧ receiver.wanted state' = 0)
  room : ∀ state, Inv state → receiver.body (receiver.label state) = true →
    0 < receiver.wanted state ∧ receiver.offset state + receiver.wanted state ≤ size
  rest : ∀ state count, Inv state → receiver.body (receiver.label state) = true → 0 < count →
    count ≤ receiver.wanted state →
    let (state', next) := receiver.onBody state count
    Inv state' ∧ receiver.offset state' = receiver.offset state + count ∧
      ∀ label ∈ next, label = receiver.label state'
  part : ∀ state count, Inv state → receiver.body (receiver.label state) = true → 0 < count →
    count < receiver.wanted state →
    receiver.body (receiver.label (receiver.onBody state count).1) = true ∧
      receiver.wanted (receiver.onBody state count).1 = receiver.wanted state - count ∧
      (receiver.onBody (receiver.onBody state count).1 1).1 = (receiver.onBody state (count + 1)).1

end Parsers

/-- One byte of the first read. -/
theorem receiveByte_cons (byte : UInt8) (found : List UInt8) (rest : List (List UInt8)) :
    receiveByte ((byte :: found) :: rest) =
      (some byte, if found = [] then rest else found :: rest) := by
  unfold receiveByte receive
  cases found with
  | nil =>
    have whole : [byte].length ≤ 1 - 0 := Nat.le_refl 1
    rw [Descriptor.receiveFrom_whole Nat.zero_lt_one (cons_ne_nil byte []) whole]
    have enough : 1 ≤ 0 + [byte].length := Nat.le_refl 1
    rw [Descriptor.receiveFrom_enough enough]
    rfl
  | cons next found =>
    have part : 1 - 0 < (byte :: next :: found).length := by simp
    rfl

theorem receiveByte_spec {pending : List (List UInt8)}
    (found : ∀ found ∈ pending, found ≠ []) :
    (receiveByte pending = (none, pending) ∧ pending = []) ∨
      ∃ byte left, receiveByte pending = (some byte, left) ∧
        pending.flatten = byte :: left.flatten ∧ ∀ found ∈ left, found ≠ [] := by
  cases pending with
  | nil => exact Or.inl ⟨rfl, rfl⟩
  | cons first rest =>
    have each := forall_mem_cons.mp found
    cases first with
    | nil => exact absurd rfl each.1
    | cons byte bytes =>
      right
      refine ⟨byte, _, receiveByte_cons byte bytes rest, ?_⟩
      by_cases last : bytes = []
      · rw [if_pos last, last]
        exact ⟨rfl, each.2⟩
      · rw [if_neg last]
        exact ⟨rfl, forall_mem_cons.mpr ⟨last, each.2⟩⟩

section Bodies
variable {State Label Message : Type} {receiver : Receiver State Label Message}
  {Inv : State → Prop} {size : Nat} {state : State}

theorem push_body (body : receiver.body (receiver.label state) = true) (data : List UInt8)
    (messages : List Message) (byte : UInt8) :
    Parser.push receiver ⟨state, data, messages⟩ byte =
      ⟨(receiver.onBody state 1).1, data ++ [byte], messages⟩ := if_pos body

theorem push_byte (other : receiver.body (receiver.label state) = false) (data : List UInt8)
    (messages : List Message) (byte : UInt8) :
    Parser.push receiver ⟨state, data, messages⟩ byte =
      ⟨(receiver.onByte (receiver.label state) state data byte).1,
        data.take (receiver.offset (receiver.onByte (receiver.label state) state data byte).1),
        messages ++ (receiver.onByte (receiver.label state) state data byte).2.2.toList⟩ :=
  if_neg (by rw [other]; exact Bool.false_ne_true)

theorem push_message (other : receiver.body (receiver.label state) = false) {data : List UInt8}
    {byte : UInt8} {state' : State} {next : Option Label} {message : Message}
    (ran : receiver.onByte (receiver.label state) state data byte = (state', next, some message))
    (messages : List Message) :
    Parser.push receiver ⟨state, data, messages⟩ byte =
      ⟨state', data.take (receiver.offset state'), messages ++ [message]⟩ := by
  rw [push_byte other, ran]
  rfl

theorem push_quiet (other : receiver.body (receiver.label state) = false) {data : List UInt8}
    {byte : UInt8} {state' : State} {next : Option Label}
    (quiet : receiver.onByte (receiver.label state) state data byte = (state', next, none))
    (messages : List Message) :
    Parser.push receiver ⟨state, data, messages⟩ byte =
      ⟨state', data.take (receiver.offset state'), messages⟩ := by
  rw [push_byte other, quiet]
  exact congrArg _ (append_nil messages)

/-- A part of a body, byte by byte. -/
theorem run_push_body (lawful : receiver.Lawful Inv size) (inv : Inv state)
    (body : receiver.body (receiver.label state) = true) (data : List UInt8)
    (messages : List Message) {bytes : List UInt8} (some : bytes ≠ [])
    (room : bytes.length ≤ receiver.wanted state) :
    run (Parser.push receiver) ⟨state, data, messages⟩ bytes =
      ⟨(receiver.onBody state bytes.length).1, data ++ bytes, messages⟩ := by
  induction bytes using List.reverseRecOn with
  | nil => exact absurd rfl some
  | append_singleton front last ih =>
    rw [length_append, length_singleton] at room ⊢
    by_cases first : front = []
    · rw [first]
      exact push_body body data messages last
    · have before := ih first (by omega)
      have ⟨more, _, together⟩ := lawful.part state front.length inv body
        (length_pos_iff.mpr first) (by omega)
      rw [run_append, before]
      show Parser.push receiver _ last = _
      rw [push_body more, together, append_assoc]

end Bodies

section Live
variable {State Label Message : Type} {receiver : Receiver State Label Message}
  {Inv : State → Prop} {size : Nat} {world : World State Label Message}

/-- What holds of a receiver whatever becomes of its buffer. -/
structure Live (receiver : Receiver State Label Message) (Inv : State → Prop)
    (world : World State Label Message) : Prop where
  inv : Inv world.state
  found : ∀ found ∈ world.pending, found ≠ []
  control : ∀ label ∈ world.control, label = receiver.label world.state ∨
    (receiver.body label = true ∧ receiver.wanted world.state = 0)

/-- A case takes some bytes: at least one, if it is that of the state and there are any, or the call
returns. -/
structure Takes (receiver : Receiver State Label Message) (Inv : State → Prop)
    (world after : World State Label Message) (label : Label) (bytes : List UInt8) : Prop where
  live : Live receiver Inv after
  split : world.pending.flatten = bytes ++ after.pending.flatten
  some : label = receiver.label world.state → world.remaining ≠ 0 → bytes ≠ []
  returns : bytes = [] → after.control = none

theorem remaining_eq_zero {world : World State Label Message}
    (found : ∀ found ∈ world.pending, found ≠ []) :
    world.remaining = 0 ↔ world.pending = [] := by
  unfold World.remaining
  cases pending : world.pending with
  | nil => simp
  | cons first rest =>
    rw [pending] at found
    have some := (forall_mem_cons.mp found).1
    simp [some]

/-- What a case of a body does with what it gets. -/
def World.got (receiver : Receiver State Label Message) (world : World State Label Message) :
    World State Label Message :=
  let received := receive (receiver.wanted world.state) world.pending world.buffer
    (receiver.offset world.state)
  { world with
    buffer := received.buffer
    pending := received.pending
    accesses := world.accesses ++ received.accesses }

def World.bytes (receiver : Receiver State Label Message) (world : World State Label Message) :
    List UInt8 := collected (receiver.wanted world.state) world.pending

theorem bytes_append_got : world.bytes receiver ++ (world.got receiver).pending.flatten =
    world.pending.flatten :=
  (Descriptor.collected_append_pending (receiver.wanted world.state) world.pending world.buffer
    (receiver.offset world.state) 0).1

theorem got_found (found : ∀ found ∈ world.pending, found ≠ []) :
    (∀ left ∈ (world.got receiver).pending, left ≠ []) ∧
      ((world.bytes receiver).length < receiver.wanted world.state →
        (world.got receiver).pending = []) :=
  @Descriptor.pending_of_some (receiver.wanted world.state) 0 world.pending world.buffer
    (receiver.offset world.state) found

variable {label : Label}

theorem enter_body (body : receiver.body label = true) :
    world.enter receiver label =
      if world.bytes receiver = [] then { world.got receiver with control := none }
      else
        { world.got receiver with
          state := (receiver.onBody world.state (world.bytes receiver).length).1
          control := (receiver.onBody world.state (world.bytes receiver).length).2 } := by
  have count := (Descriptor.collected_append_pending (receiver.wanted world.state) world.pending
    world.buffer (receiver.offset world.state) 0).2
  rw [Nat.zero_add] at count
  change (receive _ _ _ _).dataRead = (world.bytes receiver).length at count
  unfold World.enter
  rw [if_pos body]
  dsimp only
  rw [count]
  by_cases nothing : world.bytes receiver = []
  · rw [if_pos nothing, if_pos (length_eq_zero_iff.mpr nothing)]
    rfl
  · rw [if_neg nothing, if_neg (fun empty => nothing (length_eq_zero_iff.mp empty))]
    rfl

theorem enter_byte (byte : receiver.body label = false) :
    world.enter receiver label =
      match receiveByte world.pending with
      | (none, pending) => { world with pending := pending, control := none }
      | (some byte, pending) =>
        { world with
          state := (receiver.onByte label world.state world.buffer byte).1
          pending := pending
          messages := world.messages ++
            (receiver.onByte label world.state world.buffer byte).2.2.toList
          control := (receiver.onByte label world.state world.buffer byte).2.1 } := by
  unfold World.enter
  rw [byte, if_neg Bool.false_ne_true]

theorem Live.label_eq (live : Live receiver Inv world) (control : world.control = some label)
    (byte : receiver.body label = false) : label = receiver.label world.state := by
  rcases live.control label control with same | ⟨body, _⟩
  · exact same
  · rw [byte] at body
    cases body

theorem bytes_of_enough (enough : receiver.wanted world.state = 0) : world.bytes receiver = [] := by
  unfold World.bytes
  rw [enough]
  exact Descriptor.collected_zero _

theorem enter_takes (lawful : receiver.Lawful Inv size) (live : Live receiver Inv world)
    (control : world.control = some label) :
    ∃ bytes, Takes receiver Inv world (world.enter receiver label) label bytes := by
  cases body : receiver.body label with
  | true =>
    have ⟨found, emptied⟩ := @got_found _ _ _ receiver world live.found
    rw [enter_body body]
    refine ⟨world.bytes receiver, ?_⟩
    by_cases nothing : world.bytes receiver = []
    · rw [if_pos nothing]
      refine ⟨⟨live.inv, found, nofun⟩, bytes_append_got.symm, ?_, fun _ => rfl⟩
      intro same data
      subst same
      have more := (lawful.room world.state live.inv body).1
      have split := @bytes_append_got _ _ _ receiver world
      rw [nothing, emptied (by rw [nothing]; exact more)] at split
      exact absurd (congrArg List.length split.symm) data
    · rw [if_neg nothing]
      rcases live.control label control with same | ⟨_, enough⟩
      · subst same
        have ⟨inv, _, next⟩ := lawful.rest world.state _ live.inv body
          (length_pos_iff.mpr nothing) (Descriptor.length_collected _ _)
        exact ⟨⟨inv, found, fun label member => Or.inl (next label member)⟩,
          bytes_append_got.symm, fun _ _ => nothing, fun none => absurd none nothing⟩
      · exact absurd (bytes_of_enough enough) nothing
  | false =>
    have same := live.label_eq control body
    subst same
    rw [enter_byte body]
    rcases receiveByte_spec live.found with ⟨nothing, empty⟩ | ⟨byte, left, got, split, found⟩
    · rw [nothing]
      refine ⟨[], ⟨live.inv, live.found, nofun⟩, rfl, ?_, fun _ => rfl⟩
      intro _ data
      exact absurd ((remaining_eq_zero live.found).mpr empty) data
    · rw [got]
      have ⟨inv, _, next⟩ := lawful.byte world.state world.buffer byte live.inv body
      exact ⟨[byte], ⟨inv, found, next⟩, split, fun _ _ => cons_ne_nil _ _, nofun⟩

/-- Between the calls, with nothing left to be read. -/
def World.AtEnd (world : World State Label Message) : Prop :=
  world.control = none ∧ world.remaining = 0

theorem step_arrives {found : List UInt8} (some : found ≠ []) :
    step receiver world (.arrives found) = { world with pending := world.pending ++ [found] } :=
  if_neg some

theorem step_enter (control : world.control = some label) :
    step receiver world .goes = world.enter receiver label := by
  simp only [step, control]

theorem step_call (control : world.control = none) (data : world.remaining ≠ 0) :
    step receiver world .goes =
      { world with control := some (receiver.label world.state) } := by
  simp only [step, control, if_neg data]

theorem step_rest (control : world.control = none) (done : world.remaining = 0) :
    step receiver world .goes = world := by
  simp only [step, control, if_pos done]

theorem Live.arrives (live : Live receiver Inv world) {found : List UInt8} (some : found ≠ []) :
    Live receiver Inv { world with pending := world.pending ++ [found] } := by
  refine ⟨live.inv, ?_, live.control⟩
  intro other member
  rcases mem_append.mp member with old | new
  · exact live.found other old
  · rw [mem_singleton.mp new]
    exact some

theorem Live.call (live : Live receiver Inv world) :
    Live receiver Inv { world with control := some (receiver.label world.state) } := by
  refine ⟨live.inv, live.found, ?_⟩
  intro label member
  exact Or.inl (Option.some_inj.mp member).symm

theorem step_live (lawful : receiver.Lawful Inv size) (live : Live receiver Inv world)
    (event : Event) : Live receiver Inv (step receiver world event) := by
  cases event with
  | arrives found =>
    by_cases nothing : found = []
    · rw [show step receiver world (.arrives found) = world from if_pos nothing]
      exact live
    · rw [step_arrives nothing]
      exact live.arrives nothing
  | goes =>
    cases control : world.control with
    | some label =>
      have ⟨_, taken⟩ := enter_takes lawful live control
      rw [step_enter control]
      exact taken.live
    | none =>
      by_cases done : world.remaining = 0
      · rw [step_rest control done]
        exact live
      · rw [step_call control done]
        exact live.call

theorem run_live (lawful : receiver.Lawful Inv size) (live : Live receiver Inv world)
    (events : List Event) : Live receiver Inv (run (step receiver) world events) := by
  induction events generalizing world with
  | nil => exact live
  | cons event rest ih => exact ih (step_live lawful live event)

/-- Every call gets something. -/
theorem Live.advances (live : Live receiver Inv world) (lawful : receiver.Lawful Inv size)
    (control : world.control = none) (data : world.remaining ≠ 0) :
    (run (step receiver) world [.goes, .goes]).remaining < world.remaining := by
  have ⟨bytes, taken⟩ := enter_takes lawful live.call rfl
  have some := length_pos_iff.mpr (taken.some rfl data)
  have split := congrArg List.length taken.split
  rw [length_append] at split
  show (step receiver (step receiver world .goes) .goes).remaining < world.remaining
  rw [step_call control data, step_enter rfl]
  show (World.enter receiver _ _).pending.flatten.length < world.pending.flatten.length
  change world.pending.flatten.length = _ at split
  omega

theorem Live.ends (live : Live receiver Inv world) (lawful : receiver.Lawful Inv size) :
    ∃ count, (run (step receiver) world (List.replicate count .goes)).AtEnd := by
  induction left : world.remaining using Nat.strongRecOn generalizing world with
  | ind bound ih =>
    have loop (other : World State Label Message) (live : Live receiver Inv other)
        (control : other.control = none) (less : other.remaining ≤ bound) :
        ∃ count, (run (step receiver) other (List.replicate count .goes)).AtEnd := by
      by_cases data : other.remaining = 0
      · exact ⟨0, control, data⟩
      · have advanced := live.advances lawful control data
        have ⟨count, ends⟩ := ih _ (Nat.lt_of_lt_of_le advanced less)
          (run_live lawful live [.goes, .goes]) rfl
        exact ⟨count + 2, ends⟩
    cases control : world.control with
    | none => exact loop world live control (Nat.le_of_eq left)
    | some label =>
      have ⟨bytes, taken⟩ := enter_takes lawful live control
      have split := congrArg List.length taken.split
      rw [length_append] at split
      change world.remaining = bytes.length + (world.enter receiver label).remaining at split
      have entered := @step_enter _ _ _ receiver _ _ control
      by_cases nothing : bytes = []
      · have ⟨count, ends⟩ := loop _ taken.live (taken.returns nothing) (by omega)
        rw [← entered] at ends
        exact ⟨count + 1, ends⟩
      · have some := length_pos_iff.mpr nothing
        have ⟨count, ends⟩ := ih _ (by omega) taken.live rfl
        rw [← entered] at ends
        exact ⟨count + 1, ends⟩

end Live

section Contiguous
variable {State Label Message : Type} {receiver : Receiver State Label Message}
  {Inv : State → Prop} {size : Nat} {start : Parser State Message}
  {world : World State Label Message} {consumed : List UInt8}

/-- The buffer holds what has been got, and all that was got has been taken for what it is. -/
structure Corresponds (receiver : Receiver State Label Message) (Inv : State → Prop) (size : Nat)
    (start : Parser State Message) (world : World State Label Message) (consumed : List UInt8) :
    Prop extends Live receiver Inv world where
  length : world.buffer.length = size
  inside : ∀ access ∈ world.accesses, access.Inside
  parser : run (Parser.push receiver) start consumed =
    ⟨world.state, world.buffer.take (receiver.offset world.state), world.messages⟩

theorem got_of_enough (enough : receiver.wanted world.state = 0) : world.got receiver = world := by
  unfold World.got receive
  rw [enough, Descriptor.receiveFrom_enough (Nat.le_refl 0)]
  dsimp only
  rw [append_nil]

theorem Corresponds.stored (corresponds : Corresponds receiver Inv size start world consumed)
    (lawful : receiver.Lawful Inv size)
    (body : receiver.body (receiver.label world.state) = true)
    (contiguous : Descriptor.Contiguous (receiver.wanted world.state) world.pending) :
    (world.got receiver).buffer.length = size ∧
      (world.got receiver).buffer.take
          (receiver.offset world.state + (world.bytes receiver).length) =
        world.buffer.take (receiver.offset world.state) ++ world.bytes receiver ∧
      ∀ access ∈ (world.got receiver).accesses, access.Inside := by
  have ⟨_, room⟩ := lawful.room world.state corresponds.inv body
  rw [← corresponds.length] at room
  have stored := Descriptor.stored_of_contiguous world.buffer contiguous room
  refine ⟨stored.length.trans corresponds.length, stored.taken, ?_⟩
  intro access member
  rcases mem_append.mp member with old | new
  · exact corresponds.inside access old
  · exact stored.inside access new

theorem enter_corresponds (lawful : receiver.Lawful Inv size)
    (corresponds : Corresponds receiver Inv size start world consumed) {label : Label}
    (control : world.control = some label)
    (contiguous : receiver.body label = true →
      Descriptor.Contiguous (receiver.wanted world.state) world.pending) :
    ∃ bytes, world.pending.flatten = bytes ++ (world.enter receiver label).pending.flatten ∧
      Corresponds receiver Inv size start (world.enter receiver label) (consumed ++ bytes) := by
  have live := corresponds.toLive
  have ⟨_, taken⟩ := enter_takes lawful live control
  have next := taken.live
  cases body : receiver.body label with
  | true =>
    rw [enter_body body] at next ⊢
    refine ⟨world.bytes receiver, ?_⟩
    rcases live.control label control with same | ⟨_, enough⟩
    · subst same
      have ⟨length, filled, inside⟩ := corresponds.stored lawful body (contiguous body)
      by_cases nothing : world.bytes receiver = []
      · rw [if_pos nothing] at next ⊢
        rw [nothing, append_nil, length_nil, Nat.add_zero] at filled
        refine ⟨bytes_append_got.symm, next, length, inside, ?_⟩
        rw [nothing, append_nil, corresponds.parser, ← filled]
        rfl
      · rw [if_neg nothing] at next ⊢
        refine ⟨bytes_append_got.symm, next, length, inside, ?_⟩
        have room := Descriptor.length_collected (receiver.wanted world.state) world.pending
        have ⟨_, offset, _⟩ := lawful.rest world.state (world.bytes receiver).length live.inv body
          (length_pos_iff.mpr nothing) room
        rw [run_append, corresponds.parser,
          run_push_body lawful live.inv body _ _ nothing room, ← filled, ← offset]
        rfl
    · have nothing := bytes_of_enough enough
      have split := @bytes_append_got _ _ _ receiver world
      rw [if_pos nothing, got_of_enough enough] at next ⊢
      rw [got_of_enough enough] at split
      refine ⟨split.symm, next, corresponds.length, corresponds.inside, ?_⟩
      rw [nothing, append_nil]
      exact corresponds.parser
  | false =>
    have same := live.label_eq control body
    subst same
    rw [enter_byte body] at next ⊢
    rcases receiveByte_spec live.found with ⟨nothing, empty⟩ | ⟨byte, left, got, split, found⟩
    · rw [nothing] at next ⊢
      refine ⟨[], rfl, next, corresponds.length, corresponds.inside, ?_⟩
      rw [append_nil]
      exact corresponds.parser
    · rw [got] at next ⊢
      refine ⟨[byte], split, next, corresponds.length, corresponds.inside, ?_⟩
      have ⟨_, offset, _⟩ := lawful.byte world.state world.buffer byte live.inv body
      rw [run_append, corresponds.parser]
      show Parser.push receiver _ byte = _
      rw [push_byte body, lawful.looks world.state world.buffer byte live.inv body,
        take_take, Nat.min_eq_left offset]

theorem step_corresponds (lawful : receiver.Lawful Inv size)
    (corresponds : Corresponds receiver Inv size start world consumed) {event : Event}
    (contiguous : Contiguous receiver world event) :
    ∃ bytes, world.pending.flatten ++ arrived [event] =
        bytes ++ (step receiver world event).pending.flatten ∧
      Corresponds receiver Inv size start (step receiver world event) (consumed ++ bytes) := by
  cases event with
  | arrives found =>
    refine ⟨[], ?_⟩
    rw [append_nil]
    by_cases nothing : found = []
    · rw [show step receiver world (.arrives found) = world from if_pos nothing, nothing]
      exact ⟨append_nil _, corresponds⟩
    · rw [step_arrives nothing]
      refine ⟨?_, corresponds.toLive.arrives nothing, corresponds.length, corresponds.inside,
        corresponds.parser⟩
      simp [arrived]
  | goes =>
    rw [show arrived [.goes] = [] from rfl, append_nil]
    cases control : world.control with
    | some label =>
      rw [step_enter control]
      exact enter_corresponds lawful corresponds control (contiguous label control)
    | none =>
      refine ⟨[], ?_⟩
      rw [append_nil]
      by_cases done : world.remaining = 0
      · rw [step_rest control done]
        exact ⟨rfl, corresponds⟩
      · rw [step_call control done]
        exact ⟨rfl, corresponds.toLive.call, corresponds.length, corresponds.inside,
          corresponds.parser⟩

theorem arrived_cons (event : Event) (rest : List Event) :
    arrived (event :: rest) = arrived [event] ++ arrived rest := by
  cases event with
  | arrives found => simp [arrived]
  | goes => rfl

/-- What has arrived has been got or is still to be read. -/
theorem run_corresponds (lawful : receiver.Lawful Inv size)
    (corresponds : Corresponds receiver Inv size start world consumed) {events : List Event}
    (permitted : Permitted (step receiver) (Contiguous receiver) world events) :
    ∃ bytes, world.pending.flatten ++ arrived events =
        bytes ++ (run (step receiver) world events).pending.flatten ∧
      Corresponds receiver Inv size start (run (step receiver) world events)
        (consumed ++ bytes) := by
  induction events generalizing world consumed with
  | nil => exact ⟨[], append_nil _, by rwa [append_nil]⟩
  | cons event rest ih =>
    have ⟨first, split, next⟩ := step_corresponds lawful corresponds permitted.1
    have ⟨bytes, split', done⟩ := ih next permitted.2
    refine ⟨first ++ bytes, ?_, ?_⟩
    · rw [arrived_cons, ← append_assoc, split, append_assoc, split', append_assoc]
      rfl
    · rw [← append_assoc]
      exact done

end Contiguous

end OpenLighting.SwitchReceiver
