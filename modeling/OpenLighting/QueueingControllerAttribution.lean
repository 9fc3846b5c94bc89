import OpenLighting.QueueingControllerExclusion

namespace OpenLighting.QueueingController

open OpenLighting.Rdm TransitionSystem List

/-- The request that an event is about. -/
def Event.ticket? : Event → Option Nat
  | .dispatched ticket => some ticket
  | .answered ticket _ => some ticket
  | .ran ticket _ => some ticket
  | _ => none

variable (ticket : Nat) (log : List Event)

/-- Everything that happened to a request. -/
def account : List Event :=
  log.filter (fun event => event.ticket? = some ticket)

/-- What a request has come to. -/
inductive Progress where
  | waiting (held : Option Command) (packets : List (List UInt8))
  | finished (outcome : Reply)
  | excess
  deriving DecidableEq

/-- The replies to a request put together, as `HandleRDMResponse` does it. -/
def progressFrom (held : Option Command) (packets : List (List UInt8)) : List Reply → Progress
  | [] => .waiting held packets
  | reply :: rest =>
    let (status, response, overflow) := World.receive held reply
    if overflow then progressFrom response (packets ++ reply.packets) rest
    else if rest.isEmpty then .finished ⟨status, response, packets ++ reply.packets⟩
    else .excess

variable (replies : List Reply)

def progress : Progress := progressFrom none [] replies

/-- A request that was dispatched and answered, round after round. -/
def transcript : List Event :=
  replies.flatMap (fun reply => [.dispatched ticket, .answered ticket reply])

variable (request : OutstandingRequest)

/-- The request has been dispatched once for each round, and its callback has been
run once, with the outcome of its own replies. -/
def Complete : Prop :=
  ∃ replies outcome, progress replies = .finished outcome ∧
    account request.ticket log = transcript request.ticket replies ++
      (if request.onComplete then [.ran request.ticket outcome] else [])

/-- The request has been dispatched and the replies so far ask for more. -/
def Underway : Prop :=
  ∃ replies held packets, progress replies = .waiting held packets ∧
    account request.ticket log = transcript request.ticket replies ++ [.dispatched request.ticket]

/-- First in, first out: requests are numbered in the order they are accepted, and
nothing happens to a request before the ones accepted earlier are complete. -/
def InOrder (past : List Event) (event : Event) : Prop :=
  match event with
  | .accepted request => ∀ other, Event.accepted other ∈ past → other.ticket < request.ticket
  | .dispatched ticket | .answered ticket _ | .ran ticket _ =>
    (∃ request, Event.accepted request ∈ past ∧ request.ticket = ticket) ∧
      ∀ other, Event.accepted other ∈ past → other.ticket < ticket → Complete past other
  | _ => True

/-- A request is accepted only while no callback is running and no request that was
sent again after an ACK_OVERFLOW is on its way; the controller is not paused and no
discovery is asked for. -/
def Sequential (world : World) : Input → Prop
  | .sendRDMRequest _ _ =>
    world.maxQueueSize ≤ world.pendingRequests.length ∨
      (world.frames.isEmpty = true ∧ world.continuing = false)
  | .answer _ _ | .callbackReturns => True
  | _ => False

instance (world : World) (input : Input) : Decidable (Sequential world input) :=
  match input with
  | .sendRDMRequest _ _ =>
    @instDecidableOr _ _ (Nat.decLe _ _)
      (@instDecidableAnd _ _ (instDecidableEqBool _ _) (instDecidableEqBool _ _))
  | .answer _ _ | .callbackReturns => instDecidableTrue
  | .pause | .resume | .runFullDiscovery _ | .runIncrementalDiscovery _ | .discovered _ _ =>
    instDecidableFalse

section Accounts

theorem account_append (event : Event) : account ticket (log ++ [event]) =
      account ticket log ++ (if event.ticket? = some ticket then [event] else []) := by
  unfold account
  by_cases about : event.ticket? = some ticket <;> simp [about]

variable {event : Event} {held : Option Command} {packets : List (List UInt8)}
  {replies : List Reply}

theorem account_other {ticket : Nat} (log : List Event) (other : event.ticket? ≠ some ticket) :
    account ticket (log ++ [event]) = account ticket log := by
  rw [account_append, if_neg other, append_nil]

theorem account_accepted : account ticket (log ++ [.accepted request]) = account ticket log := by
  simp [account_append, Event.ticket?]

theorem account_dropped : account ticket (log ++ [.dropped]) = account ticket log := by
  simp [account_append, Event.ticket?]

theorem account_same {ticket : Nat} (log : List Event) (about : event.ticket? = some ticket) :
    account ticket (log ++ [event]) = account ticket log ++ [event] := by
  rw [account_append, if_pos about]

theorem Complete.append {log : List Event} {request : OutstandingRequest}
    (complete : Complete log request) (other : event.ticket? ≠ some request.ticket) :
    Complete (log ++ [event]) request := by
  unfold Complete
  rw [account_other log other]
  exact complete

/-- The replies to a request that is waiting for more. -/
theorem progressFrom_append {before : Option Command} {earlier : List (List UInt8)}
    (waits : progressFrom before earlier replies = .waiting held packets) (reply : Reply) :
    progressFrom before earlier (replies ++ [reply]) = progressFrom held packets [reply] := by
  induction replies generalizing before earlier with
  | nil =>
    cases waits
    rfl
  | cons first rest ih =>
    unfold progressFrom at waits
    rw [cons_append, progressFrom]
    dsimp only at waits ⊢
    split at waits
    · rename_i overflow
      rw [if_pos overflow]
      exact ih waits
    · split at waits <;> cases waits

/-- A part of a response that overflows leaves the request waiting. -/
theorem progress_overflow {reply : Reply} (waits : progress replies = .waiting held packets)
    (overflow : (World.receive held reply).2.2 = true) :
    progress (replies ++ [reply]) =
      .waiting (World.receive held reply).2.1 (packets ++ reply.packets) := by
  have next := progressFrom_append waits reply
  change progress (replies ++ [reply]) = _ at next
  rw [next, progressFrom]
  exact if_pos overflow

theorem progress_final {reply : Reply} (waits : progress replies = .waiting held packets)
    (final : ¬ (World.receive held reply).2.2 = true) :
    progress (replies ++ [reply]) = .finished
      ⟨(World.receive held reply).1, (World.receive held reply).2.1, packets ++ reply.packets⟩ := by
  have next := progressFrom_append waits reply
  change progress (replies ++ [reply]) = _ at next
  rw [next, progressFrom]
  exact if_neg final

theorem transcript_append (reply : Reply) : transcript ticket (replies ++ [reply]) =
      transcript ticket replies ++ [.dispatched ticket] ++ [.answered ticket reply] := by
  simp [transcript]

end Accounts

/-- The books about the requests. `fresh` are those that nothing has happened to. -/
structure Books (log : List Event) (queue : List OutstandingRequest) (tickets : Nat)
    (fresh : List OutstandingRequest) : Prop where
  ordered : Justified InOrder log
  known : ∀ request, Event.accepted request ∈ log → request.ticket < tickets
  unique : ∀ request other, Event.accepted request ∈ log → Event.accepted other ∈ log →
    request.ticket = other.ticket → request = other
  done : ∀ request, Event.accepted request ∈ log → request ∈ queue ∨ Complete log request
  queued : ∀ request ∈ queue, Event.accepted request ∈ log
  sorted : queue.Pairwise (fun first second => first.ticket < second.ticket)
  untouched : ∀ request ∈ fresh, account request.ticket log = []
  unused : ∀ ticket, tickets ≤ ticket → account ticket log = []

section Books
variable {log : List Event} {queue rest fresh : List OutstandingRequest} {tickets : Nat}
  {front : OutstandingRequest}

/-- The request in front is the next one to be served. -/
theorem Books.turn (books : Books log (front :: rest) tickets fresh) :
    (∃ request, Event.accepted request ∈ log ∧ request.ticket = front.ticket) ∧
      ∀ other, Event.accepted other ∈ log → other.ticket < front.ticket → Complete log other := by
  refine ⟨⟨front, books.queued front mem_cons_self, rfl⟩, ?_⟩
  intro other accepted earlier
  rcases books.done other accepted with member | complete
  · rcases mem_cons.mp member with rfl | behind
    · omega
    · have later := (pairwise_cons.mp books.sorted).1 other behind
      omega
  · exact complete

/-- Something happens to the request in front. -/
theorem Books.note (books : Books log (front :: rest) tickets rest) {event : Event}
    (about : event.ticket? = some front.ticket) (backed : InOrder log event) :
    Books (log ++ [event]) (front :: rest) tickets rest := by
  have same (request : OutstandingRequest) :
      Event.accepted request ∈ log ++ [event] ↔ Event.accepted request ∈ log := by
    rw [mem_append, mem_singleton]
    constructor
    · rintro (before | rfl)
      · exact before
      · cases about
    · exact .inl
  have elsewhere {ticket : Nat} (other : ticket ≠ front.ticket) :
      event.ticket? ≠ some ticket := by
    rw [about]
    simpa using Ne.symm other
  constructor
  · exact books.ordered.append backed
  · intro request accepted
    exact books.known request ((same request).mp accepted)
  · intro request other accepted accepted'
    exact books.unique request other ((same request).mp accepted) ((same other).mp accepted')
  · intro request accepted
    have before := (same request).mp accepted
    by_cases equal : request.ticket = front.ticket
    · have front' := books.queued front mem_cons_self
      rw [books.unique request front before front' equal]
      exact .inl mem_cons_self
    · rcases books.done request before with member | complete
      · exact .inl member
      · exact .inr (complete.append (elsewhere equal))
  · intro request member
    exact (same request).mpr (books.queued request member)
  · exact books.sorted
  · intro request member
    have later := (pairwise_cons.mp books.sorted).1 request member
    rw [account_other log (elsewhere (by omega))]
    exact books.untouched request member
  · intro ticket unused
    have bound := books.known front (books.queued front mem_cons_self)
    rw [account_other log (elsewhere (by omega))]
    exact books.unused ticket unused

theorem Books.accept (books : Books log queue tickets fresh) (request : Command)
    (onComplete : Bool) :
    Books (log ++ [.accepted ⟨tickets, request, onComplete⟩])
      (queue ++ [⟨tickets, request, onComplete⟩]) (tickets + 1)
      (fresh ++ [⟨tickets, request, onComplete⟩]) := by
  have split (other : OutstandingRequest) :
      Event.accepted other ∈ log ++ [.accepted ⟨tickets, request, onComplete⟩] ↔
        Event.accepted other ∈ log ∨ other = ⟨tickets, request, onComplete⟩ := by
    simp
  have same (ticket : Nat) : account ticket (log ++ [.accepted ⟨tickets, request, onComplete⟩]) =
      account ticket log := account_accepted ticket log _
  constructor
  · apply books.ordered.append
    intro other accepted
    exact books.known other accepted
  · intro other accepted
    rcases (split other).mp accepted with before | rfl
    · exact Nat.lt_succ_of_lt (books.known other before)
    · exact Nat.lt_succ_self _
  · intro first second accepted accepted' equal
    rcases (split first).mp accepted with before | rfl
    · rcases (split second).mp accepted' with before' | rfl
      · exact books.unique first second before before' equal
      · exact absurd equal (Nat.ne_of_lt (books.known first before))
    · rcases (split second).mp accepted' with before' | rfl
      · exact absurd equal.symm (Nat.ne_of_lt (books.known second before'))
      · rfl
  · intro other accepted
    rcases (split other).mp accepted with before | rfl
    · rcases books.done other before with member | complete
      · exact .inl (mem_append_left _ member)
      · exact .inr (complete.append nofun)
    · exact .inl (by simp)
  · intro other member
    rcases mem_append.mp member with before | last
    · exact (split other).mpr (.inl (books.queued other before))
    · exact (split other).mpr (.inr (mem_singleton.mp last))
  · rw [pairwise_append]
    refine ⟨books.sorted, pairwise_singleton _ _, ?_⟩
    intro first member second last
    rw [mem_singleton.mp last]
    exact books.known first (books.queued first member)
  · intro other member
    rw [same]
    rcases mem_append.mp member with before | last
    · exact books.untouched other before
    · rw [mem_singleton.mp last]
      exact books.unused tickets (Nat.le_refl _)
  · intro ticket unused
    rw [same]
    exact books.unused ticket (by omega)

theorem Books.drop (books : Books log queue tickets fresh) :
    Books (log ++ [.dropped]) queue tickets fresh := by
  have same (ticket : Nat) := account_dropped ticket log
  constructor
  · exact books.ordered.append trivial
  · simpa using books.known
  · simpa using books.unique
  · intro request accepted
    rcases books.done request (by simpa using accepted) with member | complete
    · exact .inl member
    · exact .inr (complete.append nofun)
  · simpa using books.queued
  · exact books.sorted
  · intro request member
    rw [same]
    exact books.untouched request member
  · intro ticket unused
    rw [same]
    exact books.unused ticket unused

theorem Books.restrict (books : Books log queue tickets fresh) {fewer : List OutstandingRequest}
    (subset : fewer ⊆ fresh) : Books log queue tickets fewer where
  ordered := books.ordered
  known := books.known
  unique := books.unique
  done := books.done
  queued := books.queued
  sorted := books.sorted
  untouched := fun request member => books.untouched request (subset member)
  unused := books.unused

/-- The request in front is complete and leaves the queue. -/
theorem Books.pop (books : Books log (front :: rest) tickets rest)
    (complete : Complete log front) : Books log rest tickets rest := by
  constructor
  · exact books.ordered
  · exact books.known
  · exact books.unique
  · intro request accepted
    rcases books.done request accepted with member | before
    · rcases mem_cons.mp member with rfl | behind
      · exact .inr complete
      · exact .inl behind
    · exact .inr before
  · intro request member
    exact books.queued request (mem_cons_of_mem _ member)
  · exact (pairwise_cons.mp books.sorted).2
  · exact books.untouched
  · exact books.unused

end Books

namespace World

/-- Neither paused nor occupied with discovery. -/
structure Plain (world : World) : Prop where
  sound : world.fault = false
  active : world.active = true
  vacant : world.discoveryCallbacks = []
  quiet : world.pendingDiscoveryCallbacks = []

/-- Where the request in front of the queue stands. -/
inductive Serial (world : World) : Prop where
  | idle (plain : Plain world) (queue : world.pendingRequests = [])
      (outstanding : world.outstanding = []) (frames : world.frames = [])
      (unflagged : world.rdmRequestPending = false) (held : world.response = none)
      (packets : world.packets = []) (books : Books world.log [] world.tickets [])
  | waiting (front : OutstandingRequest) (rest : List OutstandingRequest) (continuation : Bool)
      (replies : List Reply) (plain : Plain world) (queue : world.pendingRequests = front :: rest)
      (outstanding : world.outstanding = [.request front.ticket continuation])
      (frames : world.frames = []) (flag : world.rdmRequestPending = !continuation)
      (waits : progress replies = .waiting world.response world.packets)
      (spent : account front.ticket world.log =
        transcript front.ticket replies ++ [.dispatched front.ticket])
      (books : Books world.log (front :: rest) world.tickets rest)
  | running (front : OutstandingRequest) (rest : List OutstandingRequest) (plain : Plain world)
      (queue : world.pendingRequests = front :: rest) (outstanding : world.outstanding = [])
      (frames : world.frames = [.handleRDMResponse front])
      (unflagged : world.rdmRequestPending = false) (complete : Complete world.log front)
      (books : Books world.log (front :: rest) world.tickets rest)

section Serial
variable {world : World}

theorem unblocked_of_plain (plain : Plain world) (unflagged : world.rdmRequestPending = false) :
    world.checkForBlockingCondition = false := by
  unfold Controller.checkForBlockingCondition
  rw [plain.active, unflagged, plain.vacant]
  cases world.kind <;> rfl

theorem takeNextAction_flagged (flag : world.rdmRequestPending = true) :
    world.takeNextAction = world := by
  have blocked : world.checkForBlockingCondition = true := by
    unfold Controller.checkForBlockingCondition
    rw [flag]
    cases world.kind <;> simp
  rw [takeNextAction, if_pos blocked]

theorem takeNextAction_serial (plain : Plain world) (outstanding : world.outstanding = [])
    (frames : world.frames = []) (unflagged : world.rdmRequestPending = false)
    (held : world.response = none) (packets : world.packets = [])
    (books : Books world.log world.pendingRequests world.tickets world.pendingRequests) :
    Serial world.takeNextAction := by
  have unblocked := unblocked_of_plain plain unflagged
  rcases world.takeNextAction_cases with ⟨same, blocked | ⟨none, -⟩⟩ |
    ⟨front, rest, -, queue, -, sends⟩ | ⟨-, -, wanted, -⟩
  · rw [unblocked] at blocked
    cases blocked
  · rw [same]
    rw [none] at books
    exact .idle plain none outstanding frames unflagged held packets books
  · rw [queue] at books
    rw [sends]
    have noted : Books (world.log ++ [.dispatched front.ticket]) (front :: rest) world.tickets
        rest := by
      have behind := books.restrict (subset_cons_self front rest)
      exact behind.note rfl books.turn
    refine .waiting front rest false [] { plain with }
      queue ?_ frames rfl ?_ ?_ noted
    · simp [sent, outstanding]
    · show Progress.waiting none [] = .waiting world.response world.packets
      rw [held, packets]
    · show account front.ticket (world.log ++ [.dispatched front.ticket]) = _
      rw [account_same _ rfl, books.untouched front mem_cons_self]
      rfl
  · exact absurd plain.quiet wanted

theorem dropped_serial (serial : Serial world) :
    Serial { world with log := world.log ++ [.dropped] } := by
  cases serial with
  | idle plain queue outstanding frames unflagged held packets books =>
    exact .idle { plain with } queue outstanding frames
      unflagged held packets books.drop
  | waiting front rest continuation replies plain queue outstanding frames flag waits spent
      books =>
      refine .waiting front rest continuation replies
        { plain with } queue outstanding frames flag waits
        ?_ books.drop
      rw [← spent]
      exact account_dropped front.ticket world.log
  | running front rest plain queue outstanding frames unflagged complete books =>
    exact .running front rest { plain with } queue
      outstanding frames unflagged (complete.append nofun) books.drop

theorem sendRDMRequest_serial (serial : Serial world) {request : Command} {onComplete : Bool}
    (permitted : Sequential world (.sendRDMRequest request onComplete)) :
    Serial (world.sendRDMRequest request onComplete) := by
  unfold sendRDMRequest
  split
  · exact dropped_serial serial
  · rename_i room
    obtain ⟨outside, ended⟩ := permitted.resolve_left room
    cases serial with
    | idle plain queue outstanding frames unflagged held packets books =>
      refine takeNextAction_serial { plain with }
        outstanding frames unflagged held packets ?_
      rw [queue]
      exact books.accept request onComplete
    | waiting front rest continuation replies plain queue outstanding frames flag waits spent
        books =>
        have first : continuation = false := by
          rw [continuing, outstanding] at ended
          simpa [Operation.isContinuation] using ended
        subst first
        rw [takeNextAction_flagged]
        swap
        · exact flag
        refine .waiting front (rest ++ [⟨world.tickets, request, onComplete⟩]) false replies
          { plain with } ?_ outstanding frames flag waits
          ?_ ?_
        · rw [queue]
          rfl
        · rw [← spent]
          exact account_accepted front.ticket world.log _
        · exact books.accept request onComplete
    | running front rest plain queue outstanding frames =>
      rw [frames] at outside
      cases outside

theorem finishRequest_serial {front : OutstandingRequest} {rest : List OutstandingRequest}
    (plain : Plain world) (queue : world.pendingRequests = front :: rest)
    (outstanding : world.outstanding = []) (frames : world.frames = [])
    (unflagged : world.rdmRequestPending = false) (complete : Complete world.log front)
    (books : Books world.log (front :: rest) world.tickets rest) :
    Serial (world.finishRequest front) := by
  unfold finishRequest
  simp only [queue, ↓reduceIte]
  exact takeNextAction_serial { plain with } outstanding
    frames unflagged rfl rfl (books.pop complete)

/-- The only request on its way is answered. -/
theorem handleRDMResponse_serial {front : OutstandingRequest} {rest : List OutstandingRequest}
    {replies : List Reply} {reply : Reply} (plain : Plain world)
    (queue : world.pendingRequests = front :: rest) (outstanding : world.outstanding = [])
    (frames : world.frames = [])
    (waits : progress replies = .waiting world.response world.packets)
    (spent : account front.ticket world.log = transcript front.ticket (replies ++ [reply]))
    (books : Books world.log (front :: rest) world.tickets rest) :
    Serial (world.handleRDMResponse reply) := by
  unfold handleRDMResponse
  simp only [queue]
  split
  · rename_i overflow
    have again := progress_overflow waits overflow
    unfold dispatchNextRequest
    refine .waiting front rest true (replies ++ [reply])
      { plain with } rfl ?_ frames rfl again ?_
      (books.note rfl books.turn)
    · simp [outstanding]
    · rw [← spent]
      exact account_same world.log rfl
  · rename_i final
    have outcome := progress_final waits final
    split
    · rename_i given
      refine .running front rest { plain with } rfl
        outstanding ?_ rfl ⟨replies ++ [reply], _, outcome, ?_⟩ (books.note rfl books.turn)
      · rw [frames]
      · rw [if_pos given, ← spent]
        exact account_same world.log rfl
    · rename_i null
      refine finishRequest_serial { plain with } rfl
        outstanding frames rfl ⟨replies ++ [reply], _, outcome, ?_⟩ books
      rw [if_neg null, append_nil]
      exact spent

theorem answer_serial (serial : Serial world) (index : Nat) (reply : Reply) :
    Serial (world.answer index reply) := by
  cases serial with
  | idle plain queue outstanding frames unflagged held packets books =>
    have none : world.outstanding[index]? = none := by
      rw [outstanding]
      rfl
    rw [answer, none]
    exact .idle plain queue outstanding frames unflagged held packets books
  | running front rest plain queue outstanding frames unflagged complete books =>
    have none : world.outstanding[index]? = none := by
      rw [outstanding]
      rfl
    rw [answer, none]
    exact .running front rest plain queue outstanding frames unflagged complete books
  | waiting front rest continuation replies plain queue outstanding frames flag waits spent
      books =>
      cases index with
      | zero =>
        have found : world.outstanding[0]? = some (.request front.ticket continuation) := by
          rw [outstanding]
          rfl
        rw [answer, found]
        refine handleRDMResponse_serial
          { plain with } queue ?_ frames waits ?_
          (books.note rfl books.turn)
        · rw [outstanding]
          rfl
        · rw [transcript_append, ← spent]
          exact account_same world.log rfl
      | succ index =>
        have none : world.outstanding[index + 1]? = none := by
          rw [outstanding]
          rfl
        rw [answer, none]
        exact .waiting front rest continuation replies plain queue outstanding frames flag waits
          spent books

theorem callbackReturns_serial (serial : Serial world) : Serial world.callbackReturns := by
  cases serial with
  | idle plain queue outstanding frames unflagged held packets books =>
    rw [callbackReturns, frames]
    exact .idle plain queue outstanding frames unflagged held packets books
  | waiting front rest continuation replies plain queue outstanding frames flag waits spent
      books =>
      rw [callbackReturns, frames]
      exact .waiting front rest continuation replies plain queue outstanding frames flag waits
        spent books
  | running front rest plain queue outstanding frames unflagged complete books =>
    rw [callbackReturns, frames]
    exact finishRequest_serial { plain with } queue
      outstanding rfl unflagged complete books

theorem Serial.sound (serial : Serial world) : world.fault = false := by
  cases serial with
  | idle plain | waiting _ _ _ _ plain | running _ _ plain => exact plain.sound

/-- Every request is untouched, underway or complete. -/
theorem Serial.attributed (serial : Serial world) (request : OutstandingRequest)
    (accepted : Event.accepted request ∈ world.log) :
    account request.ticket world.log = [] ∨ Underway world.log request ∨
      Complete world.log request := by
  cases serial with
  | idle plain queue outstanding frames unflagged held packets books =>
    exact .inr (.inr ((books.done request accepted).resolve_left not_mem_nil))
  | waiting front rest continuation replies plain queue outstanding frames flag waits spent
      books =>
      rcases books.done request accepted with member | complete
      · rcases mem_cons.mp member with rfl | behind
        · exact .inr (.inl ⟨replies, _, _, waits, spent⟩)
        · exact .inl (books.untouched request behind)
      · exact .inr (.inr complete)
  | running front rest plain queue outstanding frames unflagged complete books =>
    rcases books.done request accepted with member | earlier
    · rcases mem_cons.mp member with rfl | behind
      · exact .inr (.inr complete)
      · exact .inl (books.untouched request behind)
    · exact .inr (.inr earlier)

/-- With nothing outstanding and no callback running, all are complete. -/
theorem Serial.complete (serial : Serial world) (nothing : world.outstanding = [])
    (returned : world.frames = []) (request : OutstandingRequest)
    (accepted : Event.accepted request ∈ world.log) : Complete world.log request := by
  cases serial with
  | idle plain queue outstanding frames unflagged held packets books =>
    exact (books.done request accepted).resolve_left not_mem_nil
  | waiting _ _ _ _ _ _ outstanding =>
    rw [outstanding] at nothing
    cases nothing
  | running _ _ _ _ _ frames =>
    rw [frames] at returned
    cases returned

theorem Serial.ordered (serial : Serial world) : Justified InOrder world.log := by
  cases serial with
  | idle _ _ _ _ _ _ _ books | waiting _ _ _ _ _ _ _ _ _ _ _ books
  | running _ _ _ _ _ _ _ _ books => exact books.ordered

/-- Every permitted step serves the requests in turn. -/
theorem step_serial (serial : Serial world) {input : Input}
    (permitted : Sequential world input) : Serial (world.step input) := by
  unfold step
  rw [if_neg (by simp [serial.sound])]
  cases input with
  | sendRDMRequest request onComplete => exact sendRDMRequest_serial serial permitted
  | answer index reply => exact answer_serial serial index reply
  | callbackReturns => exact callbackReturns_serial serial
  | pause | resume | runFullDiscovery | runIncrementalDiscovery | discovered => exact permitted.elim

theorem initial_serial (kind : Kind) (maxQueueSize : Nat) :
    Serial (World.initial kind maxQueueSize) := by
  refine .idle ⟨rfl, rfl, rfl, rfl⟩ rfl rfl rfl rfl rfl rfl ?_
  constructor
  · exact justified_nil _
  · intro request accepted
    cases accepted
  · intro request other accepted
    cases accepted
  · intro request accepted
    cases accepted
  · intro request member
    cases member
  · exact .nil
  · intro request member
    cases member
  · intro ticket _
    rfl

end Serial

end World

open World

/-- Where requests are submitted one after the other, each that is accepted is
dispatched in turn, once for each round, and its callback is run once, with the
outcome of its own replies. -/
theorem requests_attributed (kind : Kind) (maxQueueSize : Nat) (inputs : List Input)
    (permitted : Permitted step Sequential (World.initial kind maxQueueSize) inputs) :
    let world := run step (World.initial kind maxQueueSize) inputs
    world.fault = false ∧ Justified InOrder world.log ∧
      (∀ request, Event.accepted request ∈ world.log →
        account request.ticket world.log = [] ∨ Underway world.log request ∨
          Complete world.log request) ∧
      (world.outstanding = [] → world.frames = [] →
        ∀ request, Event.accepted request ∈ world.log → Complete world.log request) := by
  have serial : Serial (run step (World.initial kind maxQueueSize) inputs) :=
    @run_invariant World Input step Sequential Serial (fun _ _ serial ok => step_serial serial ok)
      _ inputs (initial_serial kind maxQueueSize) permitted
  exact ⟨serial.sound, serial.ordered, serial.attributed, serial.complete⟩

/-- Two requests, the first answered in two parts. -/
theorem requests_attributed_overflow :
    let inputs : List Input := [.sendRDMRequest exampleGet true, .sendRDMRequest exampleGet true,
      .answer 0 (exampleReply 3), .answer 0 (exampleReply 0), .callbackReturns,
      .answer 0 (exampleReply 0), .callbackReturns]
    let world := run step (World.initial .queueing 10) inputs
    Complete world.log ⟨0, exampleGet, true⟩ ∧ Complete world.log ⟨1, exampleGet, true⟩ := by
  have attributed := requests_attributed .queueing 10 [.sendRDMRequest exampleGet true,
    .sendRDMRequest exampleGet true, .answer 0 (exampleReply 3), .answer 0 (exampleReply 0),
    .callbackReturns, .answer 0 (exampleReply 0), .callbackReturns] (by decide)
  exact ⟨attributed.2.2.2 rfl rfl ⟨0, exampleGet, true⟩ (by decide),
    attributed.2.2.2 rfl rfl ⟨1, exampleGet, true⟩ (by decide)⟩

/-- A request is submitted from inside the callback of the one before: that one is
dispatched a second time, and the reply to it goes to the new request. -/
theorem nested_request_misattributed :
    let inputs : List Input := [.sendRDMRequest exampleGet true, .answer 0 (exampleReply 0),
      .sendRDMRequest exampleGet true, .callbackReturns, .answer 0 (exampleReply 1),
      .callbackReturns]
    let world := run step (World.initial .queueing 10) inputs
    world.outstanding = [] ∧ world.frames = [] ∧
      account 0 world.log = [.dispatched 0, .answered 0 (exampleReply 0),
        .ran 0 (exampleReply 0), .dispatched 0, .answered 0 (exampleReply 1)] ∧
      account 1 world.log = [.ran 1 (exampleReply 1)] ∧
      Event.accepted ⟨1, exampleGet, true⟩ ∈ world.log ∧
      ¬ Complete world.log ⟨1, exampleGet, true⟩ := by
  refine ⟨by decide, by decide, by decide, by decide, by decide, ?_⟩
  rintro ⟨replies, outcome, finished, spent⟩
  cases replies with
  | nil => cases finished
  | cons reply rest => cases spent

end OpenLighting.QueueingController
