import OpenLighting.QueueingControllerOverflow

namespace OpenLighting.QueueingController

open OpenLighting.Rdm TransitionSystem List

def Operation.request? : Operation → Option Nat
  | .request ticket _ => some ticket
  | .discovery _ => none

def Frame.request? : Frame → Option OutstandingRequest
  | .handleRDMResponse request => some request
  | .discoveryComplete _ _ _ => none

/-- The dispatches that have not been answered. -/
def World.unanswered (world : World) : List Nat :=
  world.outstanding.filterMap Operation.request?

/-- The requests whose `on_complete` is running. -/
def World.completing (world : World) : List OutstandingRequest :=
  world.frames.filterMap Frame.request?

def World.Busy (world : World) : Prop := world.unanswered ≠ [] ∨ world.completing ≠ []

instance (world : World) : Decidable world.Busy := inferInstanceAs (Decidable (_ ∨ _))

variable (log : List Event)

def dispatches : List Nat :=
  log.filterMap fun
    | .dispatched ticket => some ticket
    | _ => none

/-- The answer to a dispatch, or the return of an `on_complete`. -/
def settles (world : World) : Input → Bool
  | .answer _ _ => true
  | .callbackReturns => (world.frames.head?.bind Frame.request?).isSome
  | _ => false

/-- While a dispatch is unanswered or an `on_complete` is running, only what settles that makes
the controller dispatch. -/
def Undisturbed (world : World) (input : Input) : Prop :=
  world.Busy → settles world input = true ∨
    dispatches (world.step input).log = dispatches world.log

instance (world : World) (input : Input) : Decidable (Undisturbed world input) :=
  inferInstanceAs (Decidable (_ → _ ∨ _))

/-- Nothing that concerns a request. -/
def Event.Aside : Event → Prop
  | .accepted _ | .dispatched _ | .answered _ _ | .ran _ _ => False
  | .dropped | .registered _ _ | .started _ _ _ | .completed _ _ | .served _ _ _ => True

theorem Event.Aside.apart {event : Event} (aside : event.Aside) :
    event.ticket? = none ∧ ∀ request, event ≠ .accepted request := by
  cases event <;> first | exact aside.elim | exact ⟨rfl, nofun⟩

section Aside
variable {log : List Event} {queue fresh : List OutstandingRequest} {tickets : Nat}

theorem dispatches_append (event : Event) :
    dispatches (log ++ [event]) = dispatches log ++ dispatches [event] := filterMap_append

theorem Books.aside (books : Books log queue tickets fresh) {event : Event}
    (aside : event.Aside) : Books (log ++ [event]) queue tickets fresh := by
  have apart := aside.apart
  have same (ticket : Nat) : account ticket (log ++ [event]) = account ticket log := by
    apply account_other
    rw [apart.1]
    nofun
  have before (request : OutstandingRequest) :
      Event.accepted request ∈ log ++ [event] ↔ Event.accepted request ∈ log := by
    rw [mem_append, mem_singleton]
    exact ⟨fun member => member.resolve_right (fun equal => apart.2 request equal.symm), .inl⟩
  constructor
  · apply books.ordered.append
    cases event <;> first | exact aside.elim | trivial
  · intro request accepted
    exact books.known request ((before request).mp accepted)
  · intro request other accepted accepted'
    exact books.unique request other ((before request).mp accepted) ((before other).mp accepted')
  · intro request accepted
    rcases books.done request ((before request).mp accepted) with member | complete
    · exact .inl member
    · refine .inr (complete.append ?_)
      rw [apart.1]
      nofun
  · intro request member
    exact (before request).mpr (books.queued request member)
  · exact books.sorted
  · intro request member
    rw [same]
    exact books.untouched request member
  · intro ticket unused
    rw [same]
    exact books.unused ticket unused

end Aside

namespace World

/-- Where the request in front of the queue stands. -/
inductive Fed (world : World) : Prop where
  | idle (sound : world.fault = false) (answered : world.unanswered = [])
      (returned : world.completing = []) (held : world.response = none)
      (packets : world.packets = [])
      (books : Books world.log world.pendingRequests world.tickets world.pendingRequests)
  | waiting (front : OutstandingRequest) (rest : List OutstandingRequest) (replies : List Reply)
      (sound : world.fault = false) (queue : world.pendingRequests = front :: rest)
      (alone : world.unanswered = [front.ticket]) (returned : world.completing = [])
      (waits : progress replies = .waiting world.response world.packets)
      (spent : account front.ticket world.log =
        transcript front.ticket replies ++ [.dispatched front.ticket])
      (books : Books world.log (front :: rest) world.tickets rest)
  | running (front : OutstandingRequest) (rest : List OutstandingRequest)
      (sound : world.fault = false) (queue : world.pendingRequests = front :: rest)
      (answered : world.unanswered = []) (alone : world.completing = [front])
      (complete : Complete world.log front)
      (books : Books world.log (front :: rest) world.tickets rest)

/-- What a step leaves alone that concerns no request. -/
structure Beside (world other : World) : Prop where
  fault : other.fault = world.fault
  queue : other.pendingRequests = world.pendingRequests
  tickets : other.tickets = world.tickets
  response : other.response = world.response
  packets : other.packets = world.packets
  unanswered : other.unanswered = world.unanswered
  completing : other.completing = world.completing
  log : other.log = world.log ∨ ∃ event : Event, other.log = world.log ++ [event] ∧ event.Aside

section Fed
variable {world other : World}

theorem Fed.beside (fed : Fed world) (beside : Beside world other) : Fed other := by
  obtain ⟨fault, queued, tickets, response, packets, unanswered, completing, log⟩ := beside
  have books {queue fresh : List OutstandingRequest}
      (books : Books world.log queue world.tickets fresh) :
      Books other.log queue other.tickets fresh := by
    rw [tickets]
    rcases log with same | ⟨event, grown, aside⟩
    · rwa [same]
    · rw [grown]
      exact books.aside aside
  have spent (ticket : Nat) : account ticket other.log = account ticket world.log := by
    rcases log with same | ⟨event, grown, aside⟩
    · rw [same]
    · rw [grown]
      apply account_other
      rw [aside.apart.1]
      nofun
  cases fed with
  | idle sound answered returned held none entries =>
    refine .idle (fault.trans sound) (unanswered.trans answered) (completing.trans returned)
      (response.trans held) (packets.trans none) ?_
    rw [queued]
    exact books entries
  | waiting front rest replies sound queue alone returned waits account entries =>
    refine .waiting front rest replies (fault.trans sound) (queued.trans queue)
      (unanswered.trans alone) (completing.trans returned) ?_ ?_ (books entries)
    · rw [response, packets]
      exact waits
    · rw [spent]
      exact account
  | running front rest sound queue answered alone complete entries =>
    refine .running front rest (fault.trans sound) (queued.trans queue)
      (unanswered.trans answered) (completing.trans alone) ?_ (books entries)
    unfold Complete
    rw [spent]
    exact complete

theorem Fed.sound (fed : Fed world) : world.fault = false := by
  cases fed with
  | idle sound | waiting _ _ _ sound | running _ _ sound => exact sound

theorem Fed.books (fed : Fed world) (rested : ¬ world.Busy) :
    Books world.log world.pendingRequests world.tickets world.pendingRequests ∧
      world.response = none ∧ world.packets = [] := by
  cases fed with
  | idle _ _ _ held packets books => exact ⟨books, held, packets⟩
  | waiting _ _ _ _ _ alone => exact absurd (.inl (by rw [alone]; nofun)) rested
  | running _ _ _ _ _ alone => exact absurd (.inr (by rw [alone]; nofun)) rested

/-- The request in front is sent with nothing else going on. -/
theorem Fed.sent (fed : Fed world) (rested : ¬ world.Busy) {front : OutstandingRequest}
    {rest : List OutstandingRequest} (queue : world.pendingRequests = front :: rest) :
    Fed (world.sent front) := by
  obtain ⟨books, held, packets⟩ := fed.books rested
  obtain ⟨answered, returned⟩ := not_or.mp rested
  rw [queue] at books
  have noted : Books (world.log ++ [.dispatched front.ticket]) (front :: rest) world.tickets
      rest := (books.restrict (subset_cons_self front rest)).note rfl books.turn
  refine .waiting front rest [] fed.sound queue ?_ (not_not.mp returned) ?_ ?_ noted
  · show (world.outstanding ++ [_]).filterMap Operation.request? = _
    rw [filterMap_append]
    show world.unanswered ++ [front.ticket] = _
    rw [not_not.mp answered, nil_append]
  · show Progress.waiting none [] = .waiting world.response world.packets
    rw [held, packets]
  · show account front.ticket (world.log ++ [.dispatched front.ticket]) = _
    rw [account_same _ rfl, books.untouched front mem_cons_self]
    rfl

theorem sent_dispatches (world : World) (front : OutstandingRequest) :
    dispatches (world.sent front).log ≠ dispatches world.log := by
  intro same
  have longer := congrArg List.length same
  rw [World.sent, dispatches_append, length_append] at longer
  exact absurd longer (Nat.succ_ne_self _)

theorem maybeSendRDMRequest_fed (fed : Fed world)
    (quiet : world.Busy → dispatches world.maybeSendRDMRequest.log = dispatches world.log) :
    Fed world.maybeSendRDMRequest := by
  rcases world.maybeSendRDMRequest_cases with ⟨-, same⟩ | ⟨front, rest, queue, sends⟩
  · rwa [same]
  · rw [sends] at quiet ⊢
    exact fed.sent (fun busy => sent_dispatches world front (quiet busy)) queue

theorem startRDMDiscovery_beside (world : World) : Beside world world.startRDMDiscovery where
  fault := rfl
  queue := rfl
  tickets := rfl
  response := rfl
  packets := rfl
  unanswered := by
    show (world.outstanding ++ [_]).filterMap _ = _
    rw [filterMap_append]
    exact append_nil _
  completing := rfl
  log := .inr ⟨_, rfl, trivial⟩

theorem takeNextAction_fed (fed : Fed world)
    (quiet : world.Busy → dispatches world.takeNextAction.log = dispatches world.log) :
    Fed world.takeNextAction := by
  rcases world.takeNextAction_cases with ⟨same, -⟩ | ⟨front, rest, -, queue, -, sends⟩ |
    ⟨-, -, -, starts⟩
  · rwa [same]
  · rw [sends] at quiet ⊢
    exact fed.sent (fun busy => sent_dispatches world front (quiet busy)) queue
  · rw [starts]
    exact fed.beside (startRDMDiscovery_beside world)

theorem Fed.accept (fed : Fed world) (request : Command) (onComplete : Bool) :
    Fed { world with
      pendingRequests := world.pendingRequests ++ [⟨world.tickets, request, onComplete⟩]
      log := world.log ++ [.accepted ⟨world.tickets, request, onComplete⟩]
      tickets := world.tickets + 1 } := by
  cases fed with
  | idle sound answered returned held packets books =>
    exact .idle sound answered returned held packets (books.accept request onComplete)
  | waiting front rest replies sound queue alone returned waits spent books =>
    have grown := books.accept request onComplete
    rw [cons_append] at grown
    refine .waiting front (rest ++ [⟨world.tickets, request, onComplete⟩]) replies sound ?_ alone
      returned waits ?_ grown
    · rw [queue, cons_append]
    · rw [← spent]
      exact account_accepted front.ticket world.log _
  | running front rest sound queue answered alone complete books =>
    have grown := books.accept request onComplete
    refine .running front (rest ++ [⟨world.tickets, request, onComplete⟩]) sound ?_ answered alone
      (complete.append nofun) grown
    rw [queue, cons_append]

theorem sendRDMRequest_fed (fed : Fed world) (request : Command) (onComplete : Bool)
    (quiet : world.Busy →
      dispatches (world.sendRDMRequest request onComplete).log = dispatches world.log) :
    Fed (world.sendRDMRequest request onComplete) := by
  unfold sendRDMRequest at quiet ⊢
  split at quiet
  · rename_i full
    rw [if_pos full]
    exact fed.beside ⟨rfl, rfl, rfl, rfl, rfl, rfl, rfl, .inr ⟨_, rfl, trivial⟩⟩
  · rename_i room
    rw [if_neg room]
    apply takeNextAction_fed (fed.accept request onComplete)
    intro busy
    rw [quiet busy, dispatches_append]
    exact (append_nil _).symm

theorem finishRequest_fed {front : OutstandingRequest} {rest : List OutstandingRequest}
    (sound : world.fault = false) (queue : world.pendingRequests = front :: rest)
    (answered : world.unanswered = []) (returned : world.completing = [])
    (complete : Complete world.log front)
    (books : Books world.log (front :: rest) world.tickets rest) :
    Fed (world.finishRequest front) := by
  unfold finishRequest
  simp only [queue, ↓reduceIte]
  have idle : Fed { world with packets := [], response := none, pendingRequests := rest } :=
    .idle sound answered returned rfl rfl (books.pop complete)
  apply takeNextAction_fed idle
  rintro (unanswered | running)
  · exact absurd answered unanswered
  · exact absurd returned running

/-- The dispatch of the request in front is answered. -/
theorem handleRDMResponse_fed {front : OutstandingRequest} {rest : List OutstandingRequest}
    {replies : List Reply} {reply : Reply} (sound : world.fault = false)
    (queue : world.pendingRequests = front :: rest) (answered : world.unanswered = [])
    (returned : world.completing = [])
    (waits : progress replies = .waiting world.response world.packets)
    (spent : account front.ticket world.log = transcript front.ticket (replies ++ [reply]))
    (books : Books world.log (front :: rest) world.tickets rest) :
    Fed (world.handleRDMResponse reply) := by
  unfold handleRDMResponse
  simp only [queue]
  split
  · rename_i overflow
    have again := progress_overflow waits overflow
    refine .waiting front rest (replies ++ [reply]) sound rfl ?_ returned again ?_
      (books.note rfl books.turn)
    · show (world.outstanding ++ [_]).filterMap Operation.request? = _
      rw [filterMap_append]
      show world.unanswered ++ [front.ticket] = _
      rw [answered, nil_append]
    · rw [← spent]
      exact account_same world.log rfl
  · rename_i final
    have outcome := progress_final waits final
    split
    · rename_i given
      refine .running front rest sound rfl answered ?_ ⟨replies ++ [reply], _, outcome, ?_⟩
        (books.note rfl books.turn)
      · show front :: world.completing = _
        rw [returned]
      · rw [if_pos given, ← spent]
        exact account_same world.log rfl
    · rename_i null
      refine finishRequest_fed sound rfl answered returned ⟨replies ++ [reply], _, outcome, ?_⟩
        books
      rw [if_neg null, append_nil]
      exact spent

/-- With one dispatch unanswered, its answer leaves none. -/
theorem answered_eraseIdx {outstanding : List Operation} {ticket other index : Nat}
    {continuation : Bool} (alone : outstanding.filterMap Operation.request? = [ticket])
    (found : outstanding[index]? = some (.request other continuation)) :
    ticket = other ∧ (outstanding.eraseIdx index).filterMap Operation.request? = [] := by
  obtain ⟨before, after, split, erased⟩ := eraseIdx_split found
  rw [split] at alone
  rw [erased]
  simp only [filterMap_append, filterMap_cons, Operation.request?,
    append_eq_singleton_iff, List.cons.injEq] at alone ⊢
  rcases alone with ⟨none, rfl, rest⟩ | ⟨-, impossible⟩
  · exact ⟨rfl, by rw [none, rest, append_nil]⟩
  · cases impossible

theorem unanswered_mem {outstanding : List Operation} {ticket index : Nat} {continuation : Bool}
    (found : outstanding[index]? = some (.request ticket continuation)) :
    ticket ∈ outstanding.filterMap Operation.request? :=
  mem_filterMap.mpr ⟨_, mem_of_getElem? found, rfl⟩

theorem answer_fed (fed : Fed world) (index : Nat) (reply : Reply) :
    Fed (world.answer index reply) := by
  unfold answer
  split
  · rename_i ticket continuation found
    have member : ticket ∈ world.unanswered := unanswered_mem found
    cases fed with
    | idle _ answered | running _ _ _ _ answered =>
      rw [answered] at member
      cases member
    | waiting front rest replies sound queue alone returned waits spent books =>
      obtain ⟨same, answered⟩ := answered_eraseIdx alone found
      rw [← same]
      refine handleRDMResponse_fed sound queue answered returned waits ?_
        (books.note rfl books.turn)
      rw [transcript_append, ← spent]
      exact account_same world.log rfl
  · exact fed

theorem runCallbacks_fed (fed : Fed world) (number : Nat) (uids : UIDSet)
    (rest : List DiscoveryCallback)
    (quiet : world.Busy →
      dispatches (world.runCallbacks number uids rest).log = dispatches world.log) :
    Fed (world.runCallbacks number uids rest) := by
  induction rest with
  | nil =>
    have cleared : Fed { world with discoveryCallbacks := [] } :=
      fed.beside ⟨rfl, rfl, rfl, rfl, rfl, rfl, rfl, .inl rfl⟩
    exact takeNextAction_fed cleared quiet
  | cons callback rest ih =>
    unfold runCallbacks at quiet ⊢
    split at quiet
    · rename_i null
      rw [if_pos null]
      exact ih quiet
    · rename_i given
      rw [if_neg given]
      exact fed.beside ⟨rfl, rfl, rfl, rfl, rfl, rfl, rfl, .inr ⟨_, rfl, trivial⟩⟩

theorem discovered_fed (fed : Fed world) (index : Nat) (uids : UIDSet)
    (quiet : world.Busy → dispatches (world.discovered index uids).log = dispatches world.log) :
    Fed (world.discovered index uids) := by
  unfold discovered at quiet ⊢
  split
  · rename_i number found
    simp only [found] at quiet
    obtain ⟨before, after, split, erased⟩ := eraseIdx_split found
    have same : (world.outstanding.eraseIdx index).filterMap Operation.request? =
        world.unanswered := by
      rw [erased, unanswered, split, filterMap_append, filterMap_append,
        filterMap_cons_none rfl]
    have done : Fed { world with
        outstanding := world.outstanding.eraseIdx index
        log := world.log ++ [.completed number uids] } :=
      fed.beside ⟨rfl, rfl, rfl, rfl, rfl, same, rfl, .inr ⟨_, rfl, trivial⟩⟩
    apply runCallbacks_fed done
    intro busy
    have before : world.Busy := by
      unfold Busy unanswered at busy ⊢
      rwa [same] at busy
    show dispatches (discoveryComplete _ number uids).log = _
    rw [quiet before, dispatches_append]
    exact (append_nil _).symm
  · exact fed

theorem genericDiscovery_discoverable (discoverable : world.kind = .discoverable)
    (callback full : Bool) : world.genericDiscovery callback full =
      takeNextAction { world with
        pendingDiscoveryCallbacks :=
          world.pendingDiscoveryCallbacks ++ [(full, ⟨world.callbacks, !callback⟩)]
        log := world.log ++ [.registered ⟨world.callbacks, !callback⟩ full]
        callbacks := world.callbacks + 1 } := by
  unfold genericDiscovery
  split
  · rename_i queueing
    rw [discoverable] at queueing
    cases queueing
  · rfl

theorem genericDiscovery_fed (fed : Fed world) (callback full : Bool)
    (quiet : world.Busy →
      dispatches (world.genericDiscovery callback full).log = dispatches world.log) :
    Fed (world.genericDiscovery callback full) := by
  by_cases discoverable : world.kind = .discoverable
  · rw [genericDiscovery_discoverable discoverable] at quiet ⊢
    refine takeNextAction_fed ?_ ?_
    · exact fed.beside ⟨rfl, rfl, rfl, rfl, rfl, rfl, rfl, .inr ⟨_, rfl, trivial⟩⟩
    · intro busy
      rw [quiet busy, dispatches_append]
      exact (append_nil _).symm
  · unfold genericDiscovery
    split
    · exact fed
    · rename_i kind
      exact absurd kind discoverable

theorem callbackReturns_fed (fed : Fed world)
    (quiet : world.Busy → settles world .callbackReturns = true ∨
      dispatches world.callbackReturns.log = dispatches world.log) :
    Fed world.callbackReturns := by
  unfold callbackReturns
  cases frames : world.frames with
  | nil => exact fed
  | cons frame frames' =>
    cases frame with
    | handleRDMResponse request =>
      have shown : world.completing = request :: frames'.filterMap Frame.request? := by
        rw [completing, frames]
        rfl
      cases fed with
      | idle _ _ returned | waiting _ _ _ _ _ _ returned =>
        rw [returned] at shown
        cases shown
      | running front rest sound queue answered alone complete books =>
        rw [alone, List.cons.injEq] at shown
        obtain ⟨rfl, none⟩ := shown
        exact @finishRequest_fed { world with frames := frames' } front rest sound queue
          answered none.symm complete books
    | discoveryComplete number uids rest =>
      have popped : Fed { world with frames := frames' } := by
        refine fed.beside ⟨rfl, rfl, rfl, rfl, rfl, rfl, ?_, .inl rfl⟩
        rw [completing, completing, frames, filterMap_cons_none rfl]
      apply runCallbacks_fed popped
      intro busy
      have before : world.Busy := by
        unfold Busy completing at busy ⊢
        rw [frames, filterMap_cons_none rfl]
        exact busy
      rcases quiet before with settled | same
      · simp [settles, frames, Frame.request?] at settled
      · rw [callbackReturns, frames] at same
        exact same

/-- Every undisturbed step serves the request in front. -/
theorem step_fed (fed : Fed world) {input : Input} (undisturbed : Undisturbed world input) :
    Fed (world.step input) := by
  unfold Undisturbed at undisturbed
  have live : ¬ world.fault = true := by
    rw [fed.sound]
    nofun
  unfold step at undisturbed ⊢
  rw [if_neg live] at undisturbed ⊢
  cases input with
  | answer index reply => exact answer_fed fed index reply
  | callbackReturns => exact callbackReturns_fed fed undisturbed
  | pause => exact fed.beside ⟨rfl, rfl, rfl, rfl, rfl, rfl, rfl, .inl rfl⟩
  | resume =>
    have active : Fed { world with active := true } :=
      fed.beside ⟨rfl, rfl, rfl, rfl, rfl, rfl, rfl, .inl rfl⟩
    exact maybeSendRDMRequest_fed active (fun busy => (undisturbed busy).resolve_left nofun)
  | sendRDMRequest request onComplete =>
    exact sendRDMRequest_fed fed request onComplete
      (fun busy => (undisturbed busy).resolve_left nofun)
  | runFullDiscovery callback =>
    exact genericDiscovery_fed fed callback true
      (fun busy => (undisturbed busy).resolve_left nofun)
  | runIncrementalDiscovery callback =>
    exact genericDiscovery_fed fed callback false
      (fun busy => (undisturbed busy).resolve_left nofun)
  | discovered index uids =>
    exact discovered_fed fed index uids (fun busy => (undisturbed busy).resolve_left nofun)

theorem initial_fed (kind : Kind) (maxQueueSize : Nat) : Fed (World.initial kind maxQueueSize) := by
  cases initial_serial kind maxQueueSize with
  | idle plain queue outstanding frames unflagged held packets books =>
    exact .idle rfl rfl rfl rfl rfl books
  | waiting _ _ _ _ _ queue | running _ _ _ queue => cases queue

end Fed

end World

open World

/-- The request is dispatched, and all it has been answered with asks for more. -/
def Asking (request : OutstandingRequest) : Prop :=
  ∃ replies, (∀ reply ∈ replies, Overflows reply) ∧
    account request.ticket log = transcript request.ticket replies ++ [.dispatched request.ticket]

/-- The request has been dispatched once for each reply, and its callback run once. -/
def Answered (request : OutstandingRequest) : Prop :=
  ∃ front last outcome, Delivered front last outcome ∧
    account request.ticket log = transcript request.ticket (front ++ [last]) ++
      (if request.onComplete then [.ran request.ticket outcome] else [])

theorem Complete.answered {log : List Event} {request : OutstandingRequest}
    (complete : Complete log request) : Answered log request := by
  obtain ⟨replies, outcome, finished, spent⟩ := complete
  obtain ⟨front, last, rfl, delivered⟩ := delivered_of_finished finished
  exact ⟨front, last, outcome, delivered, spent⟩

/-- The callback of each request is run with what its own replies come to. -/
theorem responses_reassembled (kind : Kind) (maxQueueSize : Nat) (inputs : List Input)
    (permitted : Permitted step Undisturbed (World.initial kind maxQueueSize) inputs) :
    let log := (run step (World.initial kind maxQueueSize) inputs).log
    ∀ request, Event.accepted request ∈ log →
      account request.ticket log = [] ∨ Asking log request ∨ Answered log request := by
  have fed : Fed (run step (World.initial kind maxQueueSize) inputs) :=
    @run_invariant World Input step Undisturbed Fed (fun _ _ fed ok => step_fed fed ok) _ inputs
      (initial_fed kind maxQueueSize) permitted
  intro log request accepted
  cases fed with
  | idle _ _ _ _ _ books =>
    rcases books.done request accepted with member | complete
    · exact .inl (books.untouched request member)
    · exact .inr (.inr complete.answered)
  | waiting front rest replies _ _ _ _ waits spent books =>
    rcases books.done request accepted with member | complete
    · rcases List.mem_cons.mp member with rfl | behind
      · exact .inr (.inl ⟨replies, (collected_of_waiting waits).overflow, spent⟩)
      · exact .inl (books.untouched request behind)
    · exact .inr (.inr complete.answered)
  | running front rest _ _ _ _ complete books =>
    rcases books.done request accepted with member | earlier
    · rcases List.mem_cons.mp member with rfl | behind
      · exact .inr (.inr complete.answered)
      · exact .inl (books.untouched request behind)
    · exact .inr (.inr earlier.answered)

/-- A response in two parts, with the controller paused and resumed in between. -/
theorem responses_reassembled_resumed :
    let inputs : List Input := [.sendRDMRequest exampleGet true, .answer 0 (exampleReply 3), .pause,
      .sendRDMRequest exampleGet true, .answer 0 (exampleReply 0), .callbackReturns, .resume,
      .answer 0 (exampleReply 0)]
    let log := (run step (World.initial .queueing 10) inputs).log
    Asking log ⟨0, exampleGet, true⟩ ∨ Answered log ⟨0, exampleGet, true⟩ :=
  (responses_reassembled .queueing 10 [.sendRDMRequest exampleGet true, .answer 0 (exampleReply 3),
    .pause, .sendRDMRequest exampleGet true, .answer 0 (exampleReply 0), .callbackReturns, .resume,
    .answer 0 (exampleReply 0)] (by decide) ⟨0, exampleGet, true⟩ (by decide)).resolve_left
    (by decide)

/-- Nothing is delivered but what fits together, and with the type of the last response. -/
structure Strict (front : List Reply) (last : Reply) (outcome : Reply) : Prop where
  whole : ∀ final, Reassembles front last final → outcome.status = .completedOk ∧
    ∃ response, outcome.response = some response ∧ response.portId = final.portId
  failed : (∀ final, ¬ Reassembles front last final) →
    outcome.status ≠ .completedOk ∧ outcome.response = none

def exampleMute : Command := ⟨⟨1, 2⟩, ⟨3, 4⟩, 0, 1, 0, 0, .discoverCommand, 2, []⟩

def exampleMuted : Reply :=
  ⟨.completedOk, some ⟨⟨3, 4⟩, ⟨1, 2⟩, 0, 0, 0, 0, .discoverCommandResponse, 2, [0, 0]⟩, []⟩

/-- A single discovery response is delivered; success without a response leaves the part before
in place; and a NACK behind an ACK_OVERFLOW becomes an ACK. -/
theorem not_strict :
    (∃ outcome, account 0 (run step (World.initial .queueing 10)
        [.sendRDMRequest exampleMute true, .answer 0 exampleMuted]).log =
          transcript 0 [exampleMuted] ++ [.ran 0 outcome] ∧ ¬ Strict [] exampleMuted outcome) ∧
      (∃ outcome, account 0 (run step (World.initial .queueing 10)
        [.sendRDMRequest exampleGet true, .answer 0 (exampleReply 3),
          .answer 0 ⟨.completedOk, none, []⟩]).log =
          transcript 0 [exampleReply 3, ⟨.completedOk, none, []⟩] ++ [.ran 0 outcome] ∧
        ¬ Strict [exampleReply 3] ⟨.completedOk, none, []⟩ outcome) ∧
      ∃ outcome, account 0 (run step (World.initial .queueing 10)
        [.sendRDMRequest exampleGet true, .answer 0 (exampleReply 3),
          .answer 0 (exampleReply 2)]).log =
          transcript 0 [exampleReply 3, exampleReply 2] ++ [.ran 0 outcome] ∧
        ¬ Strict [exampleReply 3] (exampleReply 2) outcome := by
  refine ⟨⟨exampleMuted, by decide, ?_⟩, ⟨⟨.invalidResponse, (exampleReply 3).response, []⟩,
    by decide, ?_⟩, ⟨⟨.completedOk, (exampleReply 0).response.map (fun response =>
      { response with paramData := [7, 7] }), []⟩, by decide, ?_⟩⟩
  · intro strict
    refine absurd rfl (strict.failed ?_).1
    intro final whole
    have class' : ∀ part ∈ parts [exampleMuted], part.commandClass = .discoverCommandResponse := by
      decide
    rcases whole.uniform with get | set
    · exact nomatch (class' _ List.mem_cons_self).symm.trans (get _ List.mem_cons_self)
    · exact nomatch (class' _ List.mem_cons_self).symm.trans (set _ List.mem_cons_self)
  · intro strict
    have missing := (strict.failed (fun final whole => nomatch whole.answered)).2
    cases missing
  · intro strict
    obtain ⟨-, response, same, type⟩ := strict.whole _ {
      overflow := by
        intro reply member
        rw [List.mem_singleton.mp member]
        exact ⟨rfl, _, rfl, rfl⟩
      completed := rfl
      answered := rfl
      ends := by decide
      source := by decide
      uniform := .inl (by decide)
      small := by decide }
    cases same
    cases type

end OpenLighting.QueueingController
