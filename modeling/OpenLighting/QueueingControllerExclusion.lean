import OpenLighting.QueueingControllerRefinement

namespace OpenLighting.QueueingController

open OpenLighting.Rdm TransitionSystem

def Operation.isContinuation : Operation → Bool
  | .request _ continuation => continuation
  | .discovery _ => false

/-- A request that was sent again after an ACK_OVERFLOW is on its way. -/
def World.continuing (world : World) : Bool := world.outstanding.any Operation.isContinuation

/-- Something is queued, apart from the first `done` requests. -/
def World.queued (world : World) (done : Nat) : Bool :=
  decide (done < world.pendingRequests.length) || !world.pendingDiscoveryCallbacks.isEmpty

/-- The steps that start a second operation: `Resume` with requests queued while an
operation is outstanding; and, while the controller is active and a request that was
sent again after an ACK_OVERFLOW is on its way, a request that is accepted, a
discovery that nothing else holds back, or the end of a callback with something
queued. -/
def Overlaps (world : World) (input : Input) : Prop :=
  world.fault = false ∧
  match input with
  | .resume => world.outstanding ≠ [] ∧ world.pendingRequests ≠ []
  | .sendRDMRequest _ _ =>
    world.continuing ∧ world.active ∧ world.discoveryCallbacks = [] ∧
      world.pendingRequests.length < world.maxQueueSize
  | .runFullDiscovery _ | .runIncrementalDiscovery _ =>
    world.continuing ∧ world.active ∧ world.discoveryCallbacks = [] ∧
      world.kind = .discoverable
  | .callbackReturns =>
    world.continuing ∧ world.active ∧
      match world.frames with
      | [] => False
      | .handleRDMResponse request :: _ =>
        world.discoveryCallbacks = [] ∧ world.queued 1 ∧
          world.pendingRequests.head?.map OutstandingRequest.ticket = some request.ticket
      | .discoveryComplete _ _ rest :: _ =>
        (∀ callback ∈ rest, callback.null) ∧ world.queued 0
  | _ => False

namespace World

/-- At most one operation is outstanding, and the flag stands for a request that
was sent for the first time. -/
structure Tight (world : World) : Prop where
  single : world.outstanding.length ≤ 1
  flagged : world.rdmRequestPending = true ↔
    ∃ ticket, Operation.request ticket false ∈ world.outstanding

section Tight
variable {world : World}

/-- With nothing outstanding, one operation may be started. -/
theorem takeNextAction_tight (nothing : world.outstanding = [])
    (unflagged : world.rdmRequestPending = false) : Tight world.takeNextAction := by
  rcases world.takeNextAction_cases with ⟨same, -⟩ | ⟨front, rest, -, -, -, sends⟩ |
    ⟨-, -, -, starts⟩
  · rw [same]
    exact ⟨by simp [nothing], by simp [nothing, unflagged]⟩
  · rw [sends]
    exact ⟨by simp [sent, nothing], by simp [sent, nothing]⟩
  · rw [starts]
    constructor
    · simp [startRDMDiscovery, nothing]
    · simp [startRDMDiscovery, nothing, unflagged]

/-- An operation that the blocking condition does not see is a continuation. -/
theorem nothing_of_unblocked (tight : Tight world) (ledger : Ledger world.service)
    (ended : world.continuing = false) (unblocked : world.checkForBlockingCondition = false) :
    world.outstanding = [] := by
  have vacant : world.discoveryCallbacks = [] := by
    cases kind : world.kind with
    | queueing => exact (ledger.plain kind).1
    | discoverable => exact vacant_of_unblocked kind unblocked
  have unflagged : world.rdmRequestPending = false := by
    unfold Controller.checkForBlockingCondition at unblocked
    cases kind : world.kind with
    | queueing =>
      rw [kind] at unblocked
      simpa using (Bool.or_eq_false_iff.mp unblocked).2
    | discoverable =>
      rw [kind] at unblocked
      exact (Bool.or_eq_false_iff.mp (Bool.or_eq_false_iff.mp unblocked).1).2
  rw [List.eq_nil_iff_forall_not_mem]
  intro operation member
  cases operation with
  | request ticket continuation =>
    cases continuation with
    | false =>
      have pending := tight.flagged.mpr ⟨ticket, member⟩
      rw [unflagged] at pending
      cases pending
    | true =>
      rw [continuing, List.any_eq_false] at ended
      exact ended _ member rfl
  | discovery number =>
    have running : number ∈ world.service.running := List.mem_filterMap.mpr ⟨_, member, rfl⟩
    rw [(ledger.idle vacant).1] at running
    cases running

theorem takeNextAction_keeps (tight : Tight world) (ledger : Ledger world.service)
    (held : world.continuing = true → world.queued 0 = true →
      world.checkForBlockingCondition = true) : Tight world.takeNextAction := by
  have clear (unblocked : world.checkForBlockingCondition = false)
      (some : world.queued 0 = true) : Tight world.takeNextAction := by
    have ended : world.continuing = false := by
      by_contra continuing
      rw [held (by simpa using continuing) some] at unblocked
      cases unblocked
    have nothing := nothing_of_unblocked tight ledger ended unblocked
    apply takeNextAction_tight nothing
    by_contra flag
    obtain ⟨ticket, member⟩ := tight.flagged.mp (by simpa using flag)
    rw [nothing] at member
    cases member
  rcases world.takeNextAction_cases with ⟨same, -⟩ | ⟨front, rest, unblocked, queued, -, -⟩ |
    ⟨unblocked, -, wanted, -⟩
  · rwa [same]
  · exact clear unblocked (by simp [World.queued, queued])
  · exact clear unblocked (by simp [World.queued, wanted])

/-- The only operation is a continuation, which the flag does not stand for. -/
theorem alone_of_continuing (tight : Tight world) (continuing : world.continuing = true) :
    world.outstanding.length = 1 ∧ world.rdmRequestPending = false := by
  obtain ⟨operation, member, again⟩ := List.any_eq_true.mp continuing
  have single := tight.single
  match outstanding : world.outstanding with
  | [] =>
    rw [outstanding] at member
    cases member
  | [only] =>
    refine ⟨rfl, ?_⟩
    by_contra flag
    obtain ⟨ticket, first⟩ := tight.flagged.mp (by simpa using flag)
    rw [outstanding, List.mem_singleton] at member first
    rw [member, ← first] at again
    cases again
  | _ :: _ :: _ =>
    rw [outstanding] at single
    simp at single

theorem takeNextAction_overlaps (tight : Tight world) (ledger : Ledger world.service)
    (continuing : world.continuing = true) (active : world.active = true)
    (vacant : world.discoveryCallbacks = []) (some : world.queued 0 = true) :
    ¬ world.takeNextAction.outstanding.length ≤ 1 := by
  obtain ⟨alone, unflagged⟩ := alone_of_continuing tight continuing
  rcases world.takeNextAction_cases with ⟨-, blocked | ⟨none, quiet⟩⟩ |
    ⟨front, rest, -, -, -, sends⟩ | ⟨-, -, -, starts⟩
  · unfold Controller.checkForBlockingCondition at blocked
    rw [active, unflagged, vacant] at blocked
    split at blocked <;> cases blocked
  · have nothing : world.pendingDiscoveryCallbacks = [] := by
      cases kind : world.kind with
      | queueing => exact (ledger.plain kind).2
      | discoverable => exact quiet kind
    rw [World.queued, none, nothing] at some
    cases some
  · rw [sends]
    simp [sent, alone]
  · rw [starts]
    simp [startRDMDiscovery, alone]

theorem finishRequest_tight (nothing : world.outstanding = [])
    (unflagged : world.rdmRequestPending = false) (request : OutstandingRequest) :
    Tight (world.finishRequest request) := by
  have tight : Tight { world with fault := true } := by
    exact ⟨by simp [nothing], by simp [nothing, unflagged]⟩
  unfold finishRequest
  split
  · exact tight
  · rename_i front rest _
    split
    · exact @takeNextAction_tight
        { world with packets := [], response := none, pendingRequests := rest } nothing unflagged
    · exact tight

theorem handleRDMResponse_tight (nothing : world.outstanding = []) (reply : Reply) :
    Tight (world.handleRDMResponse reply) := by
  unfold handleRDMResponse
  dsimp only
  split
  · exact ⟨by simp [nothing], by simp [nothing]⟩
  · rename_i front rest queued
    split
    · unfold dispatchNextRequest
      simp only [queued]
      exact ⟨by simp [nothing], by simp [nothing]⟩
    · split
      · exact ⟨by simp [nothing], by simp [nothing]⟩
      · exact @finishRequest_tight
          { world with
            rdmRequestPending := false
            packets := world.packets ++ reply.packets
            response := (receive world.response reply).2.1 } nothing rfl front

theorem runCallbacks_tight (nothing : world.outstanding = [])
    (unflagged : world.rdmRequestPending = false) (number : Nat) (uids : UIDSet)
    (rest : List DiscoveryCallback) : Tight (world.runCallbacks number uids rest) := by
  rcases world.runCallbacks_cases number uids rest with ⟨-, ends⟩ | ⟨-, log, frames, stops⟩
  · rw [ends]
    exact @takeNextAction_tight { world with discoveryCallbacks := [] } nothing unflagged
  · rw [stops]
    exact ⟨by simp [nothing], by simp [nothing, unflagged]⟩

/-- With one operation outstanding at most, its completion leaves none. -/
theorem erased_nothing (tight : Tight world) {index : Nat} {operation : Operation}
    (found : world.outstanding[index]? = some operation) :
    world.outstanding = [operation] ∧ world.outstanding.eraseIdx index = [] := by
  obtain ⟨before, after, split, erased⟩ := eraseIdx_split found
  have single := tight.single
  rw [split, List.length_append, List.length_cons] at single
  have first : before = [] := List.eq_nil_of_length_eq_zero (by omega)
  have last : after = [] := List.eq_nil_of_length_eq_zero (by omega)
  rw [erased, split, first, last]
  exact ⟨rfl, rfl⟩

theorem blocked_of_held (ledger : Ledger world.service)
    (held : ¬ (world.active = true ∧ world.discoveryCallbacks = [])) :
    world.checkForBlockingCondition = true := by
  unfold Controller.checkForBlockingCondition
  cases active : world.active with
  | false => cases world.kind <;> simp
  | true =>
    have busy : world.discoveryCallbacks ≠ [] := fun vacant => held ⟨active, vacant⟩
    cases kind : world.kind with
    | queueing => exact absurd (ledger.plain kind).1 busy
    | discoverable => simp [busy]

theorem popped_service {request : OutstandingRequest} {frames : List Frame}
    (top : world.frames = .handleRDMResponse request :: frames) :
    service { world with frames := frames } = world.service := by
  unfold service
  rw [top, List.filterMap_cons_none rfl]

theorem finished_ledger (ledger : Ledger world.service) {number : Nat} {uids : UIDSet}
    {rest : List DiscoveryCallback} {frames : List Frame}
    (top : world.frames = .discoveryComplete number uids rest :: frames)
    (all : ∀ callback ∈ rest, callback.null) :
    Ledger (service { world with frames := frames, discoveryCallbacks := [] }) := by
  apply ledger.moves
  have moves := finish_moves { world with frames := frames } number uids rest all
  convert moves using 1
  simp [service, top, Frame.completing?]

section
variable (tight : Tight world) (ledger : Ledger world.service)
include tight ledger

theorem sendRDMRequest_keeps (request : Command) (onComplete : Bool)
    (alone : ¬ (world.continuing ∧ world.active ∧ world.discoveryCallbacks = [] ∧
      world.pendingRequests.length < world.maxQueueSize)) :
    Tight (world.sendRDMRequest request onComplete) := by
  unfold sendRDMRequest
  split
  · exact ⟨tight.single, tight.flagged⟩
  · rename_i room
    have accepted : Ledger (service
        { world with
          pendingRequests := world.pendingRequests ++ [⟨world.tickets, request, onComplete⟩]
          log := world.log ++ [.accepted ⟨world.tickets, request, onComplete⟩]
          tickets := world.tickets + 1 }) := by
      convert ledger using 1
      simp [service, Event.isDiscovery]
    refine takeNextAction_keeps ⟨tight.single, tight.flagged⟩ accepted ?_
    intro continuing _
    apply blocked_of_held accepted
    rintro ⟨active, vacant⟩
    exact alone ⟨continuing, active, vacant, Nat.lt_of_not_le room⟩

theorem genericDiscovery_keeps (callback full : Bool)
    (alone : ¬ (world.continuing ∧ world.active ∧ world.discoveryCallbacks = [] ∧
      world.kind = .discoverable)) :
    Tight (world.genericDiscovery callback full) := by
  unfold genericDiscovery
  split
  · exact tight
  · rename_i discoverable
    have registered : Ledger (service
        { world with
          pendingDiscoveryCallbacks :=
            world.pendingDiscoveryCallbacks ++ [(full, ⟨world.callbacks, !callback⟩)]
          log := world.log ++ [.registered ⟨world.callbacks, !callback⟩ full]
          callbacks := world.callbacks + 1 }) := by
      convert ledger.register discoverable full (!callback) using 1
      simp [service, Event.isDiscovery]
    refine takeNextAction_keeps ⟨tight.single, tight.flagged⟩ registered ?_
    intro continuing _
    apply blocked_of_held registered
    rintro ⟨active, vacant⟩
    exact alone ⟨continuing, active, vacant, discoverable⟩

theorem genericDiscovery_overlaps (callback full : Bool) (continuing : world.continuing = true)
    (active : world.active = true) (vacant : world.discoveryCallbacks = [])
    (discoverable : world.kind = .discoverable) :
    ¬ (world.genericDiscovery callback full).outstanding.length ≤ 1 := by
  unfold genericDiscovery
  split
  · rename_i queueing
    rw [discoverable] at queueing
    cases queueing
  · refine takeNextAction_overlaps ⟨tight.single, tight.flagged⟩ ?_ continuing active vacant ?_
    · convert ledger.register discoverable full (!callback) using 1
      simp [service, Event.isDiscovery]
    · simp [World.queued]

theorem callbackReturns_keeps (sound : world.fault = false)
    (alone : ¬ Overlaps world .callbackReturns) :
    Tight world.callbackReturns := by
  unfold callbackReturns
  split
  · exact tight
  · rename_i request frames top
    unfold finishRequest
    split
    · exact ⟨tight.single, tight.flagged⟩
    · rename_i front rest queued
      split
      · rename_i same
        have popped : Ledger (service
            { world with
              frames := frames, packets := [], response := none, pendingRequests := rest }) := by
          convert ledger using 1
          exact popped_service top
        refine takeNextAction_keeps ⟨tight.single, tight.flagged⟩ popped ?_
        intro continuing some
        apply blocked_of_held popped
        rintro ⟨active, vacant⟩
        apply alone
        refine ⟨sound, continuing, active, ?_⟩
        simp only [top]
        refine ⟨vacant, ?_, ?_⟩
        · have queuedAll : world.pendingRequests = front :: rest := queued
          simpa [World.queued, queuedAll] using some
        · have queuedAll : world.pendingRequests = front :: rest := queued
          simp [queuedAll, same]
      · exact ⟨tight.single, tight.flagged⟩
  · rename_i number uids rest frames top
    rcases runCallbacks_cases { world with frames := frames } number uids rest with
      ⟨all, ends⟩ | ⟨-, log, frames', stops⟩
    · rw [ends]
      have finished := finished_ledger ledger top all
      refine takeNextAction_keeps ⟨tight.single, tight.flagged⟩ finished ?_
      intro continuing some
      apply blocked_of_held finished
      rintro ⟨active, -⟩
      apply alone
      refine ⟨sound, continuing, active, ?_⟩
      simp only [top]
      exact ⟨all, some⟩
    · rw [stops]
      exact ⟨tight.single, tight.flagged⟩

theorem step_tight {input : Input} (alone : ¬ Overlaps world input) : Tight (world.step input) := by
  unfold step
  split
  · exact tight
  · rename_i faultless
    have sound : world.fault = false := by simpa using faultless
    cases input with
    | pause => exact ⟨tight.single, tight.flagged⟩
    | sendRDMRequest request onComplete =>
      exact sendRDMRequest_keeps tight ledger request onComplete
        (fun overlap => alone ⟨sound, overlap⟩)
    | runFullDiscovery callback =>
      exact genericDiscovery_keeps tight ledger callback true
        (fun overlap => alone ⟨sound, overlap⟩)
    | runIncrementalDiscovery callback =>
      exact genericDiscovery_keeps tight ledger callback false
        (fun overlap => alone ⟨sound, overlap⟩)
    | resume =>
      unfold resume
      rcases maybeSendRDMRequest_cases { world with active := true } with ⟨-, same⟩ |
        ⟨front, rest, queued, sends⟩
      · rw [same]
        exact ⟨tight.single, tight.flagged⟩
      · have nothing : world.outstanding = [] := by
          by_contra some
          apply alone
          refine ⟨sound, some, ?_⟩
          have queuedAll : world.pendingRequests = front :: rest := queued
          rw [queuedAll]
          exact List.cons_ne_nil _ _
        rw [sends]
        exact ⟨by simp [sent, nothing], by simp [sent, nothing]⟩
    | answer index reply =>
      show Tight (world.answer index reply)
      unfold answer
      split
      · rename_i ticket continuation found
        exact handleRDMResponse_tight (erased_nothing tight found).2 reply
      · exact tight
    | discovered index uids =>
      show Tight (world.discovered index uids)
      unfold discovered
      split
      · rename_i number found
        obtain ⟨only, nothing⟩ := erased_nothing tight found
        refine @runCallbacks_tight
          { world with
            outstanding := world.outstanding.eraseIdx index
            log := world.log ++ [.completed number uids] } nothing ?_ number uids _
        by_contra flag
        obtain ⟨ticket, member⟩ := tight.flagged.mp (by simpa using flag)
        rw [only] at member
        simp at member
      · exact tight
    | callbackReturns => exact callbackReturns_keeps tight ledger sound alone

/-- A step that overlaps starts a second operation. -/
theorem step_overlaps {input : Input} (overlap : Overlaps world input) :
    ¬ (world.step input).outstanding.length ≤ 1 := by
  obtain ⟨sound, overlap⟩ := overlap
  unfold step
  rw [if_neg (by simp [sound])]
  cases input with
  | pause | answer | discovered => exact overlap.elim
  | resume =>
    obtain ⟨some, requests⟩ := overlap
    unfold resume
    rcases maybeSendRDMRequest_cases { world with active := true } with ⟨none, -⟩ |
      ⟨front, rest, -, sends⟩
    · exact absurd none requests
    · have positive : 0 < world.outstanding.length := List.length_pos_iff.mpr some
      rw [sends, sent, List.length_append, List.length_singleton]
      show ¬ world.outstanding.length + 1 ≤ 1
      omega
  | sendRDMRequest request onComplete =>
    obtain ⟨continuing, active, vacant, room⟩ := overlap
    show ¬ (world.sendRDMRequest request onComplete).outstanding.length ≤ 1
    unfold sendRDMRequest
    rw [if_neg (Nat.not_le.mpr room)]
    refine takeNextAction_overlaps ⟨tight.single, tight.flagged⟩ ?_ continuing active vacant ?_
    · convert ledger using 1
      simp [service, Event.isDiscovery]
    · simp [World.queued]
  | runFullDiscovery callback =>
    obtain ⟨continuing, active, vacant, discoverable⟩ := overlap
    exact genericDiscovery_overlaps tight ledger callback true continuing active vacant
      discoverable
  | runIncrementalDiscovery callback =>
    obtain ⟨continuing, active, vacant, discoverable⟩ := overlap
    exact genericDiscovery_overlaps tight ledger callback false continuing active vacant
      discoverable
  | callbackReturns =>
    obtain ⟨continuing, active, overlap⟩ := overlap
    show ¬ world.callbackReturns.outstanding.length ≤ 1
    unfold callbackReturns
    split
    · rename_i none
      simp only [none] at overlap
    · rename_i request frames top
      simp only [top] at overlap
      obtain ⟨vacant, some, front⟩ := overlap
      obtain ⟨head, first, same⟩ := Option.map_eq_some_iff.mp front
      obtain ⟨rest, queued⟩ := List.head?_eq_some_iff.mp first
      unfold finishRequest
      simp only [queued, same, ↓reduceIte]
      refine takeNextAction_overlaps ⟨tight.single, tight.flagged⟩ ?_ continuing active vacant ?_
      · convert ledger using 1
        exact popped_service top
      · simpa [World.queued, queued] using some
    · rename_i number uids rest frames top
      simp only [top] at overlap
      obtain ⟨all, some⟩ := overlap
      rcases runCallbacks_cases { world with frames := frames } number uids rest with
        ⟨-, ends⟩ | ⟨stopped, -⟩
      · rw [ends]
        exact takeNextAction_overlaps ⟨tight.single, tight.flagged⟩
          (finished_ledger ledger top all) continuing active rfl some
      · exact absurd all stopped

end

end Tight

end World

open World

/-- The controller below has at most one operation outstanding all the way through a
run exactly if no step of the run overlaps. -/
theorem exclusive_iff (kind : Kind) (maxQueueSize : Nat) (inputs : List Input) :
    (∀ count, (run step (World.initial kind maxQueueSize)
      (inputs.take count)).outstanding.length ≤ 1) ↔
      Permitted step (fun world input => ¬ Overlaps world input)
        (World.initial kind maxQueueSize) inputs := by
  apply @always_iff_permitted World Input step (fun world input => ¬ Overlaps world input)
    (fun world => Tight world ∧ Ledger world.service)
    (fun world => world.outstanding.length ≤ 1)
  · intro world invariant
    exact invariant.1.single
  · intro world input invariant alone
    exact ⟨step_tight invariant.1 invariant.2 alone,
      invariant.2.moves (world.step_moves invariant.2 input)⟩
  · intro world input invariant overlap
    exact step_overlaps invariant.1 invariant.2 (Classical.not_not.mp overlap)
  · exact ⟨⟨Nat.zero_le 1, by simp [World.initial, Controller.new]⟩,
      initial_ledger kind maxQueueSize⟩

/-- A request and what its device may answer. -/
def exampleGet : Command := ⟨⟨1, 2⟩, ⟨3, 4⟩, 0, 1, 0, 0, .getCommand, 0x60, []⟩

def exampleReply (responseType : UInt8) : Reply :=
  ⟨.completedOk, some ⟨⟨3, 4⟩, ⟨1, 2⟩, 0, responseType, 0, 0, .getCommandResponse, 0x60, [7]⟩, []⟩

/-- `Resume` sends the request again that is on its way. -/
theorem resume_not_exclusive :
    ¬ ∀ count, (run step (World.initial .queueing 10) ([.sendRDMRequest exampleGet true, .pause,
      .resume].take count)).outstanding.length ≤ 1 := by
  intro exclusive
  have twice := exclusive 3
  revert twice
  decide

end OpenLighting.QueueingController
