import OpenLighting.QueueingControllerDiscovery

namespace OpenLighting.QueueingController

open OpenLighting.Rdm TransitionSystem

namespace World

/-- The world after `MaybeSendRDMRequest` with a request in front. -/
def sent (world : World) (front : OutstandingRequest) : World :=
  { world with
    rdmRequestPending := true
    outstanding := world.outstanding ++ [.request front.ticket false]
    log := world.log ++ [.dispatched front.ticket] }

theorem maybeSendRDMRequest_cases (world : World) :
    (world.pendingRequests = [] ∧ world.maybeSendRDMRequest = world) ∨
    ∃ front rest, world.pendingRequests = front :: rest ∧
      world.maybeSendRDMRequest = world.sent front := by
  unfold maybeSendRDMRequest dispatchNextRequest
  cases queued : world.pendingRequests with
  | nil => exact .inl ⟨rfl, rfl⟩
  | cons front rest =>
    right
    refine ⟨front, rest, rfl, ?_⟩
    rw [sent, queued]
    rfl

theorem takeNextAction_cases (world : World) :
    (world.takeNextAction = world ∧ (world.checkForBlockingCondition = true ∨
      (world.pendingRequests = [] ∧
        (world.kind = .discoverable → world.pendingDiscoveryCallbacks = [])))) ∨
    (∃ front rest, world.checkForBlockingCondition = false ∧
      world.pendingRequests = front :: rest ∧
      (world.kind = .discoverable → world.pendingDiscoveryCallbacks = []) ∧
      world.takeNextAction = world.sent front) ∨
    (world.checkForBlockingCondition = false ∧ world.kind = .discoverable ∧
      world.pendingDiscoveryCallbacks ≠ [] ∧
      world.takeNextAction = world.startRDMDiscovery) := by
  unfold takeNextAction
  cases blocked : world.checkForBlockingCondition with
  | true => exact .inl ⟨rfl, .inl rfl⟩
  | false =>
    simp only [Bool.false_eq_true, ↓reduceIte]
    cases kind : world.kind with
    | queueing =>
      rcases world.maybeSendRDMRequest_cases with ⟨none, same⟩ | ⟨front, rest, queued, sends⟩
      · exact .inl ⟨same, .inr ⟨none, nofun⟩⟩
      · exact .inr (.inl ⟨front, rest, trivial, queued, nofun, sends⟩)
    | discoverable =>
      dsimp only
      split
      · rename_i quiet
        have none : world.pendingDiscoveryCallbacks = [] := List.isEmpty_iff.mp quiet
        rcases world.maybeSendRDMRequest_cases with ⟨idle, same⟩ | ⟨front, rest, queued, sends⟩
        · exact .inl ⟨same, .inr ⟨idle, fun _ => none⟩⟩
        · exact .inr (.inl ⟨front, rest, trivial, queued, fun _ => none, sends⟩)
      · rename_i wanted
        have some : world.pendingDiscoveryCallbacks ≠ [] := by simpa using wanted
        exact .inr (.inr ⟨trivial, rfl, some, rfl⟩)

theorem vacant_of_unblocked {world : World} (discoverable : world.kind = .discoverable)
    (unblocked : world.checkForBlockingCondition = false) : world.discoveryCallbacks = [] := by
  unfold Controller.checkForBlockingCondition at unblocked
  rw [discoverable] at unblocked
  simp only [Bool.or_eq_false_iff, Bool.not_eq_false'] at unblocked
  exact List.isEmpty_iff.mp unblocked.2

section Moves
variable (world : World)

@[simp] theorem sent_service (front : OutstandingRequest) :
    (world.sent front).service = world.service := by
  simp [sent, service, Operation.discovery?, Event.isDiscovery]

@[simp] theorem dispatchNextRequest_service (continuation : Bool) :
    (world.dispatchNextRequest continuation).service = world.service := by
  unfold dispatchNextRequest
  split <;> simp [service, Operation.discovery?, Event.isDiscovery]

@[simp] theorem maybeSendRDMRequest_service : world.maybeSendRDMRequest.service = world.service := by
  rcases world.maybeSendRDMRequest_cases with ⟨-, same⟩ | ⟨front, rest, -, sends⟩
  · rw [same]
  · rw [sends, sent_service]

theorem startRDMDiscovery_move (discoverable : world.kind = .discoverable)
    (vacant : world.discoveryCallbacks = []) (wanted : world.pendingDiscoveryCallbacks ≠ []) :
    Service.Move world.service world.startRDMDiscovery.service := by
  have move := Service.Move.start world.service discoverable vacant wanted
  convert move using 1
  simp [startRDMDiscovery, service, vacant, Operation.discovery?, Event.isDiscovery]

theorem takeNextAction_moves : Service.Moves world.service world.takeNextAction.service := by
  rcases world.takeNextAction_cases with ⟨same, -⟩ | ⟨front, rest, -, -, -, sends⟩ |
    ⟨unblocked, discoverable, wanted, starts⟩
  · rw [same]
  · rw [sends, sent_service]
  · rw [starts]
    have vacant := vacant_of_unblocked discoverable unblocked
    exact .single (world.startRDMDiscovery_move discoverable vacant wanted)

theorem finishRequest_moves (request : OutstandingRequest) :
    Service.Moves world.service (world.finishRequest request).service := by
  unfold finishRequest
  split
  · exact .refl
  · rename_i front rest _
    split
    · exact takeNextAction_moves
        { world with packets := [], response := none, pendingRequests := rest }
    · exact .refl

theorem handleRDMResponse_moves (reply : Reply) :
    Service.Moves world.service (world.handleRDMResponse reply).service := by
  unfold handleRDMResponse
  dsimp only
  split
  · exact .refl
  · rename_i front rest _
    split
    · rw [dispatchNextRequest_service]
      exact .refl
    · split
      · simp [service, Frame.completing?, Event.isDiscovery]
        exact .refl
      · exact finishRequest_moves
          { world with
            rdmRequestPending := false
            packets := world.packets ++ reply.packets
            response := (receive world.response reply).2.1 } front

theorem genericDiscovery_moves (callback full : Bool) :
    Service.Moves world.service (world.genericDiscovery callback full).service := by
  unfold genericDiscovery
  split
  · exact .refl
  · rename_i discoverable
    have move := Service.Move.register world.service discoverable full (!callback)
    refine .head ?_ (takeNextAction_moves _)
    convert move using 1
    simp [service, Event.isDiscovery]

section

variable (number : Nat) (uids : UIDSet) (rest : List DiscoveryCallback)
include number uids rest

/-- The loop of `DiscoveryComplete` ends, or stops at a callback. -/
theorem runCallbacks_cases :
    ((∀ callback ∈ rest, callback.null) ∧ world.runCallbacks number uids rest =
      takeNextAction { world with discoveryCallbacks := [] }) ∨
    ((¬ ∀ callback ∈ rest, callback.null) ∧ ∃ log frames,
      world.runCallbacks number uids rest = { world with log := log, frames := frames }) := by
  induction rest with
  | nil => exact .inl ⟨by simp, rfl⟩
  | cons callback rest ih =>
    unfold runCallbacks
    by_cases null : callback.null
    · simp only [null, ↓reduceIte, List.forall_mem_cons, true_and]
      exact ih
    · right
      refine ⟨fun all => null (all callback List.mem_cons_self), ?_⟩
      rw [if_neg null]
      exact ⟨_, _, rfl⟩

theorem finish_moves (all : ∀ callback ∈ rest, callback.null) :
    Service.Moves
      { world.service with completing := ⟨number, uids, rest⟩ :: world.service.completing }
      (service { world with discoveryCallbacks := [] }) := by
  induction rest with
  | nil => exact .single (.finish _ number uids _ rfl)
  | cons callback rest ih =>
    rw [List.forall_mem_cons] at all
    exact .head (.skip _ number uids callback rest _ all.1 rfl) (ih all.2)

/-- The loop of `DiscoveryComplete` serves the callbacks that are left. -/
theorem runCallbacks_moves :
    Service.Moves
      { world.service with completing := ⟨number, uids, rest⟩ :: world.service.completing }
      (world.runCallbacks number uids rest).service := by
  induction rest with
  | nil =>
    refine .head ?_ (takeNextAction_moves _)
    exact .finish _ number uids _ rfl
  | cons callback rest ih =>
    unfold runCallbacks
    split
    · rename_i null
      exact .head (.skip _ number uids callback rest _ null rfl) ih
    · have move := Service.Move.serve
        { world.service with
          completing := ⟨number, uids, callback :: rest⟩ :: world.service.completing }
        number uids callback rest _ rfl
      apply Relation.ReflTransGen.single
      convert move using 1
      simp [service, Frame.completing?, Event.isDiscovery]

end

/-- Completing the only discovery that is running leaves none. -/
theorem running_eraseIdx {outstanding : List Operation} {running number index : Nat}
    (alone : outstanding.filterMap Operation.discovery? = [running])
    (found : outstanding[index]? = some (.discovery number)) :
    running = number ∧ (outstanding.eraseIdx index).filterMap Operation.discovery? = [] := by
  obtain ⟨before, after, split, erased⟩ := eraseIdx_split found
  rw [split] at alone
  rw [erased]
  simp only [List.filterMap_append, List.filterMap_cons, Operation.discovery?,
    List.append_eq_singleton_iff, List.cons.injEq] at alone ⊢
  rcases alone with ⟨none, rfl, rest⟩ | ⟨-, impossible⟩
  · exact ⟨rfl, by rw [none, rest, List.append_nil]⟩
  · cases impossible

theorem running_mem {outstanding : List Operation} {number index : Nat}
    (found : outstanding[index]? = some (.discovery number)) :
    number ∈ outstanding.filterMap Operation.discovery? :=
  List.mem_filterMap.mpr ⟨_, List.mem_of_getElem? found, rfl⟩

theorem discovered_moves (ledger : Ledger world.service) (index : Nat) (uids : UIDSet) :
    Service.Moves world.service (world.discovered index uids).service := by
  unfold discovered
  split
  · rename_i number found
    have member : number ∈ world.service.running := running_mem found
    cases ledger.phase with
    | idle _ none | completing _ _ _ _ _ _ none => simp [none] at member
    | running current full busy alone completing =>
      obtain ⟨rfl, none⟩ := running_eraseIdx alone found
      have moves := runCallbacks_moves
        { world with
          outstanding := world.outstanding.eraseIdx index
          log := world.log ++ [.completed current uids] } current uids world.discoveryCallbacks
      refine .head ?_ moves
      convert Service.Move.complete world.service current uids alone using 1
      simp [service, none, Event.isDiscovery]
  · exact .refl

theorem callbackReturns_moves : Service.Moves world.service world.callbackReturns.service := by
  unfold callbackReturns
  split
  · exact .refl
  · rename_i request frames top
    have moves := finishRequest_moves { world with frames := frames } request
    convert moves using 1
    rw [service, top, List.filterMap_cons_none rfl]
    rfl
  · rename_i number uids rest frames top
    have moves := runCallbacks_moves { world with frames := frames } number uids rest
    convert moves using 1
    simp [service, top, Frame.completing?]

theorem answer_moves (index : Nat) (reply : Reply) :
    Service.Moves world.service (world.answer index reply).service := by
  unfold answer
  split
  · rename_i ticket continuation found
    have moves := handleRDMResponse_moves
      { world with
        outstanding := world.outstanding.eraseIdx index
        log := world.log ++ [.answered ticket reply] } reply
    convert moves using 1
    obtain ⟨before, after, split, erased⟩ := eraseIdx_split found
    have same : (before ++ Operation.request ticket continuation :: after).filterMap
        Operation.discovery? = (before ++ after).filterMap Operation.discovery? := by
      rw [List.filterMap_append, List.filterMap_append, List.filterMap_cons_none rfl]
    rw [service, service, erased, split, same]
    simp [Event.isDiscovery]
  · exact .refl

theorem sendRDMRequest_moves (request : Command) (onComplete : Bool) :
    Service.Moves world.service (world.sendRDMRequest request onComplete).service := by
  unfold sendRDMRequest
  split
  · simp [service, Event.isDiscovery]
    exact .refl
  · have moves := takeNextAction_moves
      { world with
        pendingRequests := world.pendingRequests ++ [⟨world.tickets, request, onComplete⟩]
        log := world.log ++ [.accepted ⟨world.tickets, request, onComplete⟩]
        tickets := world.tickets + 1 }
    convert moves using 1
    simp [service, Event.isDiscovery]

/-- Every step of a world is made of moves of its discovery part. -/
theorem step_moves (ledger : Ledger world.service) (input : Input) :
    Service.Moves world.service (world.step input).service := by
  unfold step
  split
  · exact .refl
  · cases input with
    | sendRDMRequest request onComplete => exact world.sendRDMRequest_moves request onComplete
    | pause => exact .refl
    | resume =>
      rw [resume, maybeSendRDMRequest_service]
      exact .refl
    | runFullDiscovery callback => exact world.genericDiscovery_moves callback true
    | runIncrementalDiscovery callback => exact world.genericDiscovery_moves callback false
    | answer index reply => exact world.answer_moves index reply
    | discovered index uids => exact world.discovered_moves ledger index uids
    | callbackReturns => exact world.callbackReturns_moves

theorem initial_ledger (kind : Kind) (maxQueueSize : Nat) :
    Ledger (World.initial kind maxQueueSize).service := by
  constructor
  · exact .idle rfl rfl rfl (by simp [Settled, initial, service])
  · exact justified_nil _
  · exact fun _ => ⟨rfl, rfl⟩
  all_goals simp [initial, service, Service.unserved, Service.waiting, Controller.new]

/-- The discovery events of every run are in order. -/
theorem run_ledger (kind : Kind) (maxQueueSize : Nat) (inputs : List Input) :
    Ledger (run step (World.initial kind maxQueueSize) inputs).service := by
  have invariant := @run_invariant World Input step (fun _ _ => True)
    (fun world => Ledger world.service) (fun world input ledger _ =>
      ledger.moves (world.step_moves ledger input)) (World.initial kind maxQueueSize) inputs
  exact invariant (initial_ledger kind maxQueueSize) (permitted_true _ _ _)

end Moves

end World

end OpenLighting.QueueingController
