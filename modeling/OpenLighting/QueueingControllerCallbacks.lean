import OpenLighting.QueueingControllerRefinement

namespace OpenLighting.QueueingController

open OpenLighting.Rdm TransitionSystem

def World.insideRequest (world : World) : Bool :=
  match world.frames with
  | .handleRDMResponse _ :: _ => true
  | _ => false

/-- The calls come from outside or from inside discovery callbacks, and the
controller is never paused. A callback for a request that makes no calls gives the
controller below no chance to complete anything either. -/
def Unpaused (world : World) : Input → Prop
  | .pause | .resume => False
  | .callbackReturns => True
  | _ => world.insideRequest = false

instance (world : World) (input : Input) : Decidable (Unpaused world input) := by
  cases input <;> unfold Unpaused <;> infer_instance

namespace World

def RequestOutstanding (world : World) : Prop :=
  ∃ ticket continuation, Operation.request ticket continuation ∈ world.outstanding

/-- A discovery that is wanted will be thought of: something is going on that ends
with `TakeNextAction`. -/
inductive Lively (world : World) : Prop where
  | calm (sound : world.fault = false) (active : world.active = true)
      (outside : ∀ request, Frame.handleRDMResponse request ∉ world.frames)
      (flagged : world.rdmRequestPending = true →
        world.pendingRequests ≠ [] ∧ world.RequestOutstanding)
      (wanted : world.pendingDiscoveryCallbacks ≠ [] → world.rdmRequestPending = true ∨
        world.discoveryCallbacks ≠ [] ∨
        (world.pendingRequests ≠ [] ∧ world.RequestOutstanding))
  | inside (request : OutstandingRequest) (rest : List OutstandingRequest) (frames : List Frame)
      (sound : world.fault = false) (active : world.active = true)
      (top : world.frames = .handleRDMResponse request :: frames)
      (outside : ∀ request, Frame.handleRDMResponse request ∉ frames)
      (front : world.pendingRequests = request :: rest)
      (unflagged : world.rdmRequestPending = false)

section Lively
variable {world : World}

theorem blocked_cases (active : world.active = true)
    (blocked : world.checkForBlockingCondition = true) :
    world.rdmRequestPending = true ∨ world.discoveryCallbacks ≠ [] := by
  unfold Controller.checkForBlockingCondition at blocked
  rw [active] at blocked
  cases kind : world.kind with
  | queueing =>
    rw [kind] at blocked
    exact .inl (by simpa using blocked)
  | discoverable =>
    rw [kind] at blocked
    simpa using blocked

section

variable (sound : world.fault = false) (active : world.active = true)
  (outside : ∀ request, Frame.handleRDMResponse request ∉ world.frames)
  (flagged : world.rdmRequestPending = true → world.pendingRequests ≠ [] ∧ world.RequestOutstanding)
  (plain : world.kind = .queueing → world.pendingDiscoveryCallbacks = [])
include sound active outside flagged plain

theorem takeNextAction_lively : Lively world.takeNextAction := by
  rcases world.takeNextAction_cases with ⟨same, reason⟩ | ⟨front, rest, -, queued, none, sends⟩ |
    ⟨-, -, -, starts⟩
  · rw [same]
    refine .calm sound active outside flagged ?_
    intro wanted
    rcases reason with blocked | ⟨-, quiet⟩
    · rcases blocked_cases active blocked with pending | busy
      · exact .inl pending
      · exact .inr (.inl busy)
    · cases kind : world.kind with
      | queueing => exact absurd (plain kind) wanted
      | discoverable => exact absurd (quiet kind) wanted
  · rw [sends]
    have outstanding : RequestOutstanding (world.sent front) :=
      ⟨front.ticket, false, by simp [sent]⟩
    have nonempty : (world.sent front).pendingRequests ≠ [] := by
      show world.pendingRequests ≠ []
      rw [queued]
      exact List.cons_ne_nil _ _
    exact .calm sound active outside (fun _ => ⟨nonempty, outstanding⟩) (fun _ => .inl rfl)
  · rw [starts]
    refine .calm sound active outside ?_ (fun wanted => absurd rfl wanted)
    intro pending
    obtain ⟨nonempty, ticket, continuation, member⟩ := flagged pending
    exact ⟨nonempty, ticket, continuation, List.mem_append_left _ member⟩

theorem runCallbacks_lively (busy : world.discoveryCallbacks ≠ []) (number : Nat) (uids : UIDSet)
    (rest : List DiscoveryCallback) : Lively (world.runCallbacks number uids rest) := by
  induction rest with
  | nil => exact takeNextAction_lively sound active outside flagged plain
  | cons callback rest ih =>
    unfold runCallbacks
    split
    · exact ih
    · refine .calm sound active ?_ flagged (fun _ => .inr (.inl busy))
      intro request member
      rcases List.mem_cons.mp member with other | member
      · cases other
      · exact outside request member

end

theorem finishRequest_lively {request : OutstandingRequest} {rest : List OutstandingRequest}
    (sound : world.fault = false) (active : world.active = true)
    (outside : ∀ request, Frame.handleRDMResponse request ∉ world.frames)
    (front : world.pendingRequests = request :: rest)
    (unflagged : world.rdmRequestPending = false)
    (plain : world.kind = .queueing → world.pendingDiscoveryCallbacks = []) :
    Lively (world.finishRequest request) := by
  unfold finishRequest
  rw [front]
  simp only [↓reduceIte]
  refine takeNextAction_lively sound active outside ?_ plain
  intro pending
  rw [unflagged] at pending
  cases pending

theorem handleRDMResponse_lively (sound : world.fault = false) (active : world.active = true)
    (outside : ∀ request, Frame.handleRDMResponse request ∉ world.frames)
    (wanted : world.pendingRequests = [] → world.pendingDiscoveryCallbacks ≠ [] →
      world.discoveryCallbacks ≠ [])
    (plain : world.kind = .queueing → world.pendingDiscoveryCallbacks = [])
    (reply : Reply) : Lively (world.handleRDMResponse reply) := by
  unfold handleRDMResponse
  dsimp only
  split
  · rename_i none
    exact .calm sound active outside nofun (fun some => .inr (.inl (wanted none some)))
  · rename_i front rest queued
    split
    · unfold dispatchNextRequest
      simp only [queued]
      refine .calm sound active outside nofun ?_
      intro _
      refine .inr (.inr ⟨List.cons_ne_nil _ _, front.ticket, true, ?_⟩)
      simp
    · split
      · exact .inside front rest world.frames sound active rfl outside queued rfl
      · exact @finishRequest_lively
          { world with
            rdmRequestPending := false
            packets := world.packets ++ reply.packets
            response := (receive world.response reply).2.1 } _ _
          sound active outside queued rfl plain

theorem inside_returns {input : Input} {request : OutstandingRequest} {frames : List Frame}
    (top : world.frames = .handleRDMResponse request :: frames)
    (permitted : Unpaused world input) : input = .callbackReturns := by
  have inside : world.insideRequest ≠ false := by
    rw [insideRequest, top]
    exact nofun
  cases input with
  | callbackReturns => rfl
  | pause | resume => exact permitted.elim
  | sendRDMRequest | runFullDiscovery | runIncrementalDiscovery | answer | discovered =>
    exact absurd permitted inside

theorem genericDiscovery_lively (lively : Lively world)
    (outside : ∀ request, Frame.handleRDMResponse request ∉ world.frames) (callback full : Bool) :
    Lively (world.genericDiscovery callback full) := by
  cases lively with
  | inside request _ _ _ _ top =>
    exact absurd (top ▸ List.mem_cons_self) (outside request)
  | calm sound active _ flagged wanted =>
    unfold genericDiscovery
    split
    · exact .calm sound active outside flagged wanted
    · rename_i discoverable
      refine takeNextAction_lively sound active outside flagged ?_
      intro queueing
      rw [discoverable] at queueing
      cases queueing

/-- Every step keeps the discoveries that are wanted in mind. -/
theorem step_lively (lively : Lively world) (ledger : Ledger world.service) {input : Input}
    (permitted : Unpaused world input) : Lively (world.step input) := by
  have plain : world.kind = .queueing → world.pendingDiscoveryCallbacks = [] :=
    fun queueing => (ledger.plain queueing).2
  cases lively with
  | inside request rest frames sound active top outside front unflagged =>
    obtain rfl := inside_returns top permitted
    rw [step, if_neg (by simp [sound])]
    rw [callbackReturns, top]
    exact @finishRequest_lively { world with frames := frames } request rest sound active
      outside front unflagged plain
  | calm sound active outside flagged wanted =>
    unfold step
    rw [if_neg (by simp [sound])]
    cases input with
    | pause | resume => exact permitted.elim
    | sendRDMRequest request onComplete =>
      show Lively (world.sendRDMRequest request onComplete)
      unfold sendRDMRequest
      split
      · exact .calm sound active outside flagged wanted
      · refine takeNextAction_lively sound active outside ?_ plain
        intro pending
        exact ⟨by simp, (flagged pending).2⟩
    | runFullDiscovery callback =>
      exact genericDiscovery_lively (.calm sound active outside flagged wanted) outside
        callback true
    | runIncrementalDiscovery callback =>
      exact genericDiscovery_lively (.calm sound active outside flagged wanted) outside
        callback false
    | answer index reply =>
      show Lively (world.answer index reply)
      unfold answer
      split
      · rename_i ticket continuation found
        refine @handleRDMResponse_lively
          { world with
            outstanding := world.outstanding.eraseIdx index
            log := world.log ++ [.answered ticket reply] }
          sound active outside ?_ plain reply
        intro none some
        rcases wanted some with pending | busy | ⟨nonempty, -⟩
        · exact absurd none (flagged pending).1
        · exact busy
        · exact absurd none nonempty
      · exact .calm sound active outside flagged wanted
    | discovered index uids =>
      show Lively (world.discovered index uids)
      unfold discovered
      split
      · rename_i number found
        have busy : world.discoveryCallbacks ≠ [] := by
          intro vacant
          have member : number ∈ world.service.running := running_mem found
          rw [(ledger.idle vacant).1] at member
          cases member
        refine @runCallbacks_lively
          { world with
            outstanding := world.outstanding.eraseIdx index
            log := world.log ++ [.completed number uids] }
          sound active outside ?_ plain busy number uids _
        intro pending
        obtain ⟨nonempty, ticket, continuation, member⟩ := flagged pending
        refine ⟨nonempty, ticket, continuation, ?_⟩
        obtain ⟨before, after, split, erased⟩ := eraseIdx_split found
        rw [erased]
        rw [split] at member
        simpa using member
      · exact .calm sound active outside flagged wanted
    | callbackReturns =>
      show Lively world.callbackReturns
      unfold callbackReturns
      split
      · exact .calm sound active outside flagged wanted
      · rename_i request frames top
        exact absurd (top ▸ List.mem_cons_self) (outside request)
      · rename_i number uids rest frames top
        have busy : world.discoveryCallbacks ≠ [] := by
          intro vacant
          have none : world.service.completing = [] := (ledger.idle vacant).2.1
          rw [service, top] at none
          simp [Frame.completing?] at none
        refine @runCallbacks_lively { world with frames := frames } sound active ?_ flagged
          plain busy number uids rest
        intro request member
        apply outside request
        rw [top]
        exact List.mem_cons_of_mem _ member

end Lively

end World

open World

/-- In every run the discovery events are in order: each is backed by what came
before it. Where no call is made from inside the callback of a request and the
controller is not paused, every callback that was registered has been run once
nothing is outstanding and no callback is running. -/
theorem discovery_callbacks_served (kind : Kind) (maxQueueSize : Nat) (inputs : List Input) :
    let world := run step (World.initial kind maxQueueSize) inputs
    Justified Backed (world.log.filter Event.isDiscovery) ∧
      (Permitted step Unpaused (World.initial kind maxQueueSize) inputs →
        world.fault = false ∧
        (world.outstanding = [] → world.frames = [] →
          ∀ callback full, Event.registered callback full ∈ world.log → callback.null = false →
            ∃ number uids, Event.served callback number uids ∈ world.log)) := by
  have ledger := run_ledger kind maxQueueSize inputs
  refine ⟨ledger.justified, ?_⟩
  intro permitted
  have lively : Lively (run step (World.initial kind maxQueueSize) inputs) := by
    have both := @run_invariant World Input step Unpaused
      (fun world => Ledger world.service ∧ Lively world)
      (fun world input invariant ok =>
        ⟨invariant.1.moves (world.step_moves invariant.1 input),
          step_lively invariant.2 invariant.1 ok⟩)
      (World.initial kind maxQueueSize) inputs
    refine (both ⟨initial_ledger kind maxQueueSize, ?_⟩ permitted).2
    exact .calm rfl rfl (by simp [World.initial]) nofun (fun wanted => absurd rfl wanted)
  cases lively with
  | inside request rest frames sound _ top =>
    refine ⟨sound, ?_⟩
    intro _ none
    rw [top] at none
    cases none
  | calm sound _ _ flagged wanted =>
    refine ⟨sound, ?_⟩
    intro nothing idle callback full registered given
    have vacant : (run step (World.initial kind maxQueueSize) inputs).discoveryCallbacks = [] :=
      ledger.vacant (by rw [service, nothing]; rfl) (by rw [service, idle]; rfl)
    have unflagged (ticket : Nat) (continuation : Bool) : Operation.request ticket continuation ∉
        (run step (World.initial kind maxQueueSize) inputs).outstanding := by
      rw [nothing]
      exact List.not_mem_nil
    have quiet : (run step (World.initial kind maxQueueSize) inputs).pendingDiscoveryCallbacks =
        [] := by
      by_contra some
      rcases wanted some with pending | busy | ⟨-, ticket, continuation, member⟩
      · obtain ⟨-, ticket, continuation, member⟩ := flagged pending
        exact unflagged ticket continuation member
      · exact busy vacant
      · exact unflagged ticket continuation member
    have none : (run step (World.initial kind maxQueueSize) inputs).service.unserved = [] := by
      rw [Service.unserved, Service.waiting, (ledger.idle vacant).2.1]
      simp [service, vacant, quiet]
    have event : Event.registered callback full ∈
        (run step (World.initial kind maxQueueSize) inputs).service.events :=
      List.mem_filter.mpr ⟨registered, rfl⟩
    rcases ledger.accounted callback full event given with waiting | ⟨number, uids, served⟩
    · rw [none] at waiting
      cases waiting
    · exact ⟨number, uids, (List.mem_filter.mp served).1⟩

/-- A callback that asks for another discovery. -/
theorem discovery_callbacks_served_twice :
    let inputs : List Input := [.runFullDiscovery true, .discovered 0 ∅,
      .runIncrementalDiscovery true, .callbackReturns, .discovered 0 ∅, .callbackReturns]
    let world := run step (World.initial .discoverable 1) inputs
    ∃ number uids, Event.served ⟨1, false⟩ number uids ∈ world.log :=
  (discovery_callbacks_served .discoverable 1 [.runFullDiscovery true, .discovered 0 ∅,
      .runIncrementalDiscovery true, .callbackReturns, .discovered 0 ∅, .callbackReturns]).2
    (by decide) |>.2 rfl rfl ⟨1, false⟩ false (by decide) rfl

end OpenLighting.QueueingController
