import OpenLighting.DmxterWidget

namespace OpenLighting.Dmxter

open OpenLighting.Rdm TransitionSystem QueueingController.World List
open OpenLighting.QueueingController (Reply OutstandingRequest Complete Underway account)
open OpenLighting.QueueingController.World (Serial Plain)

section Replies
variable {request : Command} {packet : List UInt8}

theorem transactionNumber_of_matched {header : CommandHeader} {transactionNumber : UInt8}
    (matched : matchRequest header request transactionNumber = .completedOk) :
    header.transactionNumber = transactionNumber := by
  by_contra other
  unfold matchRequest at matched
  dsimp only at matched
  split at matched
  · cases matched
  · split at matched
    · cases matched
    · cases matched

theorem inflateFromData_cases (request : Command) (packet : List UInt8) :
    inflateFromData packet (some request) = inflateFromData packet none ∨
      ∃ code, inflateFromData packet (some request) = .ok (code, none) := by
  unfold inflateFromData inflateResponse
  cases verifyData packet with
  | error reason => exact Or.inl rfl
  | ok verdict =>
    cases verdict with
    | error code => exact Or.inl rfl
    | ok header =>
      dsimp only [bind, Except.bind]
      by_cases matched : matchRequest header request request.transactionNumber = .completedOk
      · left
        rw [if_neg (not_not_intro matched), if_neg (not_not_intro rfl),
          ← transactionNumber_of_matched matched]
        rfl
      · exact Or.inr ⟨_, if_pos matched⟩

/-- Where it fits the request this makes no difference. -/
theorem inflateFromData_fits (fit : fits request packet = true) : ∃ code code' response,
    inflateFromData packet none = .ok (code, response) ∧
      inflateFromData packet (some request) = .ok (code', response) := by
  unfold fits at fit
  rcases inflateFromData_cases request packet with same | ⟨code', nothing⟩
  · rw [same] at fit ⊢
    cases inflated : inflateFromData packet none with
    | error reason =>
      rw [inflated] at fit
      cases fit
    | ok result => exact ⟨_, _, _, rfl, rfl⟩
  · rw [nothing] at fit ⊢
    cases inflated : inflateFromData packet none with
    | error reason =>
      rw [inflated] at fit
      cases fit
    | ok result =>
      have ⟨code, response⟩ := result
      cases response with
      | none => exact ⟨code, code', none, rfl, rfl⟩
      | some response =>
        rw [inflated] at fit
        cases fit

theorem responseCode_completed (code : Option WidgetCode) (waitingForDub : Bool) :
    responseCode code waitingForDub = .completedOk ↔ responseCode code false = .completedOk := by
  cases code with
  | none => rfl
  | some code =>
    cases code with
    | goodLevel => cases waitingForDub <;> decide
    | _ => rfl

/-- The callback is run with what it should be run with. -/
theorem rdmReply_fits {isDub waitingForDub : Bool} {data : List UInt8}
    (fit : ∀ packet ∈ goodPacket isDub data, fits request packet = true) :
    ∃ reply, rdmReply none waitingForDub isDub data = .ok reply ∧
      rdmReply (some request) waitingForDub isDub data = .ok reply := by
  unfold rdmReply
  split
  next version code rest =>
    split
    · exact ⟨_, rfl, rfl⟩
    next zero =>
      dsimp only
      split
      next good =>
        have member : (version :: code :: rest).drop (if isDub then 2 else 3) ∈
            goodPacket isDub (version :: code :: rest) :=
          if_pos ⟨not_not.mp zero, (responseCode_completed _ _).mp good⟩
        have ⟨_, _, response, first, second⟩ := inflateFromData_fits (fit _ member)
        rw [first, second]
        cases response with
        | none | some response => exact ⟨_, rfl, rfl⟩
      next => exact ⟨_, rfl, rfl⟩
  next => exact ⟨_, rfl, rfl⟩

end Replies

/-- The log has grown by events that are no answers. -/
def Grown (before after : List QueueingController.Event) : Prop :=
  ∃ events, after = before ++ events ∧ answers events = []

section Logs
variable {log middle after : List QueueingController.Event}

theorem grown_refl (log : List QueueingController.Event) : Grown log log :=
  ⟨[], (append_nil log).symm, rfl⟩

theorem Grown.trans (first : Grown log middle) (second : Grown middle after) :
    Grown log after := by
  have ⟨events, grown, silent⟩ := first
  have ⟨events', grown', silent'⟩ := second
  refine ⟨events ++ events', by rw [grown', grown, append_assoc], ?_⟩
  unfold answers at silent silent' ⊢
  rw [filterMap_append, silent, silent', append_nil]

theorem Grown.answers_eq (grown : Grown log after) : answers after = answers log := by
  have ⟨events, same, silent⟩ := grown
  unfold answers at silent ⊢
  rw [same, filterMap_append, silent, append_nil]

theorem Grown.mem (grown : Grown log after) {event : QueueingController.Event}
    (member : event ∈ log) : event ∈ after := by
  have ⟨events, same, _⟩ := grown
  rw [same]
  exact mem_append_left _ member

end Logs

section Controllers
variable {controller : QueueingController.World}

theorem takeNextAction_grown (controller : QueueingController.World) :
    Grown controller.log controller.takeNextAction.log := by
  rcases controller.takeNextAction_cases with ⟨same, _⟩ | ⟨front, _, _, _, _, sends⟩ |
    ⟨_, _, _, starts⟩
  · rw [same]
    exact grown_refl _
  · rw [sends]
    exact ⟨_, rfl, rfl⟩
  · rw [starts]
    exact ⟨_, rfl, rfl⟩

theorem sendRDMRequest_grown (request : Command) (onComplete : Bool) :
    Grown controller.log (controller.sendRDMRequest request onComplete).log := by
  unfold sendRDMRequest
  split
  · exact ⟨_, rfl, rfl⟩
  · apply Grown.trans _ (takeNextAction_grown _)
    exact ⟨_, rfl, rfl⟩

theorem finishRequest_grown (request : OutstandingRequest) :
    Grown controller.log (controller.finishRequest request).log := by
  unfold finishRequest
  split
  · exact grown_refl _
  · split
    · exact takeNextAction_grown _
    · exact grown_refl _

theorem handleRDMResponse_grown (reply : Reply) :
    Grown controller.log (controller.handleRDMResponse reply).log := by
  unfold handleRDMResponse
  dsimp only
  split
  · exact grown_refl _
  · split
    · unfold dispatchNextRequest
      split
      · exact grown_refl _
      · exact ⟨_, rfl, rfl⟩
    · split
      · exact ⟨_, rfl, rfl⟩
      · exact finishRequest_grown _

theorem callbackReturns_grown (serial : Serial controller) :
    Grown controller.log controller.callbackReturns.log := by
  unfold callbackReturns
  cases serial with
  | idle _ _ _ frames | waiting _ _ _ _ _ _ _ frames =>
    rw [frames]
    exact grown_refl _
  | running front _ _ _ _ frames =>
    rw [frames]
    exact @finishRequest_grown { controller with frames := [] } front

/-- Without anything in the queues there is nothing to do. -/
theorem takeNextAction_empty (plain : Plain controller) (queue : controller.pendingRequests = []) :
    controller.takeNextAction = controller := by
  rcases controller.takeNextAction_cases with ⟨same, _⟩ | ⟨front, rest, _, waiting, _⟩ |
    ⟨_, _, wanted, _⟩
  · exact same
  · rw [queue] at waiting
    cases waiting
  · exact absurd plain.quiet wanted

end Controllers

section Exchanges
variable {uid : UID} {log after : List QueueingController.Event} {exchanges : List Exchange}

theorem Exchanged.grow (exchanged : Exchanged uid log exchanges) (grown : Grown log after) :
    Exchanged uid after exchanges where
  handed := exchanged.handed
  outcome := exchanged.outcome
  request exchange member := by
    have ⟨request, transactionNumber, accepted, same⟩ := exchanged.request exchange member
    exact ⟨request, transactionNumber, grown.mem accepted, same⟩
  own := grown.answers_eq.trans exchanged.own

/-- One more request is answered. -/
theorem Exchanged.note (exchanged : Exchanged uid log exchanges) {front : OutstandingRequest}
    {transactionNumber : UInt8} {answer : Answer} {reply : Reply}
    (accepted : .accepted front ∈ log) (handed : answer ≠ .dropped)
    (outcome : Exchange.outcome ⟨front.ticket, { front.request with
      source := uid
      transactionNumber := transactionNumber
      portId := 1 }, answer, reply⟩ = .ok reply) :
    Exchanged uid (log ++ [.answered front.ticket reply]) (exchanges ++ [⟨front.ticket,
      { front.request with
        source := uid
        transactionNumber := transactionNumber
        portId := 1 }, answer, reply⟩]) where
  handed exchange member := by
    rcases mem_append.mp member with old | new
    · exact exchanged.handed exchange old
    · rw [mem_singleton.mp new]
      exact handed
  outcome exchange member := by
    rcases mem_append.mp member with old | new
    · exact exchanged.outcome exchange old
    · rw [mem_singleton.mp new]
      exact outcome
  request exchange member := by
    rcases mem_append.mp member with old | new
    · have ⟨request, number, before, same⟩ := exchanged.request exchange old
      exact ⟨request, number, mem_append_left _ before, same⟩
    · rw [mem_singleton.mp new]
      exact ⟨front, transactionNumber, mem_append_left _ accepted, rfl, rfl⟩
  own := by
    have own := exchanged.own
    unfold answers at own ⊢
    rw [filterMap_append, own, map_append]
    rfl

end Exchanges

/-- Where the widget stands. -/
inductive Phase (world : World) : Prop where
  | resting (nothing : world.controller.outstanding = []) (control : world.calling = false)
      (slot : world.widget.rdmRequestCallback = world.broadcasting)
      (alone : world.broadcasting = true →
        world.controller.frames ≠ [] ∧ world.controller.pendingRequests.length = 1)
  | calling (something : world.controller.outstanding ≠ []) (control : world.calling = true)
      (slot : world.widget.rdmRequestCallback = false) (done : world.broadcasting = false)
  | asked (front : OutstandingRequest) (rest : List OutstandingRequest)
      (transactionNumber : UInt8) (something : world.controller.outstanding ≠ [])
      (control : world.calling = false) (slot : world.widget.rdmRequestCallback = true)
      (done : world.broadcasting = false)
      (queue : world.controller.pendingRequests = front :: rest)
      (pending : world.widget.pendingRequest = some front.request)
      (sent : world.sent = some (front.ticket, { front.request with
        source := world.widget.uid
        transactionNumber := transactionNumber
        portId := 1 }))

/-- The invariant. -/
structure Inv (world : World) : Prop where
  serial : Serial world.controller
  exchanged : Exchanged world.widget.uid world.controller.log world.exchanges
  phase : Phase world

section Phases
variable {world : World}

theorem settle_quiet (done : world.broadcasting = false) : world.settle = world := by
  rw [World.settle, done]
  rfl

theorem settle_running (running : world.controller.frames ≠ []) : world.settle = world := by
  have more : world.controller.frames.isEmpty = false := by
    rwa [isEmpty_eq_false_iff]
  rw [World.settle, more, Bool.and_false]
  rfl

theorem settle_returned (broadcasting : world.broadcasting = true)
    (control : world.calling = false) (returned : world.controller.frames = []) :
    world.settle = { world with
      widget := { world.widget with rdmRequestCallback := false }
      broadcasting := false } := by
  rw [World.settle, broadcasting, control, returned]
  rfl

/-- The controller goes on while the widget has no request. -/
theorem follow_inv {after : QueueingController.World} (serial : Serial after)
    (exchanged : Exchanged world.widget.uid after.log world.exchanges)
    (slot : world.widget.rdmRequestCallback = world.broadcasting)
    (alone : world.broadcasting = true → after.outstanding = [] ∧
      (after.frames ≠ [] → after.pendingRequests.length = 1)) : Inv (world.follow 0 after) := by
  unfold World.follow
  cases broadcasting : world.broadcasting with
  | false =>
    rw [settle_quiet rfl]
    refine ⟨serial, exchanged, ?_⟩
    rw [broadcasting] at slot
    cases outstanding : after.outstanding with
    | nil => exact .resting outstanding rfl slot nofun
    | cons operation rest =>
      have more : 0 < (operation :: rest).length := Nat.succ_pos rest.length
      refine .calling ?_ (decide_eq_true more) slot rfl
      rw [outstanding]
      exact cons_ne_nil _ _
  | true =>
    have ⟨nothing, single⟩ := alone broadcasting
    rw [nothing]
    by_cases returned : after.frames = []
    · rw [settle_returned rfl rfl returned]
      exact ⟨serial, exchanged, .resting nothing rfl rfl nofun⟩
    · rw [settle_running returned]
      refine ⟨serial, exchanged, .resting nothing rfl (slot.trans broadcasting) ?_⟩
      exact fun _ => ⟨returned, single returned⟩

theorem front_of_something (serial : Serial world.controller)
    (something : world.controller.outstanding ≠ []) : ∃ front rest continuation,
      world.controller.pendingRequests = front :: rest ∧
        world.controller.outstanding = [.request front.ticket continuation] ∧
        world.controller.frames = [] ∧ .accepted front ∈ world.controller.log := by
  cases serial with
  | idle _ _ outstanding | running _ _ _ _ outstanding => exact absurd outstanding something
  | waiting front rest continuation _ _ queue outstanding frames _ _ _ books =>
    exact ⟨front, rest, continuation, queue, outstanding, frames,
      books.queued front mem_cons_self⟩

variable {front : OutstandingRequest} {continuation : Bool} {controller : QueueingController.World}

theorem answer_grown (serial : Serial world.controller)
    (outstanding : world.controller.outstanding = [.request front.ticket continuation])
    (reply : Reply) :
    Grown (world.controller.log ++ [.answered front.ticket reply])
      (world.controller.step (.answer 0 reply)).log := by
  have found : world.controller.outstanding[0]? = some (.request front.ticket continuation) := by
    rw [outstanding]
    rfl
  unfold QueueingController.World.step
  rw [if_neg (by rw [serial.sound]; exact Bool.false_ne_true)]
  dsimp only
  unfold answer
  rw [found]
  exact handleRDMResponse_grown _

theorem finishRequest_last {controller : QueueingController.World} (plain : Plain controller)
    {front : OutstandingRequest} (queue : controller.pendingRequests = [front])
    (nothing : controller.outstanding = []) (returned : controller.frames = []) :
    (controller.finishRequest front).outstanding = [] ∧
      (controller.finishRequest front).frames = [] := by
  unfold finishRequest
  simp only [queue, ↓reduceIte]
  have empty := @takeNextAction_empty { controller with
    packets := []
    response := none
    pendingRequests := [] } { plain with } rfl
  rw [empty]
  exact ⟨nothing, returned⟩

/-- A request that does not ask for more is the last if it is alone. -/
theorem answer_alone (serial : Serial world.controller)
    (queue : world.controller.pendingRequests = [front])
    (outstanding : world.controller.outstanding = [.request front.ticket continuation])
    {reply : Reply} (failed : reply.status ≠ .completedOk) :
    (world.controller.step (.answer 0 reply)).outstanding = [] ∧
      ((world.controller.step (.answer 0 reply)).frames ≠ [] →
        (world.controller.step (.answer 0 reply)).pendingRequests.length = 1) := by
  have found : world.controller.outstanding[0]? = some (.request front.ticket continuation) := by
    rw [outstanding]
    rfl
  have erased : world.controller.outstanding.eraseIdx 0 = [] := by
    rw [outstanding]
    rfl
  have frames : world.controller.frames = [] := by
    cases serial with
    | idle _ _ nothing | running _ _ _ _ nothing =>
      rw [nothing] at outstanding
      cases outstanding
    | waiting _ _ _ _ _ _ _ frames => exact frames
  have plain : Plain world.controller := by
    cases serial with
    | idle plain | waiting _ _ _ _ plain | running _ _ plain => exact plain
  unfold QueueingController.World.step
  rw [if_neg (by rw [serial.sound]; exact Bool.false_ne_true)]
  dsimp only
  unfold answer
  rw [found]
  rw [erased]
  unfold handleRDMResponse
  dsimp only
  rw [queue]
  have final : receive world.controller.response reply =
      (reply.status, none, false) := by
    unfold receive
    rw [if_neg failed]
  rw [final]
  dsimp only
  cases given : front.onComplete with
  | true => exact ⟨rfl, fun _ => rfl⟩
  | false =>
    have ⟨nothing, returned⟩ := @finishRequest_last { world.controller with
      pendingRequests := [front]
      rdmRequestPending := false
      packets := world.controller.packets ++ reply.packets
      response := none
      outstanding := []
      log := world.controller.log ++ [.answered front.ticket reply] }
      { plain with } front rfl rfl frames
    exact ⟨nothing, fun running => absurd returned running⟩

/-- The callback of a request that the device has got is run. -/
theorem complete_inv (serial : Serial world.controller)
    (exchanged : Exchanged world.widget.uid world.controller.log world.exchanges)
    {front : OutstandingRequest} {rest : List OutstandingRequest} {continuation : Bool}
    (queue : world.controller.pendingRequests = front :: rest)
    (outstanding : world.controller.outstanding = [.request front.ticket continuation])
    (accepted : .accepted front ∈ world.controller.log)
    (slot : world.widget.rdmRequestCallback = world.broadcasting) {transactionNumber : UInt8}
    {answer : Answer} {reply : Reply} (handed : answer ≠ .dropped)
    (outcome : Exchange.outcome ⟨front.ticket, { front.request with
      source := world.widget.uid
      transactionNumber := transactionNumber
      portId := 1 }, answer, reply⟩ = .ok reply)
    (alone : world.broadcasting = true → rest = [] ∧ reply.status ≠ .completedOk) :
    Inv (world.complete 0 ⟨front.ticket, { front.request with
      source := world.widget.uid
      transactionNumber := transactionNumber
      portId := 1 }, answer, reply⟩) := by
  unfold World.complete
  rw [show world.controller.outstanding.length - 1 = 0 by rw [outstanding]; rfl]
  apply follow_inv
  · exact step_serial serial trivial
  · exact (exchanged.note accepted handed outcome).grow (answer_grown serial outstanding reply)
  · exact slot
  · intro broadcasting
    have ⟨last, failed⟩ := alone broadcasting
    rw [last] at queue
    exact answer_alone serial queue outstanding failed

/-- A request that is submitted while one is on its way waits behind it. -/
theorem sendRDMRequest_waiting (serial : Serial controller)
    (something : controller.outstanding ≠ []) {request : Command} {onComplete : Bool}
    (sequential : QueueingController.Sequential controller (.sendRDMRequest request onComplete)) :
    (controller.sendRDMRequest request onComplete).outstanding = controller.outstanding ∧
      ∃ more, (controller.sendRDMRequest request onComplete).pendingRequests =
        controller.pendingRequests ++ more := by
  unfold sendRDMRequest
  split
  next => exact ⟨rfl, [], (append_nil _).symm⟩
  next room =>
    have ⟨_, ended⟩ := sequential.resolve_left room
    cases serial with
    | idle _ _ outstanding | running _ _ _ _ outstanding => exact absurd outstanding something
    | waiting _ _ continuation _ _ _ outstanding _ flag =>
      have first : continuation = false := by
        rw [continuing, outstanding] at ended
        simpa [QueueingController.Operation.isContinuation] using ended
      rw [first] at flag
      rw [takeNextAction_flagged]
      · exact ⟨rfl, _, rfl⟩
      · exact flag

theorem step_submit (serial : Serial controller) (request : Command) (onComplete : Bool) :
    controller.step (.sendRDMRequest request onComplete) =
      controller.sendRDMRequest request onComplete := by
  unfold QueueingController.World.step
  rw [if_neg (by rw [serial.sound]; exact Bool.false_ne_true)]

theorem step_return (serial : Serial controller) :
    controller.step .callbackReturns = controller.callbackReturns := by
  unfold QueueingController.World.step
  rw [if_neg (by rw [serial.sound]; exact Bool.false_ne_true)]

theorem submitted_inv (inv : Inv world) (control : world.calling = false) {request : Command}
    {onComplete : Bool} (sequential : QueueingController.Sequential world.controller
      (.sendRDMRequest request onComplete)) :
    Inv (world.follow world.controller.outstanding.length
      (world.controller.step (.sendRDMRequest request onComplete))) := by
  have ⟨serial, exchanged, phase⟩ := inv
  have next := step_serial serial sequential
  have grown := @sendRDMRequest_grown world.controller request onComplete
  rw [step_submit serial] at next ⊢
  cases phase with
  | calling _ called =>
    rw [control] at called
    cases called
  | resting nothing _ slot alone =>
    rw [nothing]
    apply follow_inv next (exchanged.grow grown) slot
    intro broadcasting
    have ⟨running, single⟩ := alone broadcasting
    rcases sequential with full | ⟨returned, _⟩
    · unfold sendRDMRequest
      rw [if_pos full]
      exact ⟨nothing, fun _ => single⟩
    · exact absurd (isEmpty_iff.mp returned) running
  | asked front rest transactionNumber something _ slot done queue pending sent =>
    have ⟨same, more, longer⟩ := sendRDMRequest_waiting serial something sequential
    unfold World.follow
    rw [settle_quiet (by exact done)]
    refine ⟨next, exchanged.grow grown, ?_⟩
    apply Phase.asked front (rest ++ more) transactionNumber
    · rwa [same]
    · rw [same]
      exact decide_eq_false (Nat.lt_irrefl _)
    · exact slot
    · exact done
    · rw [longer, queue, cons_append]
    · exact pending
    · exact sent

theorem handed_inv (inv : Inv world) (control : world.calling = true) (delivered : Bool) :
    Inv (world.sendRDMRequest delivered) := by
  have ⟨serial, exchanged, phase⟩ := inv
  cases phase with
  | resting _ called | asked _ _ _ _ called =>
    rw [control] at called
    cases called
  | calling something _ slot done =>
    have ⟨front, rest, continuation, queue, outstanding, frames, accepted⟩ :=
      front_of_something serial something
    unfold World.sendRDMRequest
    rw [queue, slot]
    cases delivered with
    | true =>
      exact ⟨serial, exchanged, .asked front rest world.widget.transactionNumber something rfl
        rfl done queue rfl rfl⟩
    | false =>
      rw [outstanding]
      apply @complete_inv { world with
        widget := { world.widget with
          rdmRequestCallback := false
          pendingRequest := none
          transactionNumber := world.widget.transactionNumber + 1 } } serial exchanged front
        rest continuation queue outstanding accepted done.symm
      · exact nofun
      · rfl
      · intro broadcasting
        rw [show world.broadcasting = true from broadcasting] at done
        cases done

/-- The request that the device has is answered with a message that is no broadcast. -/
theorem handleRDMResponse_inv (serial : Serial world.controller)
    (exchanged : Exchanged world.widget.uid world.controller.log world.exchanges)
    {rest : List OutstandingRequest} (queue : world.controller.pendingRequests = front :: rest)
    (outstanding : world.controller.outstanding = [.request front.ticket continuation])
    (accepted : .accepted front ∈ world.controller.log) (done : world.broadcasting = false)
    (pending : world.widget.pendingRequest = some front.request) {transactionNumber : UInt8}
    (sent : world.sent = some (front.ticket, { front.request with
      source := world.widget.uid
      transactionNumber := transactionNumber
      portId := 1 })) {label : UInt8} {data : List UInt8} (other : label ≠ rdmBcastRequestLabel)
    (fit : ∀ packet ∈ goodPacket (label == discoveryBranchLabel) data,
      fits { front.request with
        source := world.widget.uid
        transactionNumber := transactionNumber
        portId := 1 } packet = true) :
    Inv (world.handleRDMResponse label data (label == discoveryBranchLabel)) := by
  have ⟨reply, ran, right⟩ := @rdmReply_fits _ _ (isDUBRequest front.request) _ fit
  unfold World.handleRDMResponse
  rw [sent, pending]
  dsimp only [Option.map_some, Option.getD_some]
  rw [ran]
  apply @complete_inv { world with
    widget := { world.widget with rdmRequestCallback := false, pendingRequest := none }
    sent := none } serial exchanged front rest continuation queue outstanding accepted done.symm
  · exact nofun
  · unfold Exchange.outcome
    dsimp only
    rw [if_neg other]
    exact right
  · intro broadcasting
    rw [show world.broadcasting = true from broadcasting] at done
    cases done

theorem message_inv (inv : Inv world) {label : UInt8} {data : List UInt8}
    (outside : world.outside = true) (safe : Safe world (.message label data)) :
    Inv (world.handleMessage label data) := by
  have ⟨serial, exchanged, phase⟩ := inv
  have ⟨control, returned⟩ := Bool.and_eq_true_iff.mp outside
  unfold World.handleMessage
  cases phase with
  | calling _ called =>
    rw [called] at control
    cases control
  | resting nothing _ slot alone =>
    cases broadcasting : world.broadcasting with
    | false =>
      rw [slot, broadcasting]
      exact inv
    | true => exact absurd (isEmpty_iff.mp returned) (alone broadcasting).1
  | asked front rest transactionNumber something _ slot done queue pending sent =>
    have ⟨_, _, continuation, queue', outstanding, frames, accepted⟩ :=
      front_of_something serial something
    rw [queue] at queue'
    cases queue'
    rw [if_neg (not_not_intro slot)]
    have ⟨single, fit⟩ := safe outside _ sent
    have handled : label ≠ rdmBcastRequestLabel →
        label = rdmRequestLabel ∨ label = discoveryBranchLabel →
        Inv (world.handleRDMResponse label data (label == discoveryBranchLabel)) := by
      intro other answers
      exact handleRDMResponse_inv serial exchanged queue outstanding accepted done pending sent
        other (fit answers)
    split
    next dub =>
      subst dub
      exact handled (by decide) (Or.inr rfl)
    next =>
      split
      next plain =>
        subst plain
        exact handled (by decide) (Or.inl rfl)
      next =>
        split
        next broadcast =>
          have alone := single broadcast
          rw [queue, length_cons, Nat.succ_inj, length_eq_zero_iff] at alone
          unfold World.handleBroadcastRDMResponse
          rw [sent]
          apply @complete_inv { world with broadcasting := true, sent := none } serial exchanged
            front rest continuation queue outstanding accepted slot
          · exact nofun
          · rfl
          · exact fun _ => ⟨alone, nofun⟩
        next => exact inv

theorem returned_inv (inv : Inv world) (control : world.calling = false) :
    Inv (world.follow world.controller.outstanding.length
      (world.controller.step .callbackReturns)) := by
  have ⟨serial, exchanged, phase⟩ := inv
  have next := step_serial serial
    (show QueueingController.Sequential world.controller .callbackReturns from trivial)
  have grown := callbackReturns_grown serial
  rw [step_return serial] at next ⊢
  cases phase with
  | calling _ called =>
    rw [control] at called
    cases called
  | resting nothing _ slot alone =>
    rw [nothing]
    apply follow_inv next (exchanged.grow grown) slot
    intro broadcasting
    have ⟨running, single⟩ := alone broadcasting
    cases serial with
    | idle _ _ _ frames => exact absurd frames running
    | waiting _ _ _ _ _ _ outstanding =>
      rw [outstanding] at nothing
      cases nothing
    | running front rest plain queue _ frames =>
      rw [queue, length_cons, Nat.succ_inj, length_eq_zero_iff] at single
      rw [single] at queue
      have ⟨nothing', returned⟩ := @finishRequest_last { world.controller with frames := [] }
        { plain with } front queue nothing rfl
      unfold callbackReturns
      rw [frames]
      exact ⟨nothing', fun running => absurd returned running⟩
  | asked front rest transactionNumber something _ slot done queue pending sent =>
    have ⟨_, _, continuation, _, outstanding, frames, _⟩ :=
      front_of_something serial something
    have same : world.controller.callbackReturns = world.controller := by
      unfold callbackReturns
      rw [frames]
    rw [same]
    unfold World.follow
    rw [settle_quiet (by exact done)]
    exact ⟨serial, exchanged, .asked front rest transactionNumber something
      (decide_eq_false (Nat.lt_irrefl _)) slot done queue pending sent⟩

theorem step_inv (inv : Inv world) {input : Input} (safe : Safe world input) :
    Inv (step world input) := by
  unfold step
  rw [if_neg (by rw [inv.serial.sound]; exact Bool.false_ne_true)]
  cases input with
  | handed delivered =>
    dsimp only
    split
    next calling => exact handed_inv inv calling delivered
    next => exact inv
  | message label data =>
    dsimp only
    split
    next outside => exact message_inv inv outside safe
    next => exact inv
  | sendRDMRequest request onComplete =>
    dsimp only
    split
    next => exact inv
    next control =>
      rw [Bool.not_eq_true] at control
      exact submitted_inv inv control (safe control)
  | callbackReturns =>
    dsimp only
    split
    next => exact inv
    next control =>
      rw [Bool.not_eq_true] at control
      exact returned_inv inv control

theorem Inv.proper (inv : Inv world) : Proper world where
  sound := inv.serial.sound
  exchanged := inv.exchanged
  attributed := inv.serial.attributed
  complete outside slot := by
    have ⟨control, returned⟩ := Bool.and_eq_true_iff.mp outside
    apply inv.serial.complete _ (isEmpty_iff.mp returned)
    cases inv.phase with
    | resting nothing => exact nothing
    | calling _ called =>
      rw [called] at control
      cases control
    | asked _ _ _ _ _ full =>
      rw [slot] at full
      cases full

theorem new_inv (uid : UID) (maxQueueSize : Nat) : Inv (.new uid maxQueueSize) where
  serial := initial_serial .queueing maxQueueSize
  exchanged := ⟨fun _ member => absurd member not_mem_nil,
    fun _ member => absurd member not_mem_nil,
    fun _ member => absurd member not_mem_nil, rfl⟩
  phase := .resting rfl rfl rfl fun same => absurd same Bool.false_ne_true

end Phases

/-- In a run whose steps are safe every request is handed to the widget, and its callback is run
once with what its own answers come to. -/
theorem requests_answered (uid : UID) (maxQueueSize : Nat) (inputs : List Input)
    (safe : Permitted step Safe (.new uid maxQueueSize) inputs) :
    Proper (run step (.new uid maxQueueSize) inputs) :=
  (@run_invariant World Input step Safe Inv (fun _ _ inv ok => step_inv inv ok) _ inputs
    (new_inv uid maxQueueSize) safe).proper

def exampleUid : UID := ⟨0x4744, 7⟩

def exampleGet : Command := ⟨⟨1, 2⟩, ⟨3, 4⟩, 0, 1, 0, 0, .getCommand, 0x60, []⟩

def exampleBroadcast : Command := ⟨⟨1, 2⟩, ⟨3, 0xffffffff⟩, 0, 1, 0, 0, .setCommand, 0x60, []⟩

/-- A good answer to `exampleGet`, the first request of a run. -/
def exampleAnswer : List UInt8 :=
  [0, 14, 0xcc, 1, 25, 0x47, 0x44, 0, 0, 0, 7, 0, 3, 0, 0, 0, 4, 0, 0, 0, 0, 0, 0x21, 0, 0x60, 1,
    7, 2, 8]

/-- The same from a device with another UID. -/
def exampleMismatch : List UInt8 :=
  [0, 14, 0xcc, 1, 25, 0x47, 0x44, 0, 0, 0, 7, 0, 9, 0, 0, 0, 9, 0, 0, 0, 0, 0, 0x21, 0, 0x60, 1,
    7, 2, 19]

/-- Two requests, of which the second is a broadcast. -/
theorem requests_answered_two :
    Proper (run step (.new exampleUid 10) [.sendRDMRequest exampleGet true, .handed true,
      .sendRDMRequest exampleBroadcast true, .message rdmRequestLabel exampleAnswer,
      .callbackReturns, .handed true, .message rdmBcastRequestLabel [], .callbackReturns]) :=
  requests_answered exampleUid 10 [.sendRDMRequest exampleGet true, .handed true,
    .sendRDMRequest exampleBroadcast true, .message rdmRequestLabel exampleAnswer,
    .callbackReturns, .handed true, .message rdmBcastRequestLabel [], .callbackReturns] (by decide)

/-- The request behind a broadcast is dropped; a response from another device is delivered; and a
request that is submitted from inside a callback is not the one that is dispatched. -/
theorem requests_mishandled :
    ¬ Proper (run step (.new exampleUid 10) [.sendRDMRequest exampleBroadcast true, .handed true,
      .sendRDMRequest exampleGet true, .message rdmBcastRequestLabel [], .callbackReturns,
      .handed true]) ∧
    ¬ Proper (run step (.new exampleUid 10) [.sendRDMRequest exampleGet true, .handed true,
      .message rdmRequestLabel exampleMismatch]) ∧
    ¬ Proper (run step (.new exampleUid 10) [.sendRDMRequest exampleGet true, .handed true,
      .message rdmRequestLabel exampleAnswer, .sendRDMRequest exampleGet true, .handed true,
      .callbackReturns, .message rdmRequestLabel [0, 17]]) := by
  refine ⟨?_, ?_, ?_⟩
  · intro proper
    exact absurd rfl (proper.exchanged.handed ⟨1, { exampleGet with
      source := exampleUid
      transactionNumber := 1 }, .dropped, failedToSend⟩ (List.mem_of_getElem? (i := 1) rfl))
  · intro proper
    have wrong := congrArg (fun result => result.toOption.map Reply.status)
      (proper.exchanged.outcome _ (List.mem_of_getElem? (i := 0) rfl))
    exact absurd wrong (by decide)
  · intro proper
    have misrouted : account 1 (run step (.new exampleUid 10) [.sendRDMRequest exampleGet true,
        .handed true, .message rdmRequestLabel exampleAnswer, .sendRDMRequest exampleGet true,
        .handed true, .callbackReturns, .message rdmRequestLabel [0, 17]]).controller.log =
          [.ran 1 ⟨.timeout, none, []⟩] := by decide
    rcases proper.attributed ⟨1, exampleGet, true⟩ (by decide) with untouched |
      ⟨replies, _, _, _, spent⟩ | ⟨replies, outcome, finished, spent⟩
    · cases untouched
    · cases replies with
      | nil => cases spent
      | cons reply rest => cases spent
    · rw [misrouted] at spent
      cases replies with
      | nil => cases finished
      | cons reply rest => cases spent

end OpenLighting.Dmxter
