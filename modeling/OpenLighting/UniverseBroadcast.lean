import OpenLighting.QueueingController
import OpenLighting.UniverseRouting

namespace OpenLighting.Universe

open OpenLighting.Rdm OpenLighting.QueueingController TransitionSystem

/-- `broadcast_request_tracker`. -/
structure Tracker where
  expectedCount : Nat
  currentCount : Nat
  responseCode : ResponseCode
  packets : List (List UInt8)

/-- The response code of a tracker after one more port has answered a broadcast: errors
are propagated. -/
def ackCode (responseCode code : ResponseCode) : ResponseCode :=
  if code ≠ .wasBroadcast then code else responseCode

/-- And after one more port has answered a DISC_UNIQUE_BRANCH. -/
def discoveryCode (responseCode code : ResponseCode) : ResponseCode :=
  if code = .dubResponse then .dubResponse
  else if code = .timeout ∧ responseCode ≠ .dubResponse then code
  else if responseCode ≠ .dubResponse ∧ responseCode ≠ .timeout then code
  else responseCode

/-- `HandleBroadcastAck`, with what it runs the callback with. -/
def Tracker.handleBroadcastAck (tracker : Tracker) (reply : Reply) : Tracker × Option Reply :=
  let tracker :=
    { tracker with
      currentCount := tracker.currentCount + 1
      responseCode := ackCode tracker.responseCode reply.status }
  if tracker.currentCount = tracker.expectedCount then
    (tracker, some ⟨tracker.responseCode, none, reply.packets⟩)
  else (tracker, none)

def Tracker.handleBroadcastDiscovery (tracker : Tracker) (reply : Reply) : Tracker × Option Reply :=
  let tracker :=
    { tracker with
      currentCount := tracker.currentCount + 1
      responseCode := discoveryCode tracker.responseCode reply.status
      packets := tracker.packets ++ reply.packets }
  if tracker.currentCount = tracker.expectedCount then
    (tracker, some ⟨tracker.responseCode, none, tracker.packets⟩)
  else (tracker, none)

def Tracker.handle (isDub : Bool) (tracker : Tracker) (reply : Reply) : Tracker × Option Reply :=
  if isDub then tracker.handleBroadcastDiscovery reply else tracker.handleBroadcastAck reply

/-- A request that has been sent to all ports. The tracker is deleted when the callback
has been run; `waiting` are the ports that have yet to answer. -/
structure Broadcast where
  isDub : Bool
  tracker : Option Tracker
  waiting : List OutputPort
  callbacks : List Reply

/-- The broadcast branch of `SendRDMRequest`. A port may answer before the next one is
asked; the tracker knows from the start how many there are. -/
def Broadcast.start (ports : List OutputPort) (isDub : Bool) : Broadcast where
  isDub := isDub
  tracker := some
    { expectedCount := ports.length
      currentCount := 0
      responseCode := if isDub then .pluginDiscoveryNotSupported else .wasBroadcast
      packets := [] }
  waiting := ports
  callbacks := []

/-- A port runs the callback it was given. -/
def Broadcast.answer (broadcast : Broadcast) (answer : OutputPort × Reply) : Broadcast :=
  if answer.1 ∈ broadcast.waiting then
    let waiting := broadcast.waiting.erase answer.1
    match broadcast.tracker with
    | none => { broadcast with waiting := waiting }
    | some tracker =>
      match tracker.handle broadcast.isDub answer.2 with
      | (tracker, none) => { broadcast with tracker := some tracker, waiting := waiting }
      | (_, some outcome) =>
        { broadcast with
          tracker := none
          waiting := waiting
          callbacks := broadcast.callbacks ++ [outcome] }
  else broadcast

/-- The runs of the callback of a broadcast request, when the ports have answered in
some order. -/
def broadcastCallbacks (state : Universe) (request : Command) (answers : List (OutputPort × Reply)) :
    List Reply :=
  match state.dispatch request with
  | .broadcast ports isDub => (run Broadcast.answer (.start ports isDub) answers).callbacks
  | _ => []

/-- The codes that a port answers a DISC_UNIQUE_BRANCH with. -/
def IsDiscoveryCode (code : ResponseCode) : Prop :=
  code = .dubResponse ∨ code = .timeout ∨ code = .pluginDiscoveryNotSupported

/-- The code that takes precedence. -/
def highestCode (codes : List ResponseCode) : ResponseCode :=
  if .dubResponse ∈ codes then .dubResponse
  else if .timeout ∈ codes then .timeout
  else .pluginDiscoveryNotSupported

/-- The callback is run once; for a DISC_UNIQUE_BRANCH with the code that takes
precedence and the packets of all ports. -/
def CompletesOnce (isDub : Bool) (answers : List (OutputPort × Reply)) (callbacks : List Reply) :
    Prop :=
  ∃ outcome, callbacks = [outcome] ∧
    (isDub = true → (∀ answer ∈ answers, IsDiscoveryCode answer.2.status) →
      outcome.status = highestCode (answers.map (fun answer => answer.2.status)) ∧
        outcome.packets = answers.flatMap (fun answer => answer.2.packets))

theorem foldl_discoveryCode {current : ResponseCode} {codes : List ResponseCode}
    (first : IsDiscoveryCode current) (all : ∀ code ∈ codes, IsDiscoveryCode code) :
    codes.foldl discoveryCode current = highestCode (current :: codes) := by
  induction codes generalizing current with
  | nil =>
    rcases first with rfl | rfl | rfl <;> rfl
  | cons code rest ih =>
    have next := all code List.mem_cons_self
    have later := fun other member => all other (List.mem_cons_of_mem code member)
    have step : IsDiscoveryCode (discoveryCode current code) ∧
        highestCode (discoveryCode current code :: rest) = highestCode (current :: code :: rest) := by
      unfold highestCode
      rcases first with rfl | rfl | rfl <;> rcases next with rfl | rfl | rfl <;>
        simp [discoveryCode, IsDiscoveryCode]
    rw [List.foldl_cons, ih step.1 later, step.2]

theorem highestCode_unsupported (codes : List ResponseCode) :
    highestCode (.pluginDiscoveryNotSupported :: codes) = highestCode codes := by
  simp [highestCode]

def Tracker.counted (isDub : Bool) (tracker : Tracker) (reply : Reply) : Tracker where
  expectedCount := tracker.expectedCount
  currentCount := tracker.currentCount + 1
  responseCode :=
    if isDub then discoveryCode tracker.responseCode reply.status
    else ackCode tracker.responseCode reply.status
  packets := if isDub then tracker.packets ++ reply.packets else tracker.packets

/-- What the last answer runs the callback with. -/
def Tracker.outcome (isDub : Bool) (tracker : Tracker) (reply : Reply) : Reply :=
  ⟨(tracker.counted isDub reply).responseCode, none,
    if isDub then (tracker.counted isDub reply).packets else reply.packets⟩

theorem handle_more {isDub : Bool} {tracker : Tracker} {reply : Reply}
    (more : tracker.currentCount + 1 ≠ tracker.expectedCount) :
    tracker.handle isDub reply = (tracker.counted isDub reply, none) := by
  cases isDub with
  | false | true => exact if_neg more

theorem handle_last {isDub : Bool} {tracker : Tracker} {reply : Reply}
    (last : tracker.currentCount + 1 = tracker.expectedCount) :
    tracker.handle isDub reply =
      (tracker.counted isDub reply, some (tracker.outcome isDub reply)) := by
  cases isDub with
  | false | true => exact if_pos last

theorem answer_more {broadcast : Broadcast} {tracker : Tracker} {answer : OutputPort × Reply}
    (tracked : broadcast.tracker = some tracker) (asked : answer.1 ∈ broadcast.waiting)
    (more : tracker.currentCount + 1 ≠ tracker.expectedCount) :
    broadcast.answer answer =
      { broadcast with
        tracker := some (tracker.counted broadcast.isDub answer.2)
        waiting := broadcast.waiting.erase answer.1 } := by
  unfold Broadcast.answer
  rw [if_pos asked, tracked]
  dsimp only
  rw [handle_more more]

theorem answer_last {broadcast : Broadcast} {tracker : Tracker} {answer : OutputPort × Reply}
    (tracked : broadcast.tracker = some tracker) (asked : answer.1 ∈ broadcast.waiting)
    (last : tracker.currentCount + 1 = tracker.expectedCount) :
    broadcast.answer answer =
      { broadcast with
        tracker := none
        waiting := broadcast.waiting.erase answer.1
        callbacks := broadcast.callbacks ++ [tracker.outcome broadcast.isDub answer.2] } := by
  unfold Broadcast.answer
  rw [if_pos asked, tracked]
  dsimp only
  rw [handle_last last]

theorem run_answers {answers : List (OutputPort × Reply)} (some : answers ≠ [])
    {broadcast : Broadcast} {tracker : Tracker} (tracked : broadcast.tracker = .some tracker)
    (all : (answers.map Prod.fst).Perm broadcast.waiting)
    (expected : tracker.expectedCount = tracker.currentCount + answers.length) :
    ∃ outcome, (run Broadcast.answer broadcast answers).callbacks =
        broadcast.callbacks ++ [outcome] ∧
      (broadcast.isDub = true →
        outcome.status =
            (answers.map (fun answer => answer.2.status)).foldl discoveryCode tracker.responseCode ∧
          outcome.packets = tracker.packets ++ answers.flatMap (fun answer => answer.2.packets)) := by
  induction answers generalizing broadcast tracker with
  | nil => exact absurd rfl some
  | cons answer rest ih =>
    have asked : answer.1 ∈ broadcast.waiting := all.mem_iff.mp List.mem_cons_self
    have left : (rest.map Prod.fst).Perm (broadcast.waiting.erase answer.1) :=
      (List.cons_perm_iff_perm_erase.mp all).2
    rw [run_cons]
    cases rest with
    | nil =>
      rw [answer_last tracked asked expected.symm, run_nil]
      refine ⟨_, rfl, ?_⟩
      intro isDub
      simp [Tracker.outcome, Tracker.counted, isDub]
    | cons second rest =>
      have more : tracker.currentCount + 1 ≠ tracker.expectedCount := by
        rw [expected]
        simp only [List.length_cons]
        omega
      have count : (tracker.counted broadcast.isDub answer.2).expectedCount =
          (tracker.counted broadcast.isDub answer.2).currentCount + (second :: rest).length := by
        simp only [Tracker.counted, expected, List.length_cons]
        omega
      rw [answer_more tracked asked more]
      obtain ⟨outcome, once, result⟩ := @ih (List.cons_ne_nil _ _)
        { broadcast with
          tracker := .some (tracker.counted broadcast.isDub answer.2)
          waiting := broadcast.waiting.erase answer.1 }
        (tracker.counted broadcast.isDub answer.2) rfl left count
      refine ⟨outcome, once, ?_⟩
      intro isDub
      have both := result isDub
      rw [both.1, both.2]
      simp [Tracker.counted, isDub]

/-- The callback of a broadcast request is run once, unless there is no port at all. -/
theorem broadcast_completes_iff (state : Universe) (request : Command)
    (broadcast : request.destination.isBroadcast = true) (answers : List (OutputPort × Reply))
    (all : (answers.map Prod.fst).Perm state.outputPorts) :
    CompletesOnce (isDub request) answers (state.broadcastCallbacks request answers) ↔
      state.outputPorts ≠ [] := by
  have sent : state.broadcastCallbacks request answers =
      (run Broadcast.answer (.start state.outputPorts (isDub request)) answers).callbacks := by
    unfold broadcastCallbacks dispatch
    rw [if_pos broadcast]
  rw [sent]
  constructor
  · rintro ⟨outcome, once, _⟩ none
    rw [none, List.perm_nil, List.map_eq_nil_iff] at all
    rw [all] at once
    cases once
  · intro ports
    have some : answers ≠ [] := by
      rintro rfl
      exact ports (List.nil_perm.mp all)
    have length : state.outputPorts.length = answers.length := by
      rw [← all.length_eq, List.length_map]
    obtain ⟨outcome, once, result⟩ := @run_answers answers some
      (.start state.outputPorts (isDub request)) _ rfl all (length.trans (Nat.zero_add _).symm)
    refine ⟨outcome, once, ?_⟩
    intro dub codes
    have both := result dub
    constructor
    · rw [both.1, foldl_discoveryCode]
      · simp only [dub, if_true]
        exact highestCode_unsupported _
      · simp [dub, IsDiscoveryCode]
      · intro code member
        obtain ⟨answer, here, rfl⟩ := List.mem_map.mp member
        exact codes answer here
    · exact both.2

/-- A DISC_UNIQUE_BRANCH for all devices. -/
def dubRequest : Command :=
  { source := ⟨0x7a70, 0⟩
    destination := .allDevices
    transactionNumber := 0
    portId := 1
    messageCount := 0
    subDevice := 0
    commandClass := .discoverCommand
    paramId := pidDiscUniqueBranch
    paramData := [] }

theorem dub_completes :
    CompletesOnce (isDub dubRequest) [(2, ⟨.timeout, none, []⟩), (1, ⟨.dubResponse, none, [[7]]⟩)]
      (movedState.broadcastCallbacks dubRequest
        [(2, ⟨.timeout, none, []⟩), (1, ⟨.dubResponse, none, [[7]]⟩)]) :=
  (broadcast_completes_iff movedState dubRequest rfl
    [(2, ⟨.timeout, none, []⟩), (1, ⟨.dubResponse, none, [[7]]⟩)] (List.Perm.swap 1 2 [])).mpr
    (List.cons_ne_nil _ _)

/-- Without ports the callback is never run. -/
theorem no_port_never_completes :
    dubRequest.destination.isBroadcast = true ∧ (new 1).broadcastCallbacks dubRequest [] = [] ∧
      ¬ CompletesOnce (isDub dubRequest) [] ((new 1).broadcastCallbacks dubRequest []) := by
  refine ⟨rfl, rfl, ?_⟩
  rintro ⟨outcome, once, _⟩
  cases once

end OpenLighting.Universe
