import OpenLighting.AckTimerResponder
import OpenLighting.DelayedQueue

/- What happens to the messages of an `AckTimerResponder`. -/
namespace OpenLighting.Rdm.AckTimerResponder

open DelayedQueue TransitionSystem List ResponderOps

/-- A SET that was answered with `RDM_ACK_TIMER`. -/
structure Posting where
  pid : UInt16
  time : Nat
  deriving DecidableEq

namespace Posting

/-- When the message about the SET may be returned. -/
def due (posting : Posting) : Nat := posting.time + ackTimerMs * 1000

def message (posting : Posting) : QueuedResponse :=
  ⟨posting.due, posting.pid, .setCommandResponse, []⟩

end Posting

/-- The SETs so far, in their order, and how many of their messages have been returned. -/
structure Ledger where
  posted : List Posting
  returned : Nat

namespace Ledger

/-- The messages that can be returned. -/
def waiting (ledger : Ledger) (now : Nat) : List Posting :=
  ready Posting.due now (ledger.posted.drop ledger.returned)

/-- The message that was returned most recently. -/
def last (ledger : Ledger) : Option Posting := (ledger.posted.take ledger.returned).getLast?

end Ledger

/-- The status type that a request asks for messages with, if it gets to the responder. -/
def asks (uid : UID) (request : Command) : Option UInt8 :=
  if ResponderOps.earlyCode uid request = none ∧ request.commandClass = .getCommand ∧
      request.paramId = pidQueuedMessage ∧ request.subDevice = rootRdmDevice then
    extractUInt8 request
  else none

/-- The response that is made, also where it is deleted since the request was broadcast. -/
def answer (version : List UInt8) (responder : AckTimerResponder) (arrival : Arrival) :
    Option Command :=
  if ResponderOps.earlyCode responder.uid arrival.request = none then
    ((rdmOps version arrival.handled).respond (responder.queueAnyNewMessages arrival.now)
      rootRdmDevice arrival.request).2
  else none

/-- A responder and what has come of the requests. -/
structure History where
  responder : AckTimerResponder
  ledger : Ledger
  clock : Nat

namespace History

def new (uid : UID) : History := ⟨.new uid, ⟨[], 0⟩, 0⟩

/-- The SETs that a request adds: one, if it is answered with `RDM_ACK_TIMER`. -/
def posts (version : List UInt8) (history : History) (arrival : Arrival) : List Posting :=
  match history.responder.answer version arrival with
  | none => []
  | some command =>
    if command.portId = rdmAckTimer then [⟨arrival.request.paramId, arrival.handled⟩] else []

/-- How many messages a request takes: one, if it asks for one and any are waiting. -/
def takes (history : History) (arrival : Arrival) : Nat :=
  match asks history.responder.uid arrival.request with
  | none => 0
  | some status =>
    if status ≠ statusGetLastMessage ∧ history.ledger.waiting arrival.now ≠ [] then 1 else 0

def step (version : List UInt8) (history : History) (arrival : Arrival) : History where
  responder := (history.responder.sendRDMRequest version arrival).1
  ledger := ⟨history.ledger.posted ++ history.posts version arrival,
    history.ledger.returned + history.takes arrival⟩
  clock := arrival.handled

/-- No request comes before the last one was handled. -/
def InTime (history : History) (arrival : Arrival) : Prop := history.clock ≤ arrival.now

end History

/-- The response that brings a message about this SET, or an empty status message if there is no
SET. -/
def Brings (command : Command) : Option Posting → Prop
  | some posting => command.portId = rdmAck ∧ command.commandClass = .setCommandResponse ∧
      command.paramId = posting.pid ∧ command.paramData = []
  | none => command.portId = rdmAck ∧ command.commandClass = .getCommandResponse ∧
      command.paramId = pidStatusMessages ∧ command.paramData = []

/-- What the responder should do with a request: bring the first of the messages that wait, bring
the last one again, and tell in every response how many messages wait. -/
structure Serves (version : List UInt8) (history : History) (arrival : Arrival) : Prop where
  next : ∀ status, asks history.responder.uid arrival.request = some status →
    status ≠ statusGetLastMessage →
      ∃ command, (history.responder.sendRDMRequest version arrival).2.response = some command ∧
        Brings command (history.ledger.waiting arrival.now).head?
  last : asks history.responder.uid arrival.request = some statusGetLastMessage →
    ∃ command, (history.responder.sendRDMRequest version arrival).2.response = some command ∧
      Brings command history.ledger.last
  count : ∀ command,
    (history.responder.sendRDMRequest version arrival).2.response = some command →
      command.messageCount.toNat =
        min maxQueuedMessageCount ((history.step version arrival).ledger.waiting arrival.now).length

/-- The requests that are served: the last message is not asked for again once the queue is empty,
and those that `ResponderOps` answers itself come while no message waits. -/
structure Servable (version : List UInt8) (history : History) (arrival : Arrival) : Prop where
  notDrained : asks history.responder.uid arrival.request = some statusGetLastMessage →
    history.ledger.waiting arrival.now = [] → history.ledger.returned = 0
  handled : ResponderOps.earlyCode history.responder.uid arrival.request = none →
    arrival.request.destination.isBroadcast = false →
      (rdmOps version arrival.handled).handlerFor rootRdmDevice arrival.request = none →
        history.ledger.waiting arrival.now = []

/-- The invariant: the lists of the responder hold the messages that were not returned. -/
structure Follows (history : History) : Prop where
  contents : history.responder.queuedMessages ++ history.responder.upcomingQueuedMessages =
    (history.ledger.posted.drop history.ledger.returned).map Posting.message
  last : history.responder.lastQueuedMessage = history.ledger.last.map Posting.message
  enough : history.ledger.returned ≤ history.ledger.posted.length
  sorted : history.ledger.posted.Pairwise fun posting other => posting.due ≤ other.due
  past : ∀ posting ∈ history.ledger.posted, posting.time ≤ history.clock
  come : ∀ message ∈ history.responder.queuedMessages, message.validAfter ≤ history.clock

theorem follows_new (uid : UID) : Follows (.new uid) where
  contents := rfl
  last := rfl
  enough := le_rfl
  sorted := List.Pairwise.nil
  past := by
    intro posting member
    cases member
  come := by
    intro message member
    cases member

section Release
variable {history : History} {now : Nat}

/-- A list of messages and the SETs they are about. -/
theorem ready_map_message (postings : List Posting) (now : Nat) :
    ready QueuedResponse.validAfter now (postings.map Posting.message) =
      (ready Posting.due now postings).map Posting.message := by
  unfold ready
  rw [takeWhile_map]
  rfl

theorem Follows.sorted_upcoming (follows : Follows history) :
    history.responder.upcomingQueuedMessages.Pairwise
      fun message other => message.validAfter ≤ other.validAfter := by
  have all : ((history.ledger.posted.drop history.ledger.returned).map Posting.message).Pairwise
      fun message other => message.validAfter ≤ other.validAfter :=
    pairwise_map.mpr (follows.sorted.sublist (drop_sublist _ _))
  rw [← follows.contents] at all
  exact (pairwise_append.mp all).2.1

/-- The messages that wait are those in the queue, once new ones have been moved to it. -/
theorem Follows.released (follows : Follows history) (later : history.clock ≤ now) :
    (history.responder.queueAnyNewMessages now).queuedMessages =
      (history.ledger.waiting now).map Posting.message := by
  have come : ∀ message ∈ history.responder.queuedMessages, message.validAfter ≤ now :=
    fun message member => (follows.come message member).trans later
  rw [Ledger.waiting, ← ready_map_message, ← follows.contents, ready_append come]
  exact congrArg _ (filter_eq_ready follows.sorted_upcoming).1

/-- Moving messages loses none. -/
theorem Follows.release (follows : Follows history) (later : history.clock ≤ now) :
    Follows ⟨history.responder.queueAnyNewMessages now, history.ledger, now⟩ where
  contents := by
    obtain ⟨moved, stayed⟩ := @filter_eq_ready _ _ _ _ now _ follows.sorted_upcoming
    dsimp only [queueAnyNewMessages]
    rw [moved, stayed, append_assoc, ready_append_early]
    exact follows.contents
  last := follows.last
  enough := follows.enough
  sorted := follows.sorted
  past := fun posting member => (follows.past posting member).trans later
  come := by
    intro message member
    rw [follows.released later] at member
    obtain ⟨posting, waits, same⟩ := mem_map.mp member
    have due : posting.due ≤ now := due_of_mem_ready waits
    rw [← same]
    exact due

end Release

structure SameQueues (responder other : AckTimerResponder) : Prop where
  uid : other.uid = responder.uid
  queued : other.queuedMessages = responder.queuedMessages
  upcoming : other.upcomingQueuedMessages = responder.upcomingQueuedMessages
  last : other.lastQueuedMessage = responder.lastQueuedMessage

/-- What the handlers do with the messages, the one of `QUEUED_MESSAGE` apart: nothing, or a SET is
answered with `RDM_ACK_TIMER` and its message added. -/
inductive Effect (now : Nat) (request : Command) (responder : AckTimerResponder) :
    AckTimerResponder × Option Command → Prop
  | quiet {other : AckTimerResponder} {command : Command} : SameQueues responder other →
      command.messageCount = responder.queuedMessageCount → command.portId ≠ rdmAckTimer →
        Effect now request responder (other, some command)
  | posts {other : AckTimerResponder} : SameQueues responder other →
      Effect now request responder (ackTimer other request now request.paramId)

section Handlers
variable {version : List UInt8} {now : Nat} {request : Command} {responder : AckTimerResponder}

theorem effect_nack {other : AckTimerResponder} (same : SameQueues responder other)
    (reason : NackReason) :
    Effect now request responder (other, nack request reason responder.queuedMessageCount) := by
  refine .quiet same rfl ?_
  have differ : nackReasonType ≠ rdmAckTimer := by decide
  exact differ

theorem sameQueues_self (responder : AckTimerResponder) : SameQueues responder responder :=
  ⟨rfl, rfl, rfl, rfl⟩

theorem effect_getResponse (get : request.commandClass = .getCommand) (data : List UInt8) :
    Effect now request responder
      (responder, getResponseFromData request data rdmAck responder.queuedMessageCount) := by
  unfold getResponseFromData getResponseWithPid
  rw [get]
  have differ : rdmAck ≠ rdmAckTimer := by decide
  exact .quiet (sameQueues_self responder) rfl differ

theorem effect_getData (get : request.commandClass = .getCommand) (data : List UInt8) :
    Effect now request responder
      (responder, getData request data responder.queuedMessageCount) := by
  unfold getData
  split
  · exact effect_nack (sameQueues_self responder) .formatError
  · exact effect_getResponse get data

theorem effect_getPersonalityDescription (get : request.commandClass = .getCommand) :
    Effect now request responder
      (responder, getPersonalityDescription responder request) := by
  unfold getPersonalityDescription Rdm.getPersonalityDescription
  split
  · exact effect_nack (sameQueues_self responder) .formatError
  · split
    · exact effect_nack (sameQueues_self responder) .dataOutOfRange
    · exact effect_getResponse get _

theorem setPersonality_response (manager : PersonalityManager) (startAddress : UInt16)
    (count : UInt8) :
    ∃ command, (Rdm.setPersonality request manager startAddress count).2 = some command ∧
      command.messageCount = count ∧ command.portId ≠ rdmAckTimer := by
  have nacked : nackReasonType ≠ rdmAckTimer := by decide
  have acked : rdmAck ≠ rdmAckTimer := by decide
  unfold Rdm.setPersonality
  split
  · exact ⟨_, rfl, rfl, nacked⟩
  · split
    · exact ⟨_, rfl, rfl, nacked⟩
    · split
      · exact ⟨_, rfl, rfl, nacked⟩
      · exact ⟨_, rfl, rfl, acked⟩

theorem effect_setPersonality :
    Effect now request responder (responder.setPersonality request) := by
  obtain ⟨command, response, count, type⟩ := @setPersonality_response request
    responder.personalityManager responder.startAddress responder.queuedMessageCount
  have quiet : Effect now request responder
      ({ responder with personalityManager := (Rdm.setPersonality request
          responder.personalityManager responder.startAddress responder.queuedMessageCount).1 },
        some command) := .quiet ⟨rfl, rfl, rfl, rfl⟩ count type
  rw [← response] at quiet
  exact quiet

theorem effect_setDmxStartAddress (pid : request.paramId = pidDmxStartAddress) :
    Effect now request responder (setDmxStartAddress now responder request) := by
  unfold setDmxStartAddress
  split
  · exact effect_nack (sameQueues_self responder) .formatError
  · split
    · exact effect_nack (sameQueues_self responder) .dataOutOfRange
    · split
      · exact effect_nack (sameQueues_self responder) .dataOutOfRange
      · rw [← pid]
        exact .posts ⟨rfl, rfl, rfl, rfl⟩

theorem effect_setIdentify (pid : request.paramId = pidIdentifyDevice) :
    Effect now request responder (setIdentify now responder request) := by
  unfold setIdentify
  split
  · exact effect_nack (sameQueues_self responder) .formatError
  · split
    · exact effect_nack (sameQueues_self responder) .dataOutOfRange
    · rw [← pid]
      exact .posts ⟨rfl, rfl, rfl, rfl⟩

variable {handler : ParamHandler AckTimerResponder}

/-- The handlers of the table, for a request with the PID of their entry. -/
theorem effect_of_mem (member : handler ∈ paramHandlers version now)
    (pid : request.paramId = handler.pid) :
    (∀ get, handler.getHandler = some get → request.commandClass = .getCommand →
      request.paramId ≠ pidQueuedMessage → Effect now request responder (get responder request)) ∧
    ∀ set, handler.setHandler = some set →
      Effect now request responder (set responder request) := by
  simp only [paramHandlers, mem_cons, not_mem_nil, or_false] at member
  constructor
  · intro get has known other
    rcases member with rfl | rfl | rfl | rfl | rfl | rfl | rfl | description | rfl | rfl
    · exact absurd pid other
    case inr.inr.inr.inr.inr.inr.inr.inl =>
      subst description
      cases has
      exact effect_getPersonalityDescription known
    all_goals
      cases has
      exact effect_getData known _
  · intro set has
    rcases member with rfl | rfl | rfl | rfl | rfl | rfl | rfl | rfl | rfl | rfl
    all_goals cases has
    · exact effect_setPersonality
    · exact effect_setDmxStartAddress pid
    · exact effect_setIdentify pid

/-- A GET of `QUEUED_MESSAGE` for the root device. -/
def AsksQueue (request : Command) : Prop :=
  request.commandClass = .getCommand ∧ request.paramId = pidQueuedMessage ∧
    request.subDevice = rootRdmDevice

theorem handlerFor_queue (asks : AsksQueue request) :
    (rdmOps version now).handlerFor rootRdmDevice request = some getQueuedMessage := by
  obtain ⟨get, pid, root⟩ := asks
  have known : (rdmOps version now).find pidQueuedMessage =
      some ⟨pidQueuedMessage, some getQueuedMessage, none⟩ := rfl
  have notAll : rootRdmDevice ≠ allRdmSubdevices := by decide
  unfold handlerFor
  rw [if_neg (fun other => other.1 root), if_neg (fun all => notAll (root ▸ all.1)), pid, known,
    get]

theorem find_mem {ops : ResponderOps AckTimerResponder} {pid : UInt16}
    (found : ops.find pid = some handler) :
    pid = handler.pid ∧
      (handler ∈ ops.paramHandlers ∨ handler.getHandler = none ∧ handler.setHandler = none) := by
  unfold find at found
  split at found
  · rename_i entry inTable
    cases found
    have same := List.find?_some inTable
    have inside := mem_reverse.mp (mem_of_find?_eq_some inTable)
    exact ⟨(beq_iff_eq.mp same).symm, .inl inside⟩
  · split at found
    · cases found
      exact ⟨rfl, .inr ⟨rfl, rfl⟩⟩
    · cases found

/-- Only a GET of `QUEUED_MESSAGE` takes messages. -/
theorem effect_of_handlerFor {handler : RDMHandler AckTimerResponder}
    (found : (rdmOps version now).handlerFor rootRdmDevice request = some handler)
    (other : ¬ AsksQueue request) (responder : AckTimerResponder) :
    Effect now request responder (handler responder request) := by
  unfold handlerFor at found
  split at found
  · cases found
  · rename_i ours
    split at found
    · cases found
    · rename_i notAll
      split at found
      · rename_i entry inTable get
        have known := find_mem inTable
        rw [get] at notAll
        have root : request.subDevice = rootRdmDevice := by
          by_contra elsewhere
          exact ours ⟨elsewhere, fun all => notAll ⟨all, rfl⟩⟩
        have notQueue : request.paramId ≠ pidQueuedMessage := fun pid => other ⟨get, pid, root⟩
        rcases known.2 with member | none
        · exact (effect_of_mem member known.1).1 handler found get notQueue
        · rw [none.1] at found
          cases found
      · rename_i entry inTable set
        have known := find_mem inTable
        rcases known.2 with member | none
        · exact (effect_of_mem member known.1).2 handler found
        · rw [none.2] at found
          cases found
      · cases found

theorem queuedMessageCount_toNat (responder : AckTimerResponder) :
    responder.queuedMessageCount.toNat =
      min maxQueuedMessageCount responder.queuedMessages.length := by
  unfold queuedMessageCount maxQueuedMessageCount
  dsimp only
  split
  · rw [Nat.min_eq_left (by omega)]
    rfl
  · rw [Nat.min_eq_right (by omega), UInt8.toNat_ofNat', Nat.mod_eq_of_lt (by omega)]

end Handlers

section Follows
variable {responder other : AckTimerResponder} {ledger : Ledger} {clock time : Nat}

theorem Follows.same (follows : Follows ⟨responder, ledger, clock⟩)
    (same : SameQueues responder other) (later : clock ≤ time) : Follows ⟨other, ledger, time⟩ where
  contents := by
    rw [same.queued, same.upcoming]
    exact follows.contents
  last := same.last.trans follows.last
  enough := follows.enough
  sorted := follows.sorted
  past := fun posting member => (follows.past posting member).trans later
  come := by
    intro message member
    rw [same.queued] at member
    exact (follows.come message member).trans later

/-- A message that is added comes last. -/
theorem Follows.post (follows : Follows ⟨responder, ledger, clock⟩)
    (same : SameQueues responder other) (later : clock ≤ time) (request : Command) (pid : UInt16) :
    Follows ⟨(ackTimer other request time pid).1,
      ⟨ledger.posted ++ [⟨pid, time⟩], ledger.returned⟩, time⟩ where
  contents := by
    have enough := follows.enough
    have contents := follows.contents
    dsimp only [ackTimer]
    rw [same.queued, same.upcoming, ← append_assoc, contents,
      drop_append_of_le_length enough, map_append]
    rfl
  last := by
    have last := same.last.trans follows.last
    have enough := follows.enough
    dsimp only [Ledger.last] at last enough ⊢
    rw [take_append_of_le_length enough]
    exact last
  enough := by
    have enough := follows.enough
    dsimp only at enough ⊢
    rw [length_append]
    omega
  sorted := by
    refine pairwise_append.mpr ⟨follows.sorted, pairwise_singleton _ _, ?_⟩
    intro posting member added is
    cases mem_singleton.mp is
    exact Nat.add_le_add_right ((follows.past posting member).trans later) _
  past := by
    intro posting member
    rcases mem_append.mp member with old | new
    · exact (follows.past posting old).trans later
    · cases mem_singleton.mp new
      exact le_rfl
  come := by
    intro message member
    dsimp only [ackTimer] at member
    rw [same.queued] at member
    exact (follows.come message member).trans later

/-- Taking the first message makes it the last one. -/
theorem Follows.pop {front : QueuedResponse} {rest : List QueuedResponse}
    (follows : Follows ⟨responder, ledger, clock⟩)
    (queued : responder.queuedMessages = front :: rest) :
    Follows ⟨{ responder with queuedMessages := rest, lastQueuedMessage := some front },
      ⟨ledger.posted, ledger.returned + 1⟩, clock⟩ := by
  have contents := follows.contents
  rw [queued, cons_append] at contents
  obtain ⟨posting, remaining, dropped⟩ : ∃ posting remaining,
      ledger.posted.drop ledger.returned = posting :: remaining := by
    cases dropped : ledger.posted.drop ledger.returned with
    | nil =>
      rw [dropped] at contents
      cases contents
    | cons posting remaining => exact ⟨posting, remaining, rfl⟩
  have inside : ledger.returned < ledger.posted.length := by
    by_contra outside
    rw [drop_eq_nil_of_le (by omega)] at dropped
    cases dropped
  rw [drop_eq_getElem_cons inside] at dropped
  cases dropped
  rw [drop_eq_getElem_cons inside, map_cons] at contents
  obtain ⟨first, others⟩ := List.cons.inj contents
  exact
    { contents := others
      last := by
        dsimp only [Ledger.last]
        rw [take_succ_eq_append_getElem inside, List.getLast?_append, first]
        rfl
      enough := inside
      sorted := follows.sorted
      past := follows.past
      come := by
        intro message member
        exact follows.come message (by
          rw [queued]
          exact mem_cons_of_mem front member) }

end Follows

section Step
variable {version : List UInt8} {history : History} {arrival : Arrival}

theorem send_early {code : ResponseCode}
    (early : ResponderOps.earlyCode history.responder.uid arrival.request = some code) :
    history.responder.sendRDMRequest version arrival =
      (history.responder.queueAnyNewMessages arrival.now, ⟨code, none, []⟩) := by
  unfold sendRDMRequest handleRDMRequest
  rw [early]

theorem send_respond {result : AckTimerResponder × Option Command}
    (early : ResponderOps.earlyCode history.responder.uid arrival.request = none)
    (made : (rdmOps version arrival.handled).respond
      (history.responder.queueAnyNewMessages arrival.now) rootRdmDevice arrival.request = result) :
    (history.responder.sendRDMRequest version arrival).1 = result.1 ∧
      (history.responder.sendRDMRequest version arrival).2.response =
        (if arrival.request.destination.isBroadcast then none else result.2) ∧
      history.responder.answer version arrival = result.2 := by
  unfold answer sendRDMRequest handleRDMRequest
  rw [if_pos early, early, made]
  dsimp only
  split <;> exact ⟨rfl, rfl, rfl⟩

theorem asks_eq_none (not : ¬ (ResponderOps.earlyCode history.responder.uid arrival.request = none ∧
    AsksQueue arrival.request)) : asks history.responder.uid arrival.request = none :=
  if_neg not

section

variable (silent : asks history.responder.uid arrival.request = none)
include silent

/-- A request that neither takes a message nor adds one leaves the ledger alone. -/
theorem step_silent
    (unposted : ∀ command, history.responder.answer version arrival = some command →
      command.portId ≠ rdmAckTimer) :
    history.step version arrival =
      ⟨(history.responder.sendRDMRequest version arrival).1, history.ledger, arrival.handled⟩ := by
  have posts : history.posts version arrival = [] := by
    unfold History.posts
    split
    · rfl
    · rename_i command made
      exact if_neg (unposted command made)
  have takes : history.takes arrival = 0 := by
    unfold History.takes
    rw [silent]
  unfold History.step
  rw [posts, takes, append_nil, Nat.add_zero]

theorem serves_iff_count :
    Serves version history arrival ↔
      ∀ command, (history.responder.sendRDMRequest version arrival).2.response = some command →
        command.messageCount.toNat = min maxQueuedMessageCount
          ((history.step version arrival).ledger.waiting arrival.now).length := by
  refine ⟨Serves.count, fun count => ⟨?_, ?_, count⟩⟩
  · intro status asked
    rw [silent] at asked
    cases asked
  · intro asked
    rw [silent] at asked
    cases asked

theorem servable_iff_handled :
    Servable version history arrival ↔
      (ResponderOps.earlyCode history.responder.uid arrival.request = none →
        arrival.request.destination.isBroadcast = false →
          (rdmOps version arrival.handled).handlerFor rootRdmDevice arrival.request = none →
            history.ledger.waiting arrival.now = []) := by
  refine ⟨Servable.handled, fun handled => ⟨?_, handled⟩⟩
  intro asked
  rw [silent] at asked
  cases asked

end

/-- The count of the queue, once new messages have been moved to it. -/
theorem released_count (follows : Follows history) (inTime : history.InTime arrival) :
    (history.responder.queueAnyNewMessages arrival.now).queuedMessageCount.toNat =
      min maxQueuedMessageCount (history.ledger.waiting arrival.now).length := by
  rw [queuedMessageCount_toNat, follows.released inTime, length_map]

/-- A message that was added a moment ago does not wait to be returned yet. -/
theorem waiting_append (follows : Follows history) (arrival : Arrival) (pid : UInt16) :
    Ledger.waiting ⟨history.ledger.posted ++ [⟨pid, arrival.handled⟩], history.ledger.returned⟩
      arrival.now = history.ledger.waiting arrival.now := by
  have later : arrival.now < Posting.due ⟨pid, arrival.handled⟩ :=
    Nat.lt_of_le_of_lt arrival.inOrder (Nat.lt_add_of_pos_right (by decide))
  unfold Ledger.waiting
  rw [drop_append_of_le_length follows.enough, ready_append_singleton later]

theorem brings_message (responder : AckTimerResponder) (request : Command) (posting : Posting) :
    ∃ command, responder.responseFromQueuedMessage request posting.message = some command ∧
      Brings command (some posting) ∧ command.messageCount = responder.queuedMessageCount ∧
      command.portId ≠ rdmAckTimer := by
  have differ : rdmAck ≠ rdmAckTimer := by decide
  exact ⟨_, rfl, ⟨rfl, rfl, rfl, rfl⟩, rfl, differ⟩

theorem brings_emptyStatus {request : Command} (get : request.commandClass = .getCommand)
    (responder : AckTimerResponder) :
    ∃ command, responder.emptyStatusMessage request = some command ∧ Brings command none ∧
      command.messageCount = responder.queuedMessageCount ∧ command.portId ≠ rdmAckTimer := by
  have differ : rdmAck ≠ rdmAckTimer := by decide
  unfold emptyStatusMessage getResponseWithPid
  rw [get]
  exact ⟨_, rfl, ⟨rfl, rfl, rfl, rfl⟩, rfl, differ⟩

/-- An empty status message brings no message about a SET. -/
theorem not_brings {command : Command} {posting : Posting} (empty : Brings command none) :
    ¬ Brings command (some posting) := by
  intro brings
  have get := empty.2.1
  rw [brings.2.1] at get
  cases get

theorem last_eq_none_iff (enough : history.ledger.returned ≤ history.ledger.posted.length) :
    history.ledger.last = none ↔ history.ledger.returned = 0 := by
  rw [Ledger.last, List.getLast?_eq_none_iff, ← length_eq_zero_iff, length_take]
  omega

theorem waiting_pop {ledger : Ledger} {now : Nat} {posting : Posting} {others : List Posting}
    (waits : ledger.waiting now = posting :: others) :
    Ledger.waiting ⟨ledger.posted, ledger.returned + 1⟩ now = others := by
  unfold Ledger.waiting at waits ⊢
  rw [← tail_drop]
  cases dropped : ledger.posted.drop ledger.returned with
  | nil =>
    rw [dropped] at waits
    cases waits
  | cons first rest =>
    rw [dropped] at waits
    by_cases come : first.due ≤ now
    · rw [ready_cons come] at waits
      exact (List.cons.inj waits).2
    · rw [ready_cons_early (Nat.lt_of_not_le come)] at waits
      cases waits

/-- How a GET of `QUEUED_MESSAGE` is answered. -/
structure QueueAnswered (version : List UInt8) (history : History) (arrival : Arrival)
    (result : AckTimerResponder × Option Command) : Prop where
  asks : asks history.responder.uid arrival.request = extractUInt8 arrival.request
  handled : (rdmOps version arrival.handled).handlerFor rootRdmDevice arrival.request ≠ none
  responder : (history.responder.sendRDMRequest version arrival).1 = result.1
  response : (history.responder.sendRDMRequest version arrival).2.response = result.2
  answered : history.responder.answer version arrival = result.2

theorem queueAnswered (early : ResponderOps.earlyCode history.responder.uid arrival.request = none)
    (asked : AsksQueue arrival.request) :
    QueueAnswered version history arrival
      ((history.responder.queueAnyNewMessages arrival.now).getQueuedMessage arrival.request) := by
  have found : (rdmOps version arrival.handled).handlerFor rootRdmDevice arrival.request =
      some getQueuedMessage := handlerFor_queue asked
  have responds : (rdmOps version arrival.handled).respond
      (history.responder.queueAnyNewMessages arrival.now) rootRdmDevice arrival.request =
        (history.responder.queueAnyNewMessages arrival.now).getQueuedMessage arrival.request := by
    unfold ResponderOps.respond
    rw [found]
  have direct : arrival.request.destination.isBroadcast = false := by
    unfold earlyCode at early
    split at early
    · cases early
    · split at early
      · cases early
      · split at early
        · cases early
        · rename_i notBoth
          by_contra broadcast
          exact notBoth ⟨asked.1, by simpa using broadcast⟩
  obtain ⟨responder, response, answered⟩ := send_respond early responds
  rw [direct, if_neg Bool.false_ne_true] at response
  refine ⟨if_pos ⟨early, asked⟩, ?_, responder, response, answered⟩
  rw [found]
  exact Option.some_ne_none _

theorem servable_of_waiting {posting : Posting} {others : List Posting}
    (waits : history.ledger.waiting arrival.now = posting :: others)
    (handled : (rdmOps version arrival.handled).handlerFor rootRdmDevice arrival.request ≠ none) :
    Servable version history arrival := by
  refine ⟨?_, fun _ _ unhandled => absurd unhandled handled⟩
  intro _ empty
  rw [waits] at empty
  cases empty

/-- A GET for the last message, while others wait. -/
theorem getQueuedMessage_again {responder : AckTimerResponder} {request : Command}
    {previous : Option Posting} {front : QueuedResponse} {rest : List QueuedResponse}
    (get : request.commandClass = .getCommand)
    (extracted : extractUInt8 request = some statusGetLastMessage)
    (queued : responder.queuedMessages = front :: rest)
    (last : responder.lastQueuedMessage = previous.map Posting.message) :
    ∃ command, responder.getQueuedMessage request = (responder, some command) ∧
      Brings command previous ∧ command.messageCount = responder.queuedMessageCount ∧
      command.portId ≠ rdmAckTimer := by
  unfold getQueuedMessage
  rw [extracted, queued]
  dsimp only
  rw [if_pos rfl, last]
  cases previous with
  | none =>
    obtain ⟨command, made, rest⟩ := brings_emptyStatus get responder
    exact ⟨command, congrArg (Prod.mk responder) made, rest⟩
  | some repeated =>
    obtain ⟨command, made, rest⟩ := brings_message responder request repeated
    exact ⟨command, congrArg (Prod.mk responder) made, rest⟩

/-- The invariant is kept, and the request is served exactly if it can be. -/
def Right (version : List UInt8) (history : History) (arrival : Arrival) : Prop :=
  Follows (history.step version arrival) ∧
    (Serves version history arrival ↔ Servable version history arrival)

section Requests
variable (follows : Follows history) (inTime : history.InTime arrival)
include follows inTime

theorem right_early {code : ResponseCode}
    (early : ResponderOps.earlyCode history.responder.uid arrival.request = some code) :
    Right version history arrival := by
  have sent : history.responder.sendRDMRequest version arrival = _ := send_early early
  have silent : asks history.responder.uid arrival.request = none :=
    asks_eq_none fun both => by rw [early] at both; cases both.1
  have unanswered : history.responder.answer version arrival = none :=
    if_neg (by rw [early]; exact Option.some_ne_none code)
  have stepped : history.step version arrival = _ :=
    step_silent silent (fun command made => by rw [unanswered] at made; cases made)
  constructor
  · rw [stepped, sent]
    exact (follows.release inTime).same (sameQueues_self _) arrival.inOrder
  · rw [serves_iff_count silent, servable_iff_handled silent, sent]
    refine iff_of_true ?_ ?_
    · intro command made
      cases made
    · intro none
      rw [early] at none
      cases none

/-- `ResponderOps` answers itself. -/
theorem right_internal
    (early : ResponderOps.earlyCode history.responder.uid arrival.request = none)
    (unhandled : (rdmOps version arrival.handled).handlerFor rootRdmDevice arrival.request = none) :
    Right version history arrival := by
  have made : (rdmOps version arrival.handled).respond
      (history.responder.queueAnyNewMessages arrival.now) rootRdmDevice arrival.request =
        (history.responder.queueAnyNewMessages arrival.now,
          (rdmOps version arrival.handled).internalResponse rootRdmDevice arrival.request) := by
    unfold ResponderOps.respond
    rw [unhandled]
  obtain ⟨responder, response, answered⟩ := send_respond early made
  have unasked : ¬ AsksQueue arrival.request := by
    intro asked
    have found : (rdmOps version arrival.handled).handlerFor rootRdmDevice arrival.request = _ :=
      handlerFor_queue asked
    rw [unhandled] at found
    cases found
  have silent : asks history.responder.uid arrival.request = none :=
    asks_eq_none fun both => unasked both.2
  have stepped : history.step version arrival = _ :=
    step_silent silent (fun command made => by
      rw [answered] at made
      exact internalResponse_portId made)
  constructor
  · rw [stepped, responder]
    exact (follows.release inTime).same (sameQueues_self _) arrival.inOrder
  · rw [serves_iff_count silent, servable_iff_handled silent, response, stepped]
    constructor
    · intro count _ direct _
      rw [direct] at count
      have known : arrival.request.commandClass = .getCommand ∨
          arrival.request.commandClass = .setCommand := by
        have request := arrival.isRequest
        unfold earlyCode at early
        cases kind : arrival.request.commandClass with
        | getCommand => exact .inl rfl
        | setCommand => exact .inr rfl
        | discoverCommand =>
          rw [if_pos kind] at early
          split at early <;> cases early
        | _ =>
          rw [kind] at request
          cases request
      obtain ⟨command, internal⟩ :=
        @ResponderOps.internalResponse_isSome _ (rdmOps version arrival.handled) rootRdmDevice
          arrival.request known
      have counted := count command internal
      rw [internalResponse_messageCount internal] at counted
      have zero : 0 = min 255 (history.ledger.waiting arrival.now).length := counted
      refine length_eq_zero_iff.mp ?_
      omega
    · intro empty command internal
      split at internal
      · cases internal
      · rename_i direct
        rw [empty early (Bool.eq_false_iff.mpr direct) unhandled,
          internalResponse_messageCount internal]
        rfl

/-- A handler answers that takes no messages. -/
theorem right_effect {handler : RDMHandler AckTimerResponder}
    (early : ResponderOps.earlyCode history.responder.uid arrival.request = none)
    (found : (rdmOps version arrival.handled).handlerFor rootRdmDevice arrival.request =
      some handler) (unasked : ¬ AsksQueue arrival.request) : Right version history arrival := by
  have released := follows.release inTime
  have waits := released_count follows inTime
  have silent : asks history.responder.uid arrival.request = none :=
    asks_eq_none fun both => unasked both.2
  have effect := effect_of_handlerFor found unasked
    (history.responder.queueAnyNewMessages arrival.now)
  generalize made : handler (history.responder.queueAnyNewMessages arrival.now) arrival.request =
    result at effect
  have responds : (rdmOps version arrival.handled).respond
      (history.responder.queueAnyNewMessages arrival.now) rootRdmDevice arrival.request =
        result := by
    unfold ResponderOps.respond
    rw [found]
    exact made
  obtain ⟨responder, response, answered⟩ := send_respond early responds
  have servable : Servable version history arrival := by
    refine (servable_iff_handled silent).mpr fun _ _ unhandled => ?_
    rw [found] at unhandled
    cases unhandled
  have counts : ∀ command, (history.responder.sendRDMRequest version arrival).2.response =
      some command → result.2 = some command := by
    intro command given
    rw [response] at given
    split at given
    · cases given
    · exact given
  cases effect with
  | quiet same count type =>
    have stepped : history.step version arrival = _ :=
      step_silent silent (fun command made => by
        rw [answered] at made
        cases made
        exact type)
    refine ⟨?_, iff_of_true ((serves_iff_count silent).mpr ?_) servable⟩
    · rw [stepped, responder]
      exact released.same same arrival.inOrder
    · intro command given
      cases counts command given
      rw [count, stepped]
      exact waits
  | @posts other same =>
    have stepped : history.step version arrival =
        ⟨(ackTimer other arrival.request arrival.handled arrival.request.paramId).1,
          ⟨history.ledger.posted ++ [⟨arrival.request.paramId, arrival.handled⟩],
            history.ledger.returned⟩, arrival.handled⟩ := by
      unfold History.step History.posts History.takes
      rw [silent, answered, responder]
      rfl
    refine ⟨?_, iff_of_true ((serves_iff_count silent).mpr ?_) servable⟩
    · rw [stepped]
      exact released.post same arrival.inOrder _ _
    · intro command given
      cases counts command given
      rw [stepped, waiting_append follows, ← waits]
      change UInt8.toNat (queuedMessageCount _) = _
      rw [queuedMessageCount_toNat, queuedMessageCount_toNat]
      exact congrArg (fun queued => min _ (List.length queued)) same.queued

/-- What a GET of `QUEUED_MESSAGE` that takes nothing does. -/
theorem right_taken_none {command : Command} (takes : history.takes arrival = 0)
    (sent : (history.responder.sendRDMRequest version arrival).1 =
      history.responder.queueAnyNewMessages arrival.now)
    (response : (history.responder.sendRDMRequest version arrival).2.response = some command)
    (answered : history.responder.answer version arrival = some command)
    (type : command.portId ≠ rdmAckTimer)
    (counted : command.messageCount =
      (history.responder.queueAnyNewMessages arrival.now).queuedMessageCount) :
    Follows (history.step version arrival) ∧
      ∀ other, (history.responder.sendRDMRequest version arrival).2.response = some other →
        other.messageCount.toNat = min maxQueuedMessageCount
          ((history.step version arrival).ledger.waiting arrival.now).length := by
  have posts : history.posts version arrival = [] := by
    unfold History.posts
    rw [answered]
    exact if_neg type
  have stepped : history.step version arrival =
      ⟨history.responder.queueAnyNewMessages arrival.now, history.ledger, arrival.handled⟩ := by
    unfold History.step
    rw [posts, takes, sent, append_nil, Nat.add_zero]
  constructor
  · rw [stepped]
    exact (follows.release inTime).same (sameQueues_self _) arrival.inOrder
  · intro other given
    rw [response] at given
    cases given
    rw [counted, stepped]
    exact released_count follows inTime

section Queue
variable {status : UInt8} {posting : Posting} {others : List Posting}
  (answered : QueueAnswered version history arrival
    ((history.responder.queueAnyNewMessages arrival.now).getQueuedMessage arrival.request))
include answered

theorem right_queue_format (extracted : extractUInt8 arrival.request = none) :
    Right version history arrival := by
  obtain ⟨asked, handled, responder, response, made⟩ := answered
  unfold getQueuedMessage at responder response made
  rw [extracted] at asked responder response made
  have takes : history.takes arrival = 0 := by
    unfold History.takes
    rw [asked]
  have differ : nackReasonType ≠ rdmAckTimer := by decide
  have taken := right_taken_none follows inTime takes responder response made differ rfl
  refine ⟨taken.1, iff_of_true ((serves_iff_count asked).mpr taken.2) ?_⟩
  exact (servable_iff_handled asked).mpr fun _ _ unhandled => absurd unhandled handled

/-- There is an empty status message where no message waits, whatever is asked for. -/
theorem right_queue_empty (get : arrival.request.commandClass = .getCommand)
    (extracted : extractUInt8 arrival.request = some status)
    (waits : history.ledger.waiting arrival.now = []) :
    Right version history arrival := by
  have queued := follows.released inTime
  obtain ⟨asked, handled, responder, response, made⟩ := answered
  unfold getQueuedMessage at responder response made
  rw [waits] at queued
  rw [extracted] at asked
  rw [extracted, queued] at responder response made
  obtain ⟨command, empty, brings, counted, type⟩ := brings_emptyStatus get
    (history.responder.queueAnyNewMessages arrival.now)
  have takes : history.takes arrival = 0 := by
    unfold History.takes
    rw [asked, waits]
    exact if_neg fun both => both.2 rfl
  have taken := right_taken_none follows inTime takes responder (response.trans empty)
    (made.trans empty) type counted
  refine ⟨taken.1, ?_⟩
  constructor
  · intro serves
    refine ⟨?_, fun _ _ unhandled => absurd unhandled handled⟩
    intro last _
    obtain ⟨other, given, brings'⟩ := serves.last last
    cases (response.trans empty).symm.trans given
    cases previous : history.ledger.last with
    | none => exact (last_eq_none_iff follows.enough).mp previous
    | some posting =>
      rw [previous] at brings'
      exact absurd brings' (not_brings brings)
  · intro servable
    refine ⟨?_, ?_, taken.2⟩
    · intro _ _ _
      rw [waits]
      exact ⟨command, response.trans empty, brings⟩
    · intro last
      rw [(last_eq_none_iff follows.enough).mpr (servable.notDrained last waits)]
      exact ⟨command, response.trans empty, brings⟩

/-- The last message is brought again, and none of those that wait is taken. -/
theorem right_queue_again (get : arrival.request.commandClass = .getCommand)
    (extracted : extractUInt8 arrival.request = some statusGetLastMessage)
    (waits : history.ledger.waiting arrival.now = posting :: others) :
    Right version history arrival := by
  have queued := follows.released inTime
  have servable : Servable version history arrival := servable_of_waiting waits answered.handled
  rw [waits, map_cons] at queued
  obtain ⟨command, made, brings, counted, type⟩ :=
    getQueuedMessage_again get extracted queued follows.last
  rw [made] at answered
  have asked := answered.asks
  rw [extracted] at asked
  have takes : history.takes arrival = 0 := by
    unfold History.takes
    rw [asked]
    exact if_neg fun both => both.1 rfl
  have taken := right_taken_none follows inTime takes answered.responder answered.response
    answered.answered type counted
  refine ⟨taken.1, iff_of_true ⟨?_, fun _ => ⟨command, answered.response, brings⟩, taken.2⟩
    servable⟩
  intro other asked' different
  rw [asked] at asked'
  exact absurd (Option.some.inj asked').symm different

/-- The first message that waits is taken. -/
theorem right_queue_next (extracted : extractUInt8 arrival.request = some status)
    (different : status ≠ statusGetLastMessage)
    (waits : history.ledger.waiting arrival.now = posting :: others) :
    Right version history arrival := by
  have queued := follows.released inTime
  have servable : Servable version history arrival := servable_of_waiting waits answered.handled
  obtain ⟨asked, handled, responder, response, made⟩ := answered
  unfold getQueuedMessage at responder response made
  rw [waits, map_cons] at queued
  rw [extracted] at asked
  rw [extracted, queued] at responder response made
  dsimp only at responder response made
  rw [if_neg different] at responder response made
  obtain ⟨command, message, brings, counted, type⟩ := brings_message
    { history.responder.queueAnyNewMessages arrival.now with
      queuedMessages := others.map Posting.message
      lastQueuedMessage := some posting.message } arrival.request posting
  have takes : history.takes arrival = 1 := by
    unfold History.takes
    rw [asked, waits]
    exact if_pos ⟨different, cons_ne_nil posting others⟩
  have posts : history.posts version arrival = [] := by
    unfold History.posts
    rw [made.trans message]
    exact if_neg type
  have stepped : history.step version arrival =
      ⟨{ history.responder.queueAnyNewMessages arrival.now with
          queuedMessages := others.map Posting.message
          lastQueuedMessage := some posting.message },
        ⟨history.ledger.posted, history.ledger.returned + 1⟩, arrival.handled⟩ := by
    unfold History.step
    rw [posts, takes, responder, append_nil]
  refine ⟨?_, iff_of_true ⟨?_, ?_, ?_⟩ servable⟩
  · rw [stepped]
    exact ((follows.release inTime).pop queued).same (sameQueues_self _) arrival.inOrder
  · intro _ _ _
    rw [waits]
    exact ⟨command, response.trans message, brings⟩
  · intro last
    rw [asked] at last
    exact absurd (Option.some.inj last) different
  · intro other given
    cases (response.trans message).symm.trans given
    rw [counted, stepped, waiting_pop waits, queuedMessageCount_toNat, length_map]

end Queue

end Requests

/-- Each request keeps the invariant, and those that can be served are. -/
theorem right_step (follows : Follows history) (inTime : history.InTime arrival) :
    Right version history arrival := by
  cases early : earlyCode history.responder.uid arrival.request with
  | some code => exact right_early follows inTime early
  | none =>
    by_cases asked : AsksQueue arrival.request
    · have answered : QueueAnswered version history arrival _ := queueAnswered early asked
      cases extracted : extractUInt8 arrival.request with
      | none => exact right_queue_format follows inTime answered extracted
      | some status =>
        cases waits : history.ledger.waiting arrival.now with
        | nil => exact right_queue_empty follows inTime answered asked.1 extracted waits
        | cons posting others =>
          by_cases again : status = statusGetLastMessage
          · subst again
            exact right_queue_again follows inTime answered asked.1 extracted waits
          · exact right_queue_next follows inTime answered extracted again waits
    · cases found : (rdmOps version arrival.handled).handlerFor rootRdmDevice
          arrival.request with
      | none => exact right_internal follows inTime early found
      | some handler => exact right_effect follows inTime early found asked

end Step

/-- Among runs in which the times do not fall, those that are served all the way are those of
requests that can be served. -/
theorem served_iff_servable (version : List UInt8) (uid : UID) (arrivals : List Arrival)
    (inTime : Permitted (History.step version) History.InTime (.new uid) arrivals) :
    (∀ past arrival future, arrivals = past ++ arrival :: future →
      Serves version (run (History.step version) (.new uid) past) arrival) ↔
    Permitted (History.step version) (Servable version) (.new uid) arrivals := by
  have keeps : ∀ history arrival, Follows history → history.InTime arrival →
      Servable version history arrival → Follows (history.step version arrival) :=
    fun _ _ follows timely _ => (right_step follows timely).1
  have meets : ∀ history arrival, Follows history → history.InTime arrival →
      (Serves version history arrival ↔ Servable version history arrival) :=
    fun _ _ follows timely => (right_step follows timely).2
  exact steps_iff_permitted_within keeps meets (follows_new uid) inTime

/-- A request to the device `1:2`, at some time. -/
def exampleArrival (time : Nat) (commandClass : CommandClass) (pid : UInt16)
    (paramData : List UInt8) (isRequest : commandClass.messageType = .request) : Arrival where
  now := time
  handled := time
  request := ⟨⟨3, 4⟩, ⟨1, 2⟩, 0, 1, 0, 0, commandClass, pid, paramData⟩
  inOrder := le_rfl
  isRequest := isRequest

/-- A SET of `IDENTIFY_DEVICE`, and GETs of its message and of the last message. -/
def exampleArrivals : List Arrival :=
  [exampleArrival 0 .setCommand pidIdentifyDevice [1] rfl,
    exampleArrival 400000 .getCommand pidQueuedMessage [4] rfl,
    exampleArrival 400000 .getCommand pidQueuedMessage [1] rfl]

theorem served_iff_servable_example :
    Permitted (History.step []) History.InTime (.new ⟨1, 2⟩) exampleArrivals ∧
    ((∀ past arrival future, exampleArrivals = past ++ arrival :: future →
      Serves [] (run (History.step []) (.new ⟨1, 2⟩) past) arrival) ↔
    Permitted (History.step []) (Servable []) (.new ⟨1, 2⟩) exampleArrivals) := by
  have inTime : Permitted (History.step []) History.InTime (.new ⟨1, 2⟩) exampleArrivals :=
    ⟨Nat.zero_le _, Nat.zero_le _, le_rfl, trivial⟩
  exact ⟨inTime, served_iff_servable [] ⟨1, 2⟩ exampleArrivals inTime⟩

/-- The queue is empty after the message was returned, and it is not returned again. -/
theorem not_forall_served :
    ¬ ∀ (version : List UInt8) (uid : UID) (arrivals : List Arrival),
      Permitted (History.step version) History.InTime (.new uid) arrivals →
        ∀ past arrival future, arrivals = past ++ arrival :: future →
          Serves version (run (History.step version) (.new uid) past) arrival := by
  intro all
  have inTime : Permitted (History.step []) History.InTime (.new ⟨1, 2⟩) exampleArrivals :=
    ⟨Nat.zero_le _, Nat.zero_le _, le_rfl, trivial⟩
  have serves := all [] ⟨1, 2⟩ exampleArrivals inTime (exampleArrivals.take 2)
    (exampleArrival 400000 .getCommand pidQueuedMessage [1] rfl) [] rfl
  obtain ⟨command, given, brings⟩ := serves.last rfl
  have ledger : (run (History.step []) (.new ⟨1, 2⟩) (exampleArrivals.take 2)).ledger.last =
      some ⟨pidIdentifyDevice, 0⟩ := rfl
  have status : command.commandClass = .getCommandResponse := by
    cases given
    rfl
  rw [brings.2.1] at status
  cases status

end OpenLighting.Rdm.AckTimerResponder
