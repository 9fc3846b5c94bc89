import OpenLighting.DiscoveryAgent
import OpenLighting.TransitionSystem

namespace OpenLighting.DiscoveryAgent

abbrev Exchange := Request × Reply

/-- A target answers each request from what it has seen so far, newest first. -/
abbrev Target := List Exchange → Request → Reply

/-- Why a range left the stack. -/
inductive PopCause where
  | noResponse
  | limitReached
  deriving DecidableEq, Repr

/-- The range an agent's step took off the stack, if it took one. -/
def popped (before after : Agent) (cause : PopCause) : List (UIDRange × PopCause) :=
  if after.uidRanges.length < before.uidRanges.length then
    (before.uidRanges.head?.toList).map (·, cause)
  else []

/-- One discovery run: the agent, what it does next, and what has happened. -/
structure Session where
  agent : Agent
  next : Next
  history : List Exchange
  pops : List (UIDRange × PopCause)
  ran : List (Nat × Bool × UIDSet)

def Session.after (session : Session) (result : Agent × Next) (cause : PopCause) : Session where
  agent := result.1
  next := result.2
  history := session.history
  pops := popped session.agent result.1 cause ++ session.pops
  ran :=
    match result.2 with
    | .complete callback status uids => (callback, status, uids) :: session.ran
    | .fail callback => (callback, false, ∅) :: session.ran
    | _ => session.ran

/-- `StartFullDiscovery` or `StartIncrementalDiscovery` with no request in flight. -/
def Session.start (agent : Agent) (incremental : Bool) (callback : Nat) : Session :=
  Session.after ⟨agent, .finished, [], [], []⟩ (initDiscovery agent callback incremental)
    .limitReached

/-- Enter `SendDiscovery`, or have the outstanding request answered. -/
def Session.step (target : Target) (session : Session) : Session :=
  match session.next with
  | .sendDiscovery => session.after (sendDiscovery session.agent) .limitReached
  | .request request =>
    let reply := target session.history request
    { session.after (deliver session.agent reply request) .noResponse with
      history := (request, reply) :: session.history }
  | _ => session

def Agent.Idle (agent : Agent) : Prop := agent.onComplete = none ∧ agent.uidRanges = []

theorem Agent.new_idle (treeCorrupt : Bool) : (Agent.new treeCorrupt).Idle := ⟨rfl, rfl⟩

/-- The position of the closest range that has been visited. -/
def visitedBelow : List UIDRange → Option Nat
  | [] => none
  | range :: rest => if range.attempt = 0 then visitedBelow rest else some rest.length

variable {stack : List UIDRange} {position : Nat} {update : UIDRange → UIDRange}

theorem visitedBelow_lt (visited : visitedBelow stack = some position) :
    position < stack.length := by
  induction stack with
  | nil => cases visited
  | cons range rest ih =>
    unfold visitedBelow at visited
    split at visited
    · have below := ih visited
      simp only [List.length_cons]
      omega
    · cases visited
      simp

/-- A range together with everything below it on the stack. -/
structure UIDRange.Sound (range : UIDRange) (rest : List UIDRange) : Prop where
  ordered : range.lower ≤ range.upper
  attempts : range.attempt < maxEmptyBranchAttempts
  failures : range.failures ≤ maxBranchFailures
  counted : range.uidsDiscovered < unsignedInt
  fresh : range.attempt = 0 → range.uidsDiscovered = 0
  parent : range.parent = visitedBelow rest
  linked : rest ≠ [] → range.parent ≠ none
  nested : ∀ outer ∈ rest, outer.attempt ≠ 0 →
    outer.lower ≤ range.lower ∧ range.upper ≤ outer.upper

def Stacked : List UIDRange → Prop
  | [] => True
  | range :: rest => range.Sound rest ∧ Stacked rest

/-- The updates made to a range below the top leave its place in the tree alone. -/
structure Placed (update : UIDRange → UIDRange) : Prop where
  lower : ∀ range, (update range).lower = range.lower
  upper : ∀ range, (update range).upper = range.upper
  attempt : ∀ range, (update range).attempt = range.attempt
  parent : ∀ range, (update range).parent = range.parent
  failures : ∀ range, (update range).failures = range.failures
  counted : ∀ range, range.uidsDiscovered < unsignedInt →
    (update range).uidsDiscovered < unsignedInt

theorem addDiscovered_placed (count : Nat) : Placed (UIDRange.addDiscovered count) where
  lower _ := rfl
  upper _ := rfl
  attempt _ := rfl
  parent _ := rfl
  failures _ := rfl
  counted _ _ := Nat.mod_lt _ (by decide)

theorem corrupt_placed : Placed UIDRange.corrupt where
  lower _ := rfl
  upper _ := rfl
  attempt _ := rfl
  parent _ := rfl
  failures _ := rfl
  counted _ bound := bound

@[simp] theorem modifyRange_length (position : Nat) (update : UIDRange → UIDRange)
    (stack : List UIDRange) : (modifyRange position update stack).length = stack.length := by
  induction stack with
  | nil => rfl
  | cons range rest ih =>
    unfold modifyRange
    split <;> simp [ih]

theorem mem_modifyRange {range : UIDRange} (member : range ∈ modifyRange position update stack) :
    ∃ old ∈ stack, range = old ∨ range = update old := by
  induction stack with
  | nil => simp [modifyRange] at member
  | cons head rest ih =>
    unfold modifyRange at member
    split at member
    · rcases List.mem_cons.mp member with rfl | member
      · exact ⟨head, by simp, Or.inr rfl⟩
      · exact ⟨range, by simp [member], Or.inl rfl⟩
    · rcases List.mem_cons.mp member with rfl | member
      · exact ⟨range, by simp, Or.inl rfl⟩
      · obtain ⟨old, inside, same⟩ := ih member
        exact ⟨old, by simp [inside], same⟩

theorem Placed.visitedBelow (placed : Placed update) (position : Nat) (stack : List UIDRange) :
    visitedBelow (modifyRange position update stack) =
      DiscoveryAgent.visitedBelow stack := by
  induction stack with
  | nil => rfl
  | cons range rest ih =>
    unfold modifyRange
    split
    · simp only [DiscoveryAgent.visitedBelow, placed.attempt]
    · simp only [DiscoveryAgent.visitedBelow, modifyRange_length, ih]

theorem Placed.sound {update : UIDRange → UIDRange} (placed : Placed update)
    (position : Nat) {range : UIDRange} {rest : List UIDRange} (sound : range.Sound rest) :
    range.Sound (modifyRange position update rest) := by
  refine { sound with parent := ?_, linked := ?_, nested := ?_ }
  · rw [placed.visitedBelow, sound.parent]
  · intro nonempty
    apply sound.linked
    rintro rfl
    exact nonempty rfl
  · intro outer member visited
    obtain ⟨old, inside, rfl | rfl⟩ := mem_modifyRange member
    · exact sound.nested outer inside visited
    · rw [placed.attempt] at visited
      rw [placed.lower, placed.upper]
      exact sound.nested old inside visited

/-- Only visited ranges are updated, which is why `fresh` survives. -/
theorem Placed.stacked (placed : Placed update) (stacked : Stacked stack)
    (visited : DiscoveryAgent.visitedBelow stack = some position) :
    Stacked (modifyRange position update stack) := by
  induction stack with
  | nil => trivial
  | cons range rest ih =>
    obtain ⟨sound, below⟩ := stacked
    unfold modifyRange
    by_cases unvisited : range.attempt = 0
    · simp only [DiscoveryAgent.visitedBelow, unvisited, ↓reduceIte] at visited
      have deeper : rest.length ≠ position := Nat.ne_of_gt (visitedBelow_lt visited)
      rw [if_neg deeper]
      exact ⟨placed.sound position sound, ih below visited⟩
    · simp only [DiscoveryAgent.visitedBelow, unvisited, ↓reduceIte, Option.some.injEq] at visited
      rw [if_pos visited]
      refine ⟨⟨?_, ?_, ?_, placed.counted range sound.counted, ?_, ?_, ?_, ?_⟩, below⟩
      · rw [placed.lower, placed.upper]
        exact sound.ordered
      · rw [placed.attempt]
        exact sound.attempts
      · rw [placed.failures]
        exact sound.failures
      · rw [placed.attempt]
        intro impossible
        omega
      · rw [placed.parent]
        exact sound.parent
      · rw [placed.parent]
        exact sound.linked
      · rw [placed.lower, placed.upper]
        exact sound.nested

/-- Requests sent before the first branch. -/
def Request.Preliminary : Request → Prop
  | .unMuteAll => True
  | .muteDevice _ .incrementalMute => True
  | .muteDevice _ .branchMute => False
  | .branch _ _ => False

/-- A previously known device that does not answer its mute is forgotten. -/
def purge (agent : Agent) (reply : Reply) : Request → Agent
  | .muteDevice _ .incrementalMute =>
    if reply.status then agent else { agent with uids := agent.uids.erase agent.mutingUid }
  | _ => agent

/-- The two halves a colliding range is split into, above the range itself. -/
def splitRange (range : UIDRange) (rest : List UIDRange) : List UIDRange :=
  let mid := (range.lower.toNat + range.upper.toNat) / 2
  UIDRange.new (UID.ofNat (mid + 1)) range.upper (some rest.length) ::
  UIDRange.new range.lower (UID.ofNat mid) (some rest.length) ::
  { range with uidsDiscovered := 0 } :: rest

/-- Everything a run can do in one step. The reply is irrelevant to the steps
of `SendDiscovery`. -/
inductive Transition (agent : Agent) (reply : Reply) : Next → Agent → Next → Prop
  | muteNext (request : Request) (uid : UID) (queue : List UID)
      (preliminary : request.Preliminary) (waiting : agent.uidsToMute = uid :: queue) :
      Transition agent reply (.request request)
        { purge agent reply request with mutingUid := uid, uidsToMute := queue }
        (.request (.muteDevice uid .incrementalMute))
  | muteDone (request : Request) (preliminary : request.Preliminary)
      (drained : agent.uidsToMute = []) :
      Transition agent reply (.request request) (purge agent reply request) .sendDiscovery
  | complete (callback : Nat) (registered : agent.onComplete = some callback)
      (empty : agent.uidRanges = []) :
      Transition agent reply .sendDiscovery agent
        (.complete callback (!agent.treeCorrupt) agent.uids)
  | abandonRoot (range : UIDRange) (stack : agent.uidRanges = [range])
      (limit : range.visit.LimitReached) :
      Transition agent reply .sendDiscovery
        { agent with treeCorrupt := agent.treeCorrupt || range.branchCorrupt, uidRanges := [] }
        .sendDiscovery
  | abandon (range : UIDRange) (rest : List UIDRange) (parent : Nat)
      (stack : agent.uidRanges = range :: rest) (child : range.parent = some parent)
      (limit : range.visit.LimitReached) :
      Transition agent reply .sendDiscovery
        { agent with
          uidRanges := modifyRange parent (UIDRange.addDiscovered range.uidsDiscovered)
            (modifyRange parent UIDRange.corrupt rest) }
        .sendDiscovery
  | visit (range : UIDRange) (rest : List UIDRange) (stack : agent.uidRanges = range :: rest)
      (below : ¬ range.visit.LimitReached) :
      Transition agent reply .sendDiscovery { agent with uidRanges := range.visit :: rest }
        (.request (.branch range.lower range.upper))
  | silentRoot (range : UIDRange) (stack : agent.uidRanges = [range])
      (silent : reply.data = []) :
      Transition agent reply (.request (.branch range.lower range.upper))
        { agent with treeCorrupt := agent.treeCorrupt || range.branchCorrupt, uidRanges := [] }
        .sendDiscovery
  | silent (range : UIDRange) (rest : List UIDRange) (parent : Nat)
      (stack : agent.uidRanges = range :: rest) (child : range.parent = some parent)
      (silent : reply.data = []) :
      Transition agent reply (.request (.branch range.lower range.upper))
        { agent with
          uidRanges := modifyRange parent (UIDRange.addDiscovered range.uidsDiscovered) rest }
        .sendDiscovery
  | endOfTree (range : UIDRange) (rest : List UIDRange) (stack : agent.uidRanges = range :: rest)
      (answered : reply.data ≠ []) (collision : locatedUid reply.data = none)
      (single : range.lower = range.upper) :
      Transition agent reply (.request (.branch range.lower range.upper))
        { agent with uidRanges := range.addFailure :: rest } .sendDiscovery
  | split (range : UIDRange) (rest : List UIDRange) (stack : agent.uidRanges = range :: rest)
      (answered : reply.data ≠ []) (collision : locatedUid reply.data = none)
      (wide : range.lower ≠ range.upper) :
      Transition agent reply (.request (.branch range.lower range.upper))
        { agent with uidRanges := splitRange range rest } .sendDiscovery
  | repeated (range : UIDRange) (rest : List UIDRange) (uid : UID)
      (stack : agent.uidRanges = range :: rest) (located : locatedUid reply.data = some uid)
      (known : uid ∈ agent.uids ∨ uid ∈ agent.badUids) :
      Transition agent reply (.request (.branch range.lower range.upper))
        { agent with uidRanges := range.addFailure :: rest } .sendDiscovery
  | located (range : UIDRange) (rest : List UIDRange) (uid : UID)
      (stack : agent.uidRanges = range :: rest) (located : locatedUid reply.data = some uid)
      (unknown : uid ∉ agent.uids) (untried : uid ∉ agent.badUids) :
      Transition agent reply (.request (.branch range.lower range.upper))
        { agent with mutingUid := uid, muteAttempts := 0 }
        (.request (.muteDevice uid .branchMute))
  | muted (range : UIDRange) (rest : List UIDRange) (stack : agent.uidRanges = range :: rest)
      (success : reply.status = true) :
      Transition agent reply (.request (.muteDevice agent.mutingUid .branchMute))
        { agent with
          muteAttempts := (agent.muteAttempts + 1) % unsignedInt
          uids := insert agent.mutingUid agent.uids
          uidRanges := range.addDiscovered 1 :: rest }
        .sendDiscovery
  | retry (failed : reply.status = false)
      (again : (agent.muteAttempts + 1) % unsignedInt < maxMuteAttempts) :
      Transition agent reply (.request (.muteDevice agent.mutingUid .branchMute))
        { agent with muteAttempts := (agent.muteAttempts + 1) % unsignedInt }
        (.request (.muteDevice agent.mutingUid .branchMute))
  | gaveUp (failed : reply.status = false)
      (spent : ¬ (agent.muteAttempts + 1) % unsignedInt < maxMuteAttempts) :
      Transition agent reply (.request (.muteDevice agent.mutingUid .branchMute))
        { agent with
          muteAttempts := (agent.muteAttempts + 1) % unsignedInt
          badUids := insert agent.mutingUid agent.badUids }
        .sendDiscovery

/-- The top of the stack while a branch or the mute that follows it is outstanding. -/
structure UIDRange.Visited (range : UIDRange) : Prop where
  visited : range.attempt ≠ 0
  failures : range.failures < maxBranchFailures
  clean : range.branchCorrupt = false

/-- What holds of the agent at each point of a run. -/
def Live (agent : Agent) : Next → Prop
  | .request .unMuteAll =>
    agent.onComplete ≠ none ∧ agent.uidRanges = [UIDRange.new ⟨0, 0⟩ UID.allDevices none]
  | .request (.muteDevice uid .incrementalMute) =>
    agent.onComplete ≠ none ∧ agent.uidRanges = [UIDRange.new ⟨0, 0⟩ UID.allDevices none] ∧
      agent.mutingUid = uid
  | .request (.branch lower upper) =>
    agent.onComplete ≠ none ∧ Stacked agent.uidRanges ∧
      ∃ range rest, agent.uidRanges = range :: rest ∧ range.Visited ∧
        range.lower = lower ∧ range.upper = upper
  | .request (.muteDevice uid .branchMute) =>
    agent.onComplete ≠ none ∧ Stacked agent.uidRanges ∧ agent.mutingUid = uid ∧
      uid ∉ agent.uids ∧ uid ∉ agent.badUids ∧ agent.muteAttempts < maxMuteAttempts ∧
      ∃ range rest, agent.uidRanges = range :: rest ∧ range.Visited
  | .sendDiscovery => agent.onComplete ≠ none ∧ Stacked agent.uidRanges
  | .complete callback status uids =>
    agent.onComplete = some callback ∧ agent.uidRanges = [] ∧
      status = !agent.treeCorrupt ∧ uids = agent.uids
  | .fail _ => False
  | .finished => False
  | .fault _ => False

end OpenLighting.DiscoveryAgent
