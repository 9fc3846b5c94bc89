import OpenLighting.DiscoveryAgentRun

namespace OpenLighting.DiscoveryAgent

open Session

theorem freeCurrentRange_root (agent : Agent) (range : UIDRange)
    (stack : agent.uidRanges = [range]) :
    freeCurrentRange agent =
      .ok { agent with
        treeCorrupt := agent.treeCorrupt || range.branchCorrupt, uidRanges := [] } := by
  simp only [freeCurrentRange, stack]

theorem freeCurrentRange_child (agent : Agent) (range : UIDRange) (rest : List UIDRange)
    (parent : Nat) (stack : agent.uidRanges = range :: rest) (nonempty : rest ≠ [])
    (child : range.parent = some parent) :
    freeCurrentRange agent =
      .ok { agent with
        uidRanges := modifyRange parent (UIDRange.addDiscovered range.uidsDiscovered) rest } := by
  cases rest with
  | nil => exact absurd rfl nonempty
  | cons next rest => simp only [freeCurrentRange, stack, child]

variable {range : UIDRange} {rest : List UIDRange} {agent : Agent} {parent : Nat}
  {session : Session}

/-- A sound range is either the root or has a parent to report to. -/
theorem UIDRange.Sound.root_or_child (sound : range.Sound rest) :
    (rest = [] ∧ range.parent = none) ∨ (rest ≠ [] ∧ ∃ parent, range.parent = some parent) := by
  cases rest with
  | nil => exact Or.inl ⟨rfl, sound.parent⟩
  | cons next rest =>
    refine Or.inr ⟨List.cons_ne_nil _ _, ?_⟩
    exact Option.ne_none_iff_exists'.mp (sound.linked (List.cons_ne_nil _ _))

theorem visit_parent (range : UIDRange) : range.visit.parent = range.parent := by
  unfold UIDRange.visit
  split <;> rfl

theorem visit_lower (range : UIDRange) : range.visit.lower = range.lower := by
  unfold UIDRange.visit
  split <;> rfl

theorem visit_upper (range : UIDRange) : range.visit.upper = range.upper := by
  unfold UIDRange.visit
  split <;> rfl

theorem visit_failures (range : UIDRange) : range.visit.failures = range.failures := by
  unfold UIDRange.visit
  split <;> rfl

theorem visit_uidsDiscovered (range : UIDRange) :
    range.visit.uidsDiscovered = range.uidsDiscovered := by
  unfold UIDRange.visit
  split <;> rfl

theorem visit_branchCorrupt (range : UIDRange) :
    range.visit.branchCorrupt = range.branchCorrupt := by
  unfold UIDRange.visit
  split <;> rfl

theorem visit_attempt (sound : range.Sound rest) :
    range.visit.attempt =
      if range.uidsDiscovered = 0 then range.attempt + 1 else range.attempt := by
  have bound := sound.attempts
  unfold maxEmptyBranchAttempts at bound
  unfold UIDRange.visit
  split
  · exact Nat.mod_eq_of_lt (by unfold unsignedInt; omega)
  · rfl

theorem visit_attempt_ne_zero (sound : range.Sound rest) : range.visit.attempt ≠ 0 := by
  rw [visit_attempt sound]
  split
  · omega
  · rename_i discovered
    exact fun unvisited => discovered (sound.fresh unvisited)

theorem abandonRange_transition (agent : Agent) (reply : Reply) (range : UIDRange)
    (rest : List UIDRange) (stack : agent.uidRanges = range :: rest) (sound : range.Sound rest)
    (limit : range.visit.LimitReached) :
    Transition agent reply .sendDiscovery (abandonRange agent range.visit rest).1
      (abandonRange agent range.visit rest).2 := by
  rcases sound.root_or_child with ⟨rfl, root⟩ | ⟨nonempty, parent, child⟩
  · have freed := freeCurrentRange_root { agent with uidRanges := [range.visit] } range.visit rfl
    simp only [abandonRange, visit_parent, root, freed, visit_branchCorrupt]
    exact .abandonRoot range stack limit
  · have below : modifyRange parent UIDRange.corrupt rest ≠ [] := by
      rw [← List.length_pos_iff, modifyRange_length, List.length_pos_iff]
      exact nonempty
    have freed := freeCurrentRange_child
      { agent with uidRanges := range.visit :: modifyRange parent UIDRange.corrupt rest }
      range.visit _ parent rfl below ((visit_parent range).trans child)
    simp only [abandonRange, visit_parent, child, freed, visit_uidsDiscovered]
    exact .abandon range rest parent stack child limit

theorem sendDiscovery_transition (reply : Reply) (live : Live agent .sendDiscovery) :
    Transition agent reply .sendDiscovery (sendDiscovery agent).1 (sendDiscovery agent).2 := by
  obtain ⟨registered, stacked⟩ := live
  obtain ⟨callback, registered⟩ := Option.ne_none_iff_exists'.mp registered
  cases stack : agent.uidRanges with
  | nil =>
    simp only [sendDiscovery, stack, registered]
    exact .complete callback registered stack
  | cons range rest =>
    rw [stack] at stacked
    simp only [sendDiscovery, stack]
    split
    · rename_i limit
      exact abandonRange_transition agent reply range rest stack stacked.1 limit
    · rename_i below
      exact .visit range rest stack below

theorem maybeMute_transition (reply : Reply) (request : Request) (preliminary : request.Preliminary) :
    Transition agent reply (.request request) (maybeMuteNextDevice (purge agent reply request)).1
      (maybeMuteNextDevice (purge agent reply request)).2 := by
  have queue : (purge agent reply request).uidsToMute = agent.uidsToMute := by
    unfold purge
    split
    · split <;> rfl
    · rfl
  cases waiting : agent.uidsToMute with
  | nil =>
    simp only [maybeMuteNextDevice, queue, waiting]
    exact .muteDone request preliminary waiting
  | cons uid rest =>
    simp only [maybeMuteNextDevice, queue, waiting]
    exact .muteNext request uid rest preliminary waiting

theorem handleCollision_transition (reply : Reply) (range : UIDRange) (rest : List UIDRange)
    (stack : agent.uidRanges = range :: rest) (answered : reply.data ≠ [])
    (collision : locatedUid reply.data = none) :
    Transition agent reply (.request (.branch range.lower range.upper))
      (handleCollision agent).1 (handleCollision agent).2 := by
  simp only [handleCollision, stack]
  split
  · rename_i single
    exact .endOfTree range rest stack answered collision single
  · rename_i wide
    exact .split range rest stack answered collision wide

theorem branchComplete_transition (reply : Reply) (range : UIDRange) (rest : List UIDRange)
    (stack : agent.uidRanges = range :: rest) (sound : range.Sound rest) :
    Transition agent reply (.request (.branch range.lower range.upper))
      (branchComplete agent reply.data).1 (branchComplete agent reply.data).2 := by
  unfold branchComplete
  split
  · rename_i timeout
    have silent : reply.data = [] := List.length_eq_zero_iff.mp timeout
    rcases sound.root_or_child with ⟨rfl, root⟩ | ⟨nonempty, parent, child⟩
    · rw [freeCurrentRange_root agent range stack]
      exact .silentRoot range stack silent
    · rw [freeCurrentRange_child agent range rest parent stack nonempty child]
      exact .silent range rest parent stack child silent
  · rename_i answered
    have answered : reply.data ≠ [] := fun silent => answered (by rw [silent]; rfl)
    cases located : locatedUid reply.data with
    | none => exact handleCollision_transition reply range rest stack answered located
    | some uid =>
      simp only [stack]
      by_cases known : uid ∈ agent.uids
      · simp only [known, ↓reduceIte]
        exact .repeated range rest uid stack located (Or.inl known)
      · by_cases tried : uid ∈ agent.badUids
        · simp only [known, tried, ↓reduceIte]
          exact .repeated range rest uid stack located (Or.inr tried)
        · simp only [known, tried, ↓reduceIte]
          rw [← stack]
          exact .located range rest uid stack located known tried

theorem branchMuteComplete_transition (reply : Reply) (range : UIDRange) (rest : List UIDRange)
    (stack : agent.uidRanges = range :: rest) :
    Transition agent reply (.request (.muteDevice agent.mutingUid .branchMute))
      (branchMuteComplete agent reply.status).1 (branchMuteComplete agent reply.status).2 := by
  cases status : reply.status with
  | true =>
    simp only [branchMuteComplete, stack, ↓reduceIte]
    exact .muted range rest stack status
  | false =>
    simp only [branchMuteComplete, Bool.false_eq_true, ↓reduceIte]
    split
    · rename_i again
      exact .retry status again
    · rename_i spent
      exact .gaveUp status spent

theorem deliver_transition (reply : Reply) (request : Request)
    (live : Live agent (.request request)) :
    Transition agent reply (.request request) (deliver agent reply request).1
      (deliver agent reply request).2 := by
  cases request with
  | unMuteAll => exact maybeMute_transition reply .unMuteAll trivial
  | muteDevice uid callback =>
    cases callback with
    | incrementalMute =>
      exact maybeMute_transition reply (.muteDevice uid .incrementalMute) trivial
    | branchMute =>
      obtain ⟨_, _, rfl, _, _, _, range, rest, stack, _⟩ := live
      exact branchMuteComplete_transition reply range rest stack
  | branch lower upper =>
    obtain ⟨_, stacked, range, rest, stack, _, rfl, rfl⟩ := live
    rw [stack] at stacked
    exact branchComplete_transition reply range rest stack stacked.1

section

variable (sound : range.Sound rest)
include sound

theorem UIDRange.Sound.visit (below : ¬ range.visit.LimitReached) : range.visit.Sound rest := by
  have attempts := sound.attempts
  have unlimited : range.visit.attempt ≠ maxEmptyBranchAttempts := fun same =>
    below (Or.inr (Or.inl same))
  refine ⟨?_, ?_, ?_, ?_, ?_, ?_, ?_, ?_⟩
  · rw [visit_lower, visit_upper]
    exact sound.ordered
  · rw [visit_attempt sound] at unlimited ⊢
    by_cases empty : range.uidsDiscovered = 0
    · rw [if_pos empty] at unlimited ⊢
      omega
    · rw [if_neg empty]
      exact attempts
  · rw [visit_failures]
    exact sound.failures
  · rw [visit_uidsDiscovered]
    exact sound.counted
  · intro unvisited
    exact absurd unvisited (visit_attempt_ne_zero sound)
  · rw [visit_parent]
    exact sound.parent
  · rw [visit_parent]
    exact sound.linked
  · rw [visit_lower, visit_upper]
    exact sound.nested

theorem UIDRange.Sound.visited (below : ¬ range.visit.LimitReached) : range.visit.Visited := by
  have failures := sound.failures
  have unlimited : range.visit.failures ≠ maxBranchFailures := fun same => below (Or.inl same)
  refine ⟨visit_attempt_ne_zero sound, ?_, ?_⟩
  · rw [visit_failures] at unlimited ⊢
    omega
  · exact Bool.eq_false_iff.mpr fun corrupt => below (Or.inr (Or.inr corrupt))

theorem UIDRange.Sound.addFailure (visited : range.Visited) : range.addFailure.Sound rest := by
  refine { sound with failures := ?_ }
  have failures := visited.failures
  have bound := Nat.mod_le (range.failures + 1) unsignedInt
  simp only [UIDRange.addFailure]
  omega

/-- Discoveries are only counted against a range that has been visited. -/
theorem UIDRange.Sound.addDiscovered (visited : range.attempt ≠ 0) (count : Nat) :
    (range.addDiscovered count).Sound rest :=
  ⟨sound.ordered, sound.attempts, sound.failures, Nat.mod_lt _ (by decide),
    fun unvisited => absurd unvisited visited, sound.parent, sound.linked, sound.nested⟩

theorem UIDRange.Sound.reset : ({ range with uidsDiscovered := 0 } : UIDRange).Sound rest :=
  { sound with counted := Nat.two_pow_pos 32, fresh := fun _ => rfl }

end

/-- Where a range of at least two UIDs is cut. -/
theorem split_bounds (ordered : range.lower ≤ range.upper) (wide : range.lower ≠ range.upper) :
    let mid := (range.lower.toNat + range.upper.toNat) / 2
    range.lower.toNat ≤ mid ∧ mid < range.upper.toNat ∧
      (UID.ofNat mid).toNat = mid ∧ (UID.ofNat (mid + 1)).toNat = mid + 1 := by
  have apart : range.lower.toNat ≠ range.upper.toNat := fun same => wide (UID.toNat_inj.mp same)
  have bound := range.upper.toNat_lt
  rw [UID.le_iff] at ordered
  refine ⟨by omega, by omega, UID.toNat_ofNat (by omega), UID.toNat_ofNat (by omega)⟩

/-- A fresh range inside a visited one, with at most fresh ranges in between. -/
theorem fresh_sound {lower upper : UID} (ordered : lower ≤ upper)
    (below : visitedBelow rest = some parent)
    (nested : ∀ outer ∈ rest, outer.attempt ≠ 0 → outer.lower ≤ lower ∧ upper ≤ outer.upper) :
    (UIDRange.new lower upper (some parent)).Sound rest :=
  ⟨ordered, (by decide : 0 < maxEmptyBranchAttempts), Nat.zero_le _, Nat.two_pow_pos 32,
    fun _ => rfl, below.symm, fun _ => Option.some_ne_none parent, nested⟩

theorem splitRange_stacked (stacked : Stacked (range :: rest)) (visited : range.Visited)
    (wide : range.lower ≠ range.upper) : Stacked (splitRange range rest) := by
  obtain ⟨sound, below⟩ := stacked
  obtain ⟨above, inside, low, high⟩ := split_bounds sound.ordered wide
  have parent : visitedBelow ({ range with uidsDiscovered := 0 } :: rest) = some rest.length := by
    simp [visitedBelow, visited.visited]
  have nested : ∀ lower upper : UID, range.lower ≤ lower → upper ≤ range.upper →
      ∀ outer ∈ ({ range with uidsDiscovered := 0 } : UIDRange) :: rest, outer.attempt ≠ 0 →
        outer.lower ≤ lower ∧ upper ≤ outer.upper := by
    intro lower upper low high outer member seen
    rcases List.mem_cons.mp member with rfl | member
    · exact ⟨low, high⟩
    · obtain ⟨left, right⟩ := sound.nested outer member seen
      exact ⟨left.trans low, high.trans right⟩
  refine ⟨?_, ?_, sound.reset, below⟩
  · apply fresh_sound
    · rw [UID.le_iff, high]
      omega
    · simpa only [visitedBelow, UIDRange.new, ↓reduceIte] using parent
    · intro outer member seen
      rcases List.mem_cons.mp member with rfl | member
      · exact absurd rfl seen
      · refine nested _ _ ?_ le_rfl outer member seen
        rw [UID.le_iff, high]
        omega
  · apply fresh_sound
    · rw [UID.le_iff, low]
      exact above
    · exact parent
    · refine nested _ _ le_rfl ?_
      rw [UID.le_iff, low]
      omega

/-- Freeing the top range and adding its discoveries to the parent. -/
theorem freed_stacked (stacked : Stacked (range :: rest)) (child : range.parent = some parent)
    (count : Nat) :
    Stacked (modifyRange parent (UIDRange.addDiscovered count) rest) := by
  have visited : visitedBelow rest = some parent := by rw [← child, stacked.1.parent]
  exact (addDiscovered_placed count).stacked stacked.2 visited

theorem abandoned_stacked (stacked : Stacked (range :: rest)) (child : range.parent = some parent)
    (count : Nat) :
    Stacked (modifyRange parent (UIDRange.addDiscovered count)
      (modifyRange parent UIDRange.corrupt rest)) := by
  have visited : visitedBelow rest = some parent := by rw [← child, stacked.1.parent]
  apply (addDiscovered_placed count).stacked (corrupt_placed.stacked stacked.2 visited)
  rw [corrupt_placed.visitedBelow, visited]

theorem root_stacked : Stacked [UIDRange.new ⟨0, 0⟩ UID.allDevices none] :=
  ⟨⟨UID.zero_le _, by decide, by decide, by decide, fun _ => rfl, rfl,
    fun nonempty => absurd rfl nonempty, fun outer member => by cases member⟩, trivial⟩

theorem purge_onComplete (agent : Agent) (reply : Reply) (request : Request) :
    (purge agent reply request).onComplete = agent.onComplete := by
  unfold purge
  split
  · split <;> rfl
  · rfl

theorem purge_uidRanges (agent : Agent) (reply : Reply) (request : Request) :
    (purge agent reply request).uidRanges = agent.uidRanges := by
  unfold purge
  split
  · split <;> rfl
  · rfl

theorem purge_treeCorrupt (agent : Agent) (reply : Reply) (request : Request) :
    (purge agent reply request).treeCorrupt = agent.treeCorrupt := by
  unfold purge
  split
  · split <;> rfl
  · rfl

theorem Live.preliminary {request : Request} (live : Live agent (.request request))
    (preliminary : request.Preliminary) :
    agent.onComplete ≠ none ∧ agent.uidRanges = [UIDRange.new ⟨0, 0⟩ UID.allDevices none] := by
  cases request with
  | unMuteAll => exact live
  | muteDevice uid callback =>
    cases callback with
    | incrementalMute => exact ⟨live.1, live.2.1⟩
    | branchMute => cases preliminary
  | branch lower upper => cases preliminary

/-- Every transition leaves the agent live: no fault is ever reached. -/
theorem Transition.live {after : Agent} {reply : Reply} {next following : Next}
    (transition : Transition agent reply next after following) (live : Live agent next) :
    Live after following := by
  cases transition with
  | muteNext request uid queue preliminary waiting =>
    obtain ⟨registered, stack⟩ := live.preliminary preliminary
    exact ⟨by rwa [← purge_onComplete agent reply request] at registered,
      by rwa [← purge_uidRanges agent reply request] at stack, rfl⟩
  | muteDone request preliminary drained =>
    obtain ⟨registered, stack⟩ := live.preliminary preliminary
    refine ⟨by rwa [purge_onComplete], ?_⟩
    rw [purge_uidRanges, stack]
    exact root_stacked
  | complete callback registered empty => exact ⟨registered, empty, rfl, rfl⟩
  | abandonRoot range stack limit | silentRoot range stack silent => exact ⟨live.1, trivial⟩
  | abandon range rest parent stack child limit =>
    obtain ⟨registered, stacked⟩ := live
    rw [stack] at stacked
    exact ⟨registered, abandoned_stacked stacked child _⟩
  | visit range rest stack below =>
    obtain ⟨registered, stacked⟩ := live
    rw [stack] at stacked
    exact ⟨registered, ⟨stacked.1.visit below, stacked.2⟩, range.visit, rest, rfl,
      stacked.1.visited below, visit_lower range, visit_upper range⟩
  | silent range rest parent stack child silent =>
    obtain ⟨registered, stacked, _⟩ := live
    rw [stack] at stacked
    exact ⟨registered, freed_stacked stacked child _⟩
  | endOfTree range rest stack answered collision single
  | repeated range rest uid stack located known =>
    obtain ⟨registered, stacked, top, below, same, visited, _, _⟩ := live
    rw [stack] at stacked same
    cases same
    exact ⟨registered, stacked.1.addFailure visited, stacked.2⟩
  | split range rest stack answered collision wide =>
    obtain ⟨registered, stacked, top, below, same, visited, _, _⟩ := live
    rw [stack] at stacked same
    cases same
    exact ⟨registered, splitRange_stacked stacked visited wide⟩
  | located range rest uid stack located unknown untried =>
    obtain ⟨registered, stacked, top, below, same, visited, _, _⟩ := live
    exact ⟨registered, stacked, rfl, unknown, untried, (by decide : 0 < maxMuteAttempts),
      top, below, same, visited⟩
  | muted range rest stack success =>
    obtain ⟨registered, stacked, _, _, _, _, top, below, same, visited⟩ := live
    rw [stack] at stacked same
    cases same
    exact ⟨registered, stacked.1.addDiscovered visited.visited 1, stacked.2⟩
  | retry failed again =>
    obtain ⟨registered, stacked, _, unknown, untried, _, top⟩ := live
    exact ⟨registered, stacked, rfl, unknown, untried, again, top⟩
  | gaveUp failed spent => exact ⟨live.1, live.2.1⟩

/-- The reply the outstanding request is about to get. -/
def Session.reply (target : Target) (session : Session) : Reply :=
  match session.next with
  | .request request => target session.history request
  | _ => ⟨false, []⟩

def Session.Completed (session : Session) : Prop :=
  ∃ callback status uids, session.next = .complete callback status uids

theorem Session.step_transition (target : Target) (live : Live session.agent session.next)
    (unfinished : ¬ session.Completed) :
    Transition session.agent (session.reply target) session.next
      (session.step target).agent (session.step target).next := by
  unfold step reply
  cases next : session.next with
  | sendDiscovery =>
    rw [next] at live
    exact sendDiscovery_transition _ live
  | request request =>
    rw [next] at live
    exact deliver_transition _ request live
  | complete callback status uids => exact absurd ⟨callback, status, uids, next⟩ unfinished
  | fail callback | finished | fault reason => rw [next] at live; cases live

/-- The state the answer to a request leads to. -/
theorem Session.step_request (target : Target) {request : Request}
    (next : session.next = .request request) :
    (session.step target).history =
      (request, target session.history request) :: session.history ∧
    ((session.step target).agent, (session.step target).next) =
      deliver session.agent (target session.history request) request := by
  simp only [step, next, after, Prod.mk.eta, and_self]

/-- The state one activation of `SendDiscovery` leads to. -/
theorem Session.step_send (target : Target) (next : session.next = .sendDiscovery) :
    (session.step target).history = session.history ∧
    ((session.step target).agent, (session.step target).next) = sendDiscovery session.agent := by
  simp only [step, next, after, Prod.mk.eta, and_self]

theorem Session.step_of_completed (target : Target) (completed : session.Completed) :
    session.step target = session := by
  obtain ⟨callback, status, uids, next⟩ := completed
  simp only [step, next]

theorem Session.step_live (target : Target) (session : Session)
    (live : Live session.agent session.next) :
    Live (session.step target).agent (session.step target).next := by
  by_cases completed : session.Completed
  · rwa [session.step_of_completed target completed]
  · exact (session.step_transition target live completed).live live

/-- What a start leaves on an idle agent. -/
theorem initDiscovery_idle (idle : agent.Idle) (callback : Nat) (incremental : Bool) :
    initDiscovery agent callback incremental =
      ({ agent with
          onComplete := some callback
          uidsToMute := if incremental then UIDSet.ascending agent.uids else []
          uids := if incremental then agent.uids else ∅
          badUids := ∅
          treeCorrupt := false
          uidRanges := [UIDRange.new ⟨0, 0⟩ UID.allDevices none] },
        .request .unMuteAll) := by
  obtain ⟨unregistered, empty⟩ := idle
  cases incremental <;>
    simp [initDiscovery, unregistered, empty, freeRanges]

theorem Session.start_live (idle : agent.Idle) (incremental : Bool) (callback : Nat) :
    Live (Session.start agent incremental callback).agent
      (Session.start agent incremental callback).next := by
  simp only [start, after, initDiscovery_idle idle]
  exact ⟨Option.some_ne_none callback, rfl⟩

theorem Transition.onComplete {after : Agent} {reply : Reply} {next following : Next}
    (transition : Transition agent reply next after following) :
    after.onComplete = agent.onComplete := by
  cases transition with
  | muteNext request uid queue preliminary waiting | muteDone request preliminary drained =>
    exact purge_onComplete agent reply request
  | _ => rfl

/-- The completion callbacks a run has made by the time it is at `next`. -/
def completions : Next → List (Nat × Bool × UIDSet)
  | .complete callback status uids => [(callback, status, uids)]
  | _ => []

/-- The callback given to the start is the one that is run, and it is run once. -/
structure Session.Owned (callback : Nat) (session : Session) : Prop where
  live : Live session.agent session.next
  registered : session.agent.onComplete = some callback
  ran : session.ran = completions session.next

theorem Session.step_ran (target : Target) (live : Live session.agent session.next)
    (unfinished : ¬ session.Completed) :
    (session.step target).ran = completions (session.step target).next ++ session.ran := by
  have following := session.step_live target live
  unfold step at following ⊢
  cases next : session.next with
  | sendDiscovery =>
    simp only [next, after] at following ⊢
    cases result : (sendDiscovery session.agent).2 with
    | fail callback => rw [result] at following; cases following
    | _ => rfl
  | request request =>
    simp only [next, after] at following ⊢
    cases result :
        (deliver session.agent (target session.history request) request).2 with
    | fail callback => rw [result] at following; cases following
    | _ => rfl
  | complete callback status uids => exact absurd ⟨callback, status, uids, next⟩ unfinished
  | fail callback | finished | fault reason => rw [next] at live; cases live

theorem Session.step_owned (target : Target) (callback : Nat) (session : Session)
    (owned : session.Owned callback) : (session.step target).Owned callback := by
  by_cases completed : session.Completed
  · rwa [session.step_of_completed target completed]
  · have transition := session.step_transition target owned.live completed
    have none : completions session.next = [] := by
      cases next : session.next with
      | complete callback status uids => exact absurd ⟨callback, status, uids, next⟩ completed
      | _ => rfl
    refine ⟨session.step_live target owned.live, ?_, ?_⟩
    · rw [transition.onComplete, owned.registered]
    · rw [session.step_ran target owned.live completed, owned.ran, none, List.append_nil]

theorem Session.start_owned (idle : agent.Idle) (incremental : Bool) (callback : Nat) :
    (Session.start agent incremental callback).Owned callback := by
  refine ⟨start_live idle incremental callback, ?_, ?_⟩ <;>
    simp only [start, after, initDiscovery_idle idle, completions]

theorem Session.Owned.completed {callback : Nat} (owned : session.Owned callback)
    (completed : session.Completed) :
    session.next =
      .complete callback (!session.agent.treeCorrupt) session.agent.uids ∧
    session.ran = [(callback, !session.agent.treeCorrupt, session.agent.uids)] := by
  obtain ⟨registrant, status, uids, next⟩ := completed
  have live := owned.live
  have ran := owned.ran
  rw [next] at live ran
  obtain ⟨registered, _, rfl, rfl⟩ := live
  have same : registrant = callback := by
    rw [owned.registered] at registered
    exact (Option.some.inj registered).symm
  subst same
  exact ⟨next, ran⟩

end OpenLighting.DiscoveryAgent
