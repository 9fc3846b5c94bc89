import OpenLighting.DiscoveryAgentTermination

namespace OpenLighting.DiscoveryAgent

/-- A range has been given up and the agent still knows it. -/
def Tainted (agent : Agent) : Prop :=
  agent.treeCorrupt = true ∨ ∃ range ∈ agent.uidRanges, range.branchCorrupt = true

theorem addDiscovered_keeps_corrupt (position count : Nat) {stack : List UIDRange}
    (corrupt : ∃ range ∈ stack, range.branchCorrupt = true) :
    ∃ range ∈ modifyRange position (UIDRange.addDiscovered count) stack,
      range.branchCorrupt = true := by
  induction stack with
  | nil => simp at corrupt
  | cons head rest ih =>
    obtain ⟨range, member, flag⟩ := corrupt
    unfold modifyRange
    split
    · rcases List.mem_cons.mp member with rfl | member
      · exact ⟨range.addDiscovered count, by simp, flag⟩
      · exact ⟨range, by simp [member], flag⟩
    · rcases List.mem_cons.mp member with rfl | member
      · exact ⟨range, by simp, flag⟩
      · obtain ⟨kept, inside, flagged⟩ := ih ⟨range, member, flag⟩
        exact ⟨kept, by simp [inside], flagged⟩

theorem modifyRange_corrupt {position : Nat} {stack : List UIDRange}
    (inside : position < stack.length) :
    ∃ range ∈ modifyRange position UIDRange.corrupt stack, range.branchCorrupt = true := by
  induction stack with
  | nil => simp at inside
  | cons head rest ih =>
    unfold modifyRange
    split
    · exact ⟨head.corrupt, by simp, rfl⟩
    · obtain ⟨range, member, flag⟩ := ih (by simp only [List.length_cons] at inside; omega)
      exact ⟨range, by simp [member], flag⟩

variable {agent after : Agent} {session : Session}

theorem purge_tainted (reply : Reply) (request : Request) (tainted : Tainted agent) :
    Tainted (purge agent reply request) := by
  unfold purge
  split
  · split <;> exact tainted
  · exact tainted

theorem Tainted.replace {agent : Agent} {range : UIDRange} {rest : List UIDRange}
    (tainted : Tainted agent) (fresh : UIDRange) (stack : agent.uidRanges = range :: rest)
    (same : fresh.branchCorrupt = range.branchCorrupt) (after : Agent)
    (tree : after.treeCorrupt = agent.treeCorrupt) (ranges : after.uidRanges = fresh :: rest) :
    Tainted after := by
  rcases tainted with flag | ⟨corrupt, member, flag⟩
  · exact Or.inl (tree.trans flag)
  · rw [stack] at member
    rcases List.mem_cons.mp member with rfl | member
    · exact Or.inr ⟨fresh, by simp [ranges], same.trans flag⟩
    · exact Or.inr ⟨corrupt, by simp [ranges, member], flag⟩

theorem abandoned_tainted {range : UIDRange} {rest : List UIDRange} {parent count : Nat}
    (sound : range.Sound rest) (child : range.parent = some parent)
    (ranges : after.uidRanges = modifyRange parent (UIDRange.addDiscovered count)
      (modifyRange parent UIDRange.corrupt rest)) : Tainted after := by
  have inside := visitedBelow_lt (sound.parent.symm.trans child)
  right
  rw [ranges]
  exact addDiscovered_keeps_corrupt _ _ (modifyRange_corrupt inside)

/-- Once a range has been given up the run stays tainted until it ends. -/
theorem Transition.tainted {reply : Reply} {next following : Next}
    (transition : Transition agent reply next after following) (live : Live agent next)
    (tainted : Tainted agent) : Tainted after := by
  cases transition with
  | muteNext request uid queue preliminary waiting | muteDone request preliminary drained =>
    exact purge_tainted reply request tainted
  | complete callback registered empty => exact tainted
  | abandonRoot range stack limit | silentRoot range stack silent =>
    rcases tainted with flag | ⟨corrupt, member, flag⟩
    · exact Or.inl (by simp [flag])
    · rw [stack, List.mem_singleton] at member
      subst member
      exact Or.inl (by simp [flag])
  | abandon range rest parent stack child limit =>
    have stacked := live.2
    rw [stack] at stacked
    exact abandoned_tainted stacked.1 child rfl
  | visit range rest stack below =>
    exact tainted.replace range.visit stack (visit_branchCorrupt range) _ rfl rfl
  | silent range rest parent stack child silent =>
    obtain ⟨_, _, top, below, same, visited, _, _⟩ := live
    rw [stack] at same
    cases same
    rcases tainted with flag | ⟨corrupt, member, flag⟩
    · exact Or.inl flag
    · rw [stack] at member
      rcases List.mem_cons.mp member with rfl | member
      · rw [visited.clean] at flag
        cases flag
      · exact Or.inr (addDiscovered_keeps_corrupt _ _ ⟨corrupt, member, flag⟩)
  | endOfTree range rest stack answered collision single
  | repeated range rest uid stack located known =>
    exact tainted.replace range.addFailure stack rfl _ rfl rfl
  | split range rest stack answered collision wide =>
    rcases tainted with flag | ⟨corrupt, member, flag⟩
    · exact Or.inl flag
    · rw [stack] at member
      rcases List.mem_cons.mp member with rfl | member
      · exact Or.inr ⟨{ corrupt with uidsDiscovered := 0 }, by simp [splitRange], flag⟩
      · exact Or.inr ⟨corrupt, by simp [splitRange, member], flag⟩
  | located range rest uid stack located unknown untried | retry failed again
  | gaveUp failed spent => exact tainted
  | muted range rest stack success =>
    exact tainted.replace (range.addDiscovered 1) stack rfl _ rfl rfl

/-- The tree is only marked corrupt when the last range goes. -/
theorem Transition.treeCorrupt {reply : Reply} {next following : Next}
    (transition : Transition agent reply next after following)
    (clean : agent.uidRanges ≠ [] → agent.treeCorrupt = false) (remains : after.uidRanges ≠ []) :
    after.treeCorrupt = false := by
  cases transition with
  | muteNext request uid queue preliminary waiting | muteDone request preliminary drained =>
    rw [purge_uidRanges] at remains
    rw [purge_treeCorrupt]
    exact clean remains
  | complete callback registered empty => exact clean remains
  | abandonRoot range stack limit | silentRoot range stack silent => exact absurd rfl remains
  | abandon range rest parent stack child limit | visit range rest stack below
  | silent range rest parent stack child silent
  | endOfTree range rest stack answered collision single
  | split range rest stack answered collision wide
  | repeated range rest uid stack located known | muted range rest stack success =>
    exact clean (by simp [stack])
  | located range rest uid stack located unknown untried | retry failed again
  | gaveUp failed spent => exact clean remains

/-- `SendDiscovery` is entered with only the root left, the root has used up
its attempts or failures, and nothing in it has been marked corrupt. -/
def Session.RootSpent (session : Session) : Prop :=
  session.next = .sendDiscovery ∧
    ∃ root, session.agent.uidRanges = [root] ∧ root.branchCorrupt = false ∧
      root.visit.LimitReached

/-- No range was given up. -/
def Session.Thorough (session : Session) : Prop := ∀ pop ∈ session.pops, pop.2 = .noResponse

theorem popped_cause {before : Agent} {cause : PopCause} {pop : UIDRange × PopCause}
    (member : pop ∈ popped before after cause) : pop.2 = cause := by
  unfold popped at member
  split at member
  · obtain ⟨_, _, rfl⟩ := List.mem_map.mp member
    rfl
  · cases member

theorem popped_of_length {before : Agent} (cause : PopCause)
    (same : ¬ after.uidRanges.length < before.uidRanges.length) :
    popped before after cause = [] := by
  simp only [popped, same, ↓reduceIte]

variable (target : Target)

theorem Session.step_request_thorough {request : Request} (next : session.next = .request request) :
    (session.step target).Thorough ↔ session.Thorough := by
  simp only [Session.Thorough, Session.step, next, Session.after, List.mem_append, or_imp,
    forall_and, and_iff_right_iff_imp]
  intro _ pop member
  exact popped_cause member

theorem Session.step_sendDiscovery_pops (next : session.next = .sendDiscovery) :
    (session.step target).pops =
      popped session.agent (session.step target).agent .limitReached ++ session.pops := by
  simp only [Session.step, next, Session.after]

structure Session.Honest (session : Session) : Prop where
  live : Live session.agent session.next
  remembered : session.Thorough ∨ Tainted session.agent
  unmarked : session.agent.uidRanges ≠ [] → session.agent.treeCorrupt = false

/-- As long as the root itself is not given up, no range is given up unnoticed. -/
theorem Session.step_honest (session : Session) (honest : session.Honest)
    (unspent : ¬ session.RootSpent) : (session.step target).Honest := by
  by_cases completed : session.Completed
  · rwa [session.step_of_completed target completed]
  have transition := session.step_transition target honest.live completed
  refine ⟨session.step_live target honest.live, ?_, transition.treeCorrupt honest.unmarked⟩
  rcases honest.remembered with thorough | tainted
  · cases next : session.next with
    | request request =>
      exact Or.inl ((session.step_request_thorough target next).mpr thorough)
    | sendDiscovery =>
      have live := honest.live
      have pops := session.step_sendDiscovery_pops target next
      have unchanged (same : ¬ (session.step target).agent.uidRanges.length <
          session.agent.uidRanges.length) : (session.step target).Thorough := by
        rw [Session.Thorough, pops, popped_of_length _ same]
        exact thorough
      rw [next] at transition live
      generalize (session.step target).agent = after at transition unchanged ⊢
      generalize (session.step target).next = following at transition
      cases transition with
      | complete callback registered empty => exact Or.inl (unchanged (Nat.lt_irrefl _))
      | abandonRoot range stack limit =>
        refine Or.inr (Or.inl ?_)
        cases flag : range.branchCorrupt with
        | true => exact Bool.or_true _
        | false => exact absurd ⟨next, range, stack, flag, limit⟩ unspent
      | abandon range rest parent stack child limit =>
        have stacked := live.2
        rw [stack] at stacked
        have inside := visitedBelow_lt (stacked.1.parent.symm.trans child)
        exact Or.inr (Or.inr (addDiscovered_keeps_corrupt _ _ (modifyRange_corrupt inside)))
      | visit range rest stack below =>
        exact Or.inl (unchanged (by simp [stack]))
    | complete callback status uids => exact absurd ⟨callback, status, uids, next⟩ completed
    | fail callback | finished | fault reason => have := honest.live; rw [next] at this; cases this
  · exact Or.inr (transition.tainted honest.live tainted)

theorem Session.start_honest (idle : agent.Idle) (incremental : Bool) (callback : Nat) :
    (Session.start agent incremental callback).Honest := by
  refine ⟨Session.start_live idle incremental callback, Or.inl ?_, fun _ => ?_⟩
  · simp [Session.Thorough, Session.start, Session.after, initDiscovery_idle idle, popped,
      idle.2]
  · simp only [Session.start, Session.after, initDiscovery_idle idle]

theorem sendDiscovery_root {root : UIDRange} (stack : agent.uidRanges = [root])
    (top : root.parent = none) (limit : root.visit.LimitReached) :
    sendDiscovery agent =
      ({ agent with
          treeCorrupt := agent.treeCorrupt || root.branchCorrupt, uidRanges := [] },
        .sendDiscovery) := by
  simp only [sendDiscovery, stack, limit, ↓reduceIte, abandonRange, visit_parent, top,
    freeCurrentRange, visit_branchCorrupt]

theorem sendDiscovery_empty {callback : Nat} (empty : agent.uidRanges = [])
    (registered : agent.onComplete = some callback) :
    sendDiscovery agent =
      (agent, .complete callback (!agent.treeCorrupt) agent.uids) := by
  simp only [sendDiscovery, empty, registered]

theorem Session.step_sendDiscovery (next : session.next = .sendDiscovery) :
    session.step target = session.after (sendDiscovery session.agent) .limitReached := by
  simp only [Session.step, next]

/-- Giving up the root completes the run with status true. -/
theorem Session.RootSpent.completes {callback : Nat} (spent : session.RootSpent)
    (honest : session.Honest) (registered : session.agent.onComplete = some callback) :
    ((session.step target).step target).next = .complete callback true session.agent.uids ∧
      ¬ ((session.step target).step target).Thorough := by
  obtain ⟨next, root, stack, clean, limit⟩ := spent
  have stacked := honest.live
  rw [next] at stacked
  have sound := stacked.2
  rw [stack] at sound
  have unmarked := honest.unmarked (by simp [stack])
  have given := session.step_sendDiscovery target next
  rw [sendDiscovery_root stack sound.1.parent limit, unmarked, clean] at given
  have following : (session.step target).next = .sendDiscovery := by rw [given]; rfl
  have ended := (session.step target).step_sendDiscovery target following
  have emptied : (session.step target).agent.uidRanges = [] := by rw [given]; rfl
  have kept : (session.step target).agent.onComplete = some callback := by
    rw [given]
    exact registered
  rw [sendDiscovery_empty emptied kept] at ended
  constructor
  · rw [ended, given]
    rfl
  · intro thorough
    have impossible := thorough (root, .limitReached) (by
      rw [ended, given]
      simp [Session.after, popped, stack])
    cases impossible

/-- A run that reports success gave up no range, for exactly those runs in
which the root range never uses up its own attempts or failures: the root has
no parent, so `SendDiscovery` has nowhere to record that it was given up. -/
theorem status_honest_iff (target : Target) (agent : Agent) (idle : agent.Idle)
    (incremental : Bool) (callback : Nat) :
    (∀ count uids,
      let session := (Session.step target)^[count] (Session.start agent incremental callback)
      session.next = .complete callback true uids → session.Thorough) ↔
    ∀ count,
      ¬ ((Session.step target)^[count] (Session.start agent incremental callback)).RootSpent := by
  have start := Session.start_honest idle incremental callback
  have owned := TransitionSystem.iterate_invariant (Session.step_owned target callback)
    (Session.start_owned idle incremental callback)
  constructor
  · intro honest count spent
    -- The first time the root is spent, everything before it was honest.
    induction count using Nat.strongRecOn with
    | ind count ih =>
      have before : ∀ earlier ≤ count,
          ((Session.step target)^[earlier]
            (Session.start agent incremental callback)).Honest := by
        intro earlier bound
        induction earlier with
        | zero => exact start
        | succ earlier previous =>
          rw [Function.iterate_succ_apply']
          exact Session.step_honest target _ (previous (by omega)) (ih earlier (by omega))
      obtain ⟨next, given⟩ := spent.completes target (before count (Nat.le_refl _))
        (owned count).registered
      rw [← Function.iterate_succ_apply' (Session.step target) count,
        ← Function.iterate_succ_apply' (Session.step target) (count + 1)] at next given
      exact given (honest (count + 2) _ next)
  · intro unspent count uids session next
    have honest : session.Honest := by
      clear next
      induction count with
      | zero => exact start
      | succ count ih =>
        change ((Session.step target)^[count + 1] _).Honest
        rw [Function.iterate_succ_apply']
        exact Session.step_honest target _ ih (unspent count)
    rcases honest.remembered with thorough | tainted
    · exact thorough
    · have live := honest.live
      rw [next] at live
      obtain ⟨_, empty, status, _⟩ := live
      rcases tainted with flag | ⟨range, member, _⟩
      · rw [flag] at status
        cases status
      · rw [empty] at member
        cases member

theorem status_honest_iff_silent :
    (Agent.new false).Idle ∧
    ((∀ count uids,
      let session := (Session.step fun _ _ => ⟨false, []⟩)^[count]
        (Session.start (Agent.new false) false 0)
      session.next = .complete 0 true uids → session.Thorough) ↔
    ∀ count, ¬ ((Session.step fun _ _ => ⟨false, []⟩)^[count]
      (Session.start (Agent.new false) false 0)).RootSpent) :=
  ⟨⟨rfl, rfl⟩, status_honest_iff _ _ ⟨rfl, rfl⟩ false 0⟩

/-- One responder, 0001:0000000a, that answers every branch and no mute. -/
def nonMutingTarget : Target := fun _ _ =>
  ⟨false, [0xaa, 0xaa, 0x55, 0xab, 0x55, 0xaa, 0x55, 0xaa, 0x55, 0xaa, 0x55, 0xaa, 0x5f,
    0xae, 0x57, 0xaf, 0x55]⟩

/-- The root is given up after its fourth empty visit, yet the run succeeds. -/
theorem status_dishonest :
    ¬ ∀ count uids,
      let session := (Session.step nonMutingTarget)^[count]
        (Session.start (Agent.new false) false 0)
      session.next = .complete 0 true uids → session.Thorough := by
  intro honest
  have thorough := honest 16 ∅ rfl
  revert thorough
  unfold Session.Thorough
  decide

end OpenLighting.DiscoveryAgent
