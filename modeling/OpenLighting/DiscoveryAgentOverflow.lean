import OpenLighting.DiscoveryAgentCompleteness
import OpenLighting.DiscoveryAgentStatus

namespace OpenLighting.DiscoveryAgent

open Session

/-- A fault-free bus on which the lowest listening responder of a branch is the
one that gets through. With `collide`, the whole UID space answers with noise
instead while two or more responders are listening. -/
def lowestFirst (responders : UIDSet) (collide : Bool) : Target := fun history request =>
  match request with
  | .unMuteAll => ⟨false, []⟩
  | .muteDevice uid _ => ⟨decide (uid ∈ responders), []⟩
  | .branch lower upper =>
    if collide = true ∧ lower = ⟨0, 0⟩ ∧ upper = UID.allDevices ∧
        2 ≤ (between lower upper (unmuted responders history)).card then
      ⟨false, [0]⟩
    else if listening : (between lower upper (unmuted responders history)).Nonempty then
      ⟨false, dubResponse 0 ((between lower upper (unmuted responders history)).min' listening)⟩
    else ⟨false, []⟩

variable {responders : UIDSet} {lower upper : UID} {parent : Option Nat} {count : Nat}

theorem lowestFirst_collide {history : List Exchange}
    (many : 2 ≤ (between ⟨0, 0⟩ UID.allDevices (unmuted responders history)).card) :
    (lowestFirst responders true history (.branch ⟨0, 0⟩ UID.allDevices)).data = [0] := by
  simp only [lowestFirst, many, and_self, ↓reduceIte]

theorem lowestFirst_located {collide : Bool} {history : List Exchange}
    (listening : (between lower upper (unmuted responders history)).Nonempty)
    (narrow : collide = true → ¬ (lower = ⟨0, 0⟩ ∧ upper = UID.allDevices)) :
    ∃ uid ∈ between lower upper (unmuted responders history),
      WellFormed (lowestFirst responders collide history (.branch lower upper)).data uid := by
  refine ⟨_, Finset.min'_mem _ listening, 0, by decide, ?_⟩
  have single : ¬ (collide = true ∧ lower = ⟨0, 0⟩ ∧ upper = UID.allDevices ∧
      2 ≤ (between lower upper (unmuted responders history)).card) :=
    fun colliding => narrow colliding.1 ⟨colliding.2.1, colliding.2.2.1⟩
  simp only [lowestFirst, if_neg single, dif_pos listening]

theorem lowestFirst_ideal (responders : UIDSet) (collide : Bool) :
    Ideal responders (lowestFirst responders collide) := by
  refine ⟨fun _ _ _ => rfl, ?_, ?_, ?_⟩
  · intro history lower upper empty
    simp [lowestFirst, empty]
  · intro history lower upper uid only
    refine ⟨0, by decide, ?_⟩
    simp [lowestFirst, only]
  · intro history lower upper many
    by_cases colliding : collide = true ∧ lower = ⟨0, 0⟩ ∧ upper = UID.allDevices
    · obtain ⟨rfl, rfl, rfl⟩ := colliding
      left
      rw [lowestFirst_collide many]
      decide
    · right
      exact lowestFirst_located (Finset.card_pos.mp (by omega))
        fun flag whole => colliding ⟨flag, whole⟩

/-- A range after `count` UIDs have been found in it one at a time. -/
def UIDRange.counting (lower upper : UID) (parent : Option Nat) (count : Nat) : UIDRange :=
  ⟨lower, upper, parent, (count + unsignedInt - 1) / unsignedInt, 0, count % unsignedInt, false⟩

theorem counting_visit (bound : count ≤ countLimit) :
    (UIDRange.counting lower upper parent count).visit =
      ⟨lower, upper, parent, count / unsignedInt + 1, 0, count % unsignedInt, false⟩ := by
  unfold countLimit maxEmptyBranchAttempts unsignedInt at bound
  unfold UIDRange.visit UIDRange.counting
  simp only
  split
  · congr 1
    unfold unsignedInt at *
    omega
  · congr 1
    unfold unsignedInt at *
    omega

theorem counting_found :
    UIDRange.addDiscovered 1
        ⟨lower, upper, parent, count / unsignedInt + 1, 0, count % unsignedInt, false⟩ =
      UIDRange.counting lower upper parent (count + 1) := by
  unfold UIDRange.addDiscovered UIDRange.counting unsignedInt
  simp only [UIDRange.mk.injEq, true_and, and_true]
  constructor <;> omega

theorem counting_below (below : count < countLimit) :
    ¬ (UIDRange.counting lower upper parent count).visit.LimitReached := by
  rw [counting_visit (Nat.le_of_lt below)]
  unfold countLimit maxEmptyBranchAttempts unsignedInt at below
  rintro (failed | exhausted | corrupt)
  · cases failed
  · unfold maxEmptyBranchAttempts unsignedInt at exhausted
    simp only at exhausted
    omega
  · cases corrupt

theorem counting_limit (lower upper : UID) (parent : Option Nat) :
    (UIDRange.counting lower upper parent countLimit).visit.LimitReached := by
  exact Or.inr (Or.inl (by decide : countLimit / unsignedInt + 1 = maxEmptyBranchAttempts))

section
variable (target : Target) {session : Session} {range : UIDRange} {rest : List UIDRange} {uid : UID}

theorem Session.step_visit (next : session.next = .sendDiscovery)
    (stack : session.agent.uidRanges = range :: rest) (below : ¬ range.visit.LimitReached) :
    (session.step target).history = session.history ∧
    (session.step target).agent = { session.agent with uidRanges := range.visit :: rest } ∧
    (session.step target).next = .request (.branch range.lower range.upper) := by
  obtain ⟨history, result⟩ := step_send target next
  simp only [sendDiscovery, stack, below, ↓reduceIte, Prod.mk.injEq] at result
  exact ⟨history, result⟩

variable {lower upper : UID}

section
variable (next : session.next = .request (.branch lower upper))
  (stack : session.agent.uidRanges = range :: rest)
include next stack

theorem Session.step_located
    (wellFormed : WellFormed (target session.history (.branch lower upper)).data uid)
    (unknown : uid ∉ session.agent.uids) (untried : uid ∉ session.agent.badUids) :
    (session.step target).history =
      (.branch lower upper, target session.history (.branch lower upper)) :: session.history ∧
    (session.step target).agent = { session.agent with mutingUid := uid, muteAttempts := 0 } ∧
    (session.step target).next = .request (.muteDevice uid .branchMute) := by
  obtain ⟨history, result⟩ := step_request target next
  have answered := List.length_pos_iff.mpr wellFormed.answered
  simp only [deliver, branchComplete, Nat.ne_of_gt answered, wellFormed.located, stack, unknown,
    untried, ↓reduceIte, Prod.mk.injEq] at result
  refine ⟨history, ?_⟩
  simpa only [stack] using result

theorem Session.step_collision (wide : range.lower ≠ range.upper)
    (answered : (target session.history (.branch lower upper)).data ≠ [])
    (rejected : locatedUid (target session.history (.branch lower upper)).data = none) :
    (session.step target).history =
      (.branch lower upper, target session.history (.branch lower upper)) :: session.history ∧
    (session.step target).agent = { session.agent with uidRanges := splitRange range rest } ∧
    (session.step target).next = .sendDiscovery := by
  obtain ⟨history, result⟩ := step_request target next
  have present := List.length_pos_iff.mpr answered
  simp only [deliver, branchComplete, Nat.ne_of_gt present, rejected, handleCollision, stack, wide,
    ↓reduceIte, Prod.mk.injEq] at result
  exact ⟨history, result⟩

theorem Session.step_silent {position : Nat} (nonempty : rest ≠ [])
    (child : range.parent = some position)
    (silent : (target session.history (.branch lower upper)).data = []) :
    (session.step target).history =
      (.branch lower upper, target session.history (.branch lower upper)) :: session.history ∧
    (session.step target).agent =
      { session.agent with
        uidRanges := modifyRange position (UIDRange.addDiscovered range.uidsDiscovered) rest } ∧
    (session.step target).next = .sendDiscovery := by
  obtain ⟨history, result⟩ := step_request target next
  simp only [deliver, branchComplete, silent, List.length_nil, ↓reduceIte,
    freeCurrentRange_child session.agent range rest position stack nonempty child,
    Prod.mk.injEq] at result
  exact ⟨history, result⟩

end

theorem Session.step_muted (next : session.next = .request (.muteDevice uid .branchMute))
    (current : session.agent.mutingUid = uid) (stack : session.agent.uidRanges = range :: rest)
    (success : (target session.history (.muteDevice uid .branchMute)).status = true) :
    (session.step target).history =
      (.muteDevice uid .branchMute, target session.history (.muteDevice uid .branchMute)) ::
        session.history ∧
    (session.step target).agent =
      { session.agent with
        muteAttempts := (session.agent.muteAttempts + 1) % unsignedInt
        uids := insert uid session.agent.uids
        uidRanges := range.addDiscovered 1 :: rest } ∧
    (session.step target).next = .sendDiscovery := by
  obtain ⟨history, result⟩ := step_request target next
  simp only [deliver, branchMuteComplete, success, stack, current, ↓reduceIte,
    Prod.mk.injEq] at result
  refine ⟨history, ?_⟩
  simpa only [current] using result

end

/-- `count` of the UIDs a run is looking for have been found in its top range,
which is where all of them are. -/
structure Session.Found (responders base : UIDSet) (lower upper : UID) (parent : Option Nat)
    (rest : List UIDRange) (count : Nat) (session : Session) : Prop where
  next : session.next = .sendDiscovery
  stack : session.agent.uidRanges = UIDRange.counting lower upper parent count :: rest
  remembered : base ⊆ session.agent.uids
  uids : session.agent.uids ⊆ responders
  badUids : session.agent.badUids = ∅
  listening : unmuted responders session.history = responders \ session.agent.uids
  found : session.agent.uids.card = base.card + count

section
variable {responders base : UIDSet} {collide : Bool} {lower upper : UID} {parent : Option Nat}
  {rest : List UIDRange} {count : Nat} {session : Session}

theorem Session.Found.listens (inside : ∀ uid ∈ responders \ base, lower ≤ uid ∧ uid ≤ upper)
    (found : session.Found responders base lower upper parent rest count)
    (more : count < (responders \ base).card) :
    (between lower upper (responders \ session.agent.uids)).Nonempty := by
  have baseCard := Finset.card_sdiff_add_card_eq_card (found.remembered.trans found.uids)
  have uidsCard := Finset.card_sdiff_add_card_eq_card found.uids
  have counted := found.found
  obtain ⟨uid, member⟩ := Finset.card_pos.mp (show 0 < (responders \ session.agent.uids).card by omega)
  obtain ⟨present, unknown⟩ := Finset.mem_sdiff.mp member
  have sought : uid ∈ responders \ base :=
    Finset.mem_sdiff.mpr ⟨present, fun known => unknown (found.remembered known)⟩
  exact ⟨uid, mem_between.mpr ⟨member, inside uid sought⟩⟩

section

variable (narrow : collide = true → ¬ (lower = ⟨0, 0⟩ ∧ upper = UID.allDevices))
  (inside : ∀ uid ∈ responders \ base, lower ≤ uid ∧ uid ≤ upper)
include narrow inside

theorem Session.Found.step (found : session.Found responders base lower upper parent rest count)
    (below : count < countLimit) (more : count < (responders \ base).card) :
    ((Session.step (lowestFirst responders collide))^[3] session).Found responders base lower upper
      parent rest (count + 1) := by
  have listening := found.listens inside more
  obtain ⟨visitHistory, visitAgent, visitNext⟩ :=
    step_visit (lowestFirst responders collide) found.next found.stack
      (counting_below below)
  rw [counting_visit (Nat.le_of_lt below)] at visitAgent
  rw [← found.listening, ← visitHistory] at listening
  obtain ⟨uid, member, wellFormed⟩ := lowestFirst_located listening narrow
  rw [visitHistory, found.listening] at member
  obtain ⟨fresh, _⟩ := mem_between.mp member
  obtain ⟨present, unknown⟩ := Finset.mem_sdiff.mp fresh
  obtain ⟨branchHistory, branchAgent, branchNext⟩ :=
    step_located (lowestFirst responders collide) visitNext
      (congrArg Agent.uidRanges visitAgent) wellFormed
      (by rw [visitAgent]; exact unknown) (by rw [visitAgent]; simp [found.badUids])
  obtain ⟨muteHistory, muteAgent, muteNext⟩ :=
    step_muted (lowestFirst responders collide) branchNext
      (congrArg Agent.mutingUid branchAgent)
      (by rw [branchAgent, visitAgent])
      (by rw [(lowestFirst_ideal responders collide).mute]; exact decide_eq_true present)
  rw [branchAgent, visitAgent] at muteAgent
  rw [branchHistory, visitHistory] at muteHistory
  simp only [counting_found] at muteAgent
  have uids := congrArg Agent.uids muteAgent
  refine ⟨muteNext, congrArg Agent.uidRanges muteAgent, ?_, ?_, ?_, ?_, ?_⟩
  · exact (found.remembered.trans (Finset.subset_insert uid _)).trans_eq uids.symm
  · exact uids.trans_subset (Finset.insert_subset present found.uids)
  · exact (congrArg Agent.badUids muteAgent).trans found.badUids
  · refine (congrArg (unmuted responders) muteHistory).trans ?_
    refine Eq.trans ?_ (congrArg (responders \ ·) uids).symm
    simp only [unmuted, found.listening, Finset.sdiff_insert]
  · refine (congrArg Finset.card uids).trans ?_
    rw [Finset.card_insert_of_notMem unknown, found.found, Nat.add_assoc]

/-- The single answers go on until the counter has turned four times. -/
theorem Session.Found.reaches (found : session.Found responders base lower upper parent rest 0)
    (bound : count ≤ countLimit) (enough : count ≤ (responders \ base).card) :
    ∃ steps, ((Session.step (lowestFirst responders collide))^[steps] session).Found responders
      base lower upper parent rest count := by
  induction count with
  | zero => exact ⟨0, found⟩
  | succ count ih =>
    obtain ⟨steps, reached⟩ := ih (by omega) (by omega)
    refine ⟨3 + steps, ?_⟩
    rw [Function.iterate_add_apply]
    exact reached.step narrow inside (by omega) (by omega)

end

end

def lowerHalfEnd : UID := ⟨0x7fff, 0xffffffff⟩

def upperHalfStart : UID := ⟨0x8000, 0⟩

def visitedRoot : UIDRange := ⟨⟨0, 0⟩, UID.allDevices, none, 1, 0, 0, false⟩

theorem splitRange_root :
    splitRange (UIDRange.new ⟨0, 0⟩ UID.allDevices none).visit [] =
      [UIDRange.new upperHalfStart UID.allDevices (some 0),
        UIDRange.new ⟨0, 0⟩ lowerHalfEnd (some 0), visitedRoot] := by
  decide

section
variable {responders base : UIDSet} {session : Session}

theorem Session.Prepared.found_root (prepared : session.Prepared responders base)
    (remembered : base ⊆ responders) :
    session.Found responders base ⟨0, 0⟩ UID.allDevices none [] 0 := by
  refine ⟨prepared.next, prepared.stack, ?_, ?_, prepared.badUids, ?_, ?_⟩
  · rw [prepared.uids]
  · rw [prepared.uids]
    exact remembered
  · rw [prepared.listening, prepared.uids]
  · rw [prepared.uids, Nat.add_zero]

/-- The first branch collides, so the search goes on in the upper half. -/
theorem Session.Prepared.found_upper (prepared : session.Prepared responders base)
    (remembered : base ⊆ responders) (many : 2 ≤ (responders \ base).card) :
    ((Session.step (lowestFirst responders true))^[2] session).Found responders base
      upperHalfStart UID.allDevices (some 0)
      [UIDRange.new ⟨0, 0⟩ lowerHalfEnd (some 0), visitedRoot] 0 := by
  obtain ⟨visitHistory, visitAgent, visitNext⟩ :=
    step_visit (lowestFirst responders true) prepared.next prepared.stack (by decide)
  replace visitNext : (session.step (lowestFirst responders true)).next =
    .request (.branch ⟨0, 0⟩ UID.allDevices) := visitNext
  have data : (lowestFirst responders true (session.step (lowestFirst responders true)).history
      (.branch ⟨0, 0⟩ UID.allDevices)).data = [0] := by
    apply lowestFirst_collide
    rwa [visitHistory, prepared.listening, between_all]
  obtain ⟨splitHistory, splitAgent, splitNext⟩ :=
    step_collision (lowestFirst responders true) visitNext
      (congrArg Agent.uidRanges visitAgent) (by decide)
      (by rw [data]; decide) (by rw [data]; decide)
  rw [splitRange_root, visitAgent] at splitAgent
  rw [visitHistory] at splitHistory
  have uids := (congrArg Agent.uids splitAgent).trans prepared.uids
  refine ⟨splitNext, congrArg Agent.uidRanges splitAgent, ?_, ?_, ?_, ?_, ?_⟩
  · exact uids.superset
  · exact uids.trans_subset remembered
  · exact (congrArg Agent.badUids splitAgent).trans prepared.badUids
  · refine (congrArg (unmuted responders) splitHistory).trans ?_
    exact prepared.listening.trans (congrArg (responders \ ·) uids).symm
  · exact congrArg Finset.card uids

/-- With nobody in the upper half, the search goes on in the lower one. -/
theorem Session.Found.found_lower
    (found : session.Found responders base upperHalfStart UID.allDevices (some 0)
      [UIDRange.new ⟨0, 0⟩ lowerHalfEnd (some 0), visitedRoot] 0)
    (empty : between upperHalfStart UID.allDevices (responders \ session.agent.uids) = ∅) :
    ((Session.step (lowestFirst responders true))^[2] session).Found responders base
      ⟨0, 0⟩ lowerHalfEnd (some 0) [visitedRoot] 0 := by
  obtain ⟨visitHistory, visitAgent, visitNext⟩ :=
    step_visit (lowestFirst responders true) found.next found.stack
      (counting_below (by decide))
  replace visitNext : (session.step (lowestFirst responders true)).next =
    .request (.branch upperHalfStart UID.allDevices) := visitNext
  have data : (lowestFirst responders true (session.step (lowestFirst responders true)).history
      (.branch upperHalfStart UID.allDevices)).data = [] := by
    apply (lowestFirst_ideal responders true).silent
    rwa [visitHistory, found.listening]
  obtain ⟨silentHistory, silentAgent, silentNext⟩ :=
    step_silent (lowestFirst responders true) visitNext
      (congrArg Agent.uidRanges visitAgent) (List.cons_ne_nil _ _) (visit_parent _) data
  have popped : modifyRange 0
      (UIDRange.addDiscovered
        (UIDRange.counting upperHalfStart UID.allDevices (some 0) 0).visit.uidsDiscovered)
      [UIDRange.new ⟨0, 0⟩ lowerHalfEnd (some 0), visitedRoot] =
      [UIDRange.counting ⟨0, 0⟩ lowerHalfEnd (some 0) 0, visitedRoot] := by
    decide
  rw [popped, visitAgent] at silentAgent
  rw [visitHistory] at silentHistory
  have uids := congrArg Agent.uids silentAgent
  refine ⟨silentNext, congrArg Agent.uidRanges silentAgent, ?_, ?_, ?_, ?_, ?_⟩
  · exact found.remembered.trans_eq uids.symm
  · exact uids.trans_subset found.uids
  · exact (congrArg Agent.badUids silentAgent).trans found.badUids
  · refine (congrArg (unmuted responders) silentHistory).trans ?_
    exact found.listening.trans (congrArg (responders \ ·) uids).symm
  · exact (congrArg Finset.card uids).trans found.found

end

/-- A spent range that is not the root taints the run when it is given up. -/
theorem Session.Found.tainted {base : UIDSet} {rest : List UIDRange} {session : Session}
    (target : Target) (found : session.Found responders base lower upper parent rest countLimit)
    (nonempty : rest ≠ []) (live : Live session.agent session.next) :
    Tainted (session.step target).agent := by
  have limit := counting_limit lower upper parent
  have unfinished : ¬ session.Completed := by
    rintro ⟨callback, status, uids, next⟩
    rw [found.next] at next
    cases next
  have transition := session.step_transition target live unfinished
  rw [found.next] at live transition
  have stacked := live.2
  have ranges := found.stack
  generalize (session.step target).agent = after at transition ⊢
  generalize (session.step target).next = following at transition
  cases transition with
  | complete callback registered empty =>
    rw [empty] at ranges
    cases ranges
  | abandonRoot range stack spent =>
    rw [stack] at ranges
    cases ranges
    exact absurd rfl nonempty
  | abandon range below position stack child spent =>
    rw [stack] at stacked
    exact abandoned_tainted stacked.1 child rfl
  | visit range below stack unspent =>
    rw [stack] at ranges
    cases ranges
    exact absurd limit unspent

theorem Session.step_tainted (target : Target) (session : Session)
    (tainted : Live session.agent session.next ∧ Tainted session.agent) :
    Live (session.step target).agent (session.step target).next ∧
      Tainted (session.step target).agent := by
  by_cases completed : session.Completed
  · rwa [session.step_of_completed target completed]
  · exact ⟨session.step_live target tainted.1,
      (session.step_transition target tainted.1 completed).tainted tainted.1 tainted.2⟩

section
variable {responders : UIDSet} {agent : Agent} (idle : agent.Idle) (incremental : Bool)
  (callback : Nat)
include idle

/-- A run whose top range is spent before it returns to the root reports failure. -/
theorem Session.tainted_fails (target : Target) {count : Nat}
    (tainted : Tainted ((Session.step target)^[count]
      (Session.start agent incremental callback)).agent) :
    ∃ steps uids, ((Session.step target)^[steps]
      (Session.start agent incremental callback)).next = .complete callback false uids := by
  have owned := TransitionSystem.iterate_invariant (step_owned target callback)
    (start_owned idle incremental callback)
  obtain ⟨steps, completed⟩ := reaches_completion target idle incremental callback
  have stopped : ((step target)^[steps + count]
      (start agent incremental callback)).Completed := by
    rw [Nat.add_comm, Function.iterate_add_apply]
    rwa [iterate_of_completed target completed]
  have final : Live ((step target)^[steps + count]
        (start agent incremental callback)).agent
      ((step target)^[steps + count] (start agent incremental callback)).next ∧
      Tainted ((step target)^[steps + count]
        (start agent incremental callback)).agent := by
    rw [Function.iterate_add_apply]
    exact TransitionSystem.iterate_invariant (step_tainted target)
      ⟨(owned count).live, tainted⟩ steps
  obtain ⟨next, _⟩ := (owned (steps + count)).completed stopped
  obtain ⟨live, flag | ⟨range, member, _⟩⟩ := final
  · rw [flag] at next
    exact ⟨steps + count, _, next⟩
  · rw [next] at live
    rw [live.2.1] at member
    cases member

/-- More UIDs than the counters allow: the root is given up before all are found. -/
theorem overflow_incomplete
    (many : countLimit < (sought agent incremental responders).card) :
    ∃ steps status uids,
      ((Session.step (lowestFirst responders false))^[steps]
        (Session.start agent incremental callback)).next = .complete callback status uids ∧
      uids ≠ responders := by
  have remembered := known_subset agent incremental responders
  obtain ⟨preliminary, prepared⟩ := reaches_prepared
    (lowestFirst_ideal responders false) idle incremental callback
  have single : false = true → ¬ ((⟨0, 0⟩ : UID) = ⟨0, 0⟩ ∧ UID.allDevices = UID.allDevices) :=
    nofun
  obtain ⟨search, found⟩ := (prepared.found_root remembered).reaches single
    (fun uid _ => ⟨UID.zero_le uid, UID.le_allDevices uid⟩) (Nat.le_refl countLimit)
    (Nat.le_of_lt many)
  rw [← Function.iterate_add_apply] at found
  have owned := TransitionSystem.iterate_invariant
    (step_owned (lowestFirst responders false) callback)
    (start_owned idle incremental callback) (search + preliminary)
  generalize spent : (step (lowestFirst responders false))^[search + preliminary]
    (start agent incremental callback) = session at found owned
  have given := (step_send (lowestFirst responders false) found.next).2
  rw [sendDiscovery_root found.stack rfl (counting_limit _ _ _), Prod.mk.injEq] at given
  have ended := (step_send (lowestFirst responders false) given.2).2
  rw [sendDiscovery_empty (congrArg Agent.uidRanges given.1)
    ((congrArg Agent.onComplete given.1).trans owned.registered), Prod.mk.injEq] at ended
  have uids := congrArg Agent.uids given.1
  have partialResult : session.agent.uids ≠ responders := by
    intro everything
    have counted := found.found
    have split := Finset.card_sdiff_add_card_eq_card remembered
    unfold sought at many
    rw [everything] at counted
    omega
  have final := ended.2
  rw [uids, ← spent] at final
  rw [← spent] at partialResult
  exact ⟨2 + (search + preliminary), _, _,
    (congrArg next (Function.iterate_add_apply _ 2 _ _)).trans final, partialResult⟩

/-- As many UIDs as the counters allow, all in one half: that half is given up. -/
theorem overflow_corrupt (full : (sought agent incremental responders).card = countLimit)
    (half : (∀ uid ∈ sought agent incremental responders, uid ≤ lowerHalfEnd) ∨
      ∀ uid ∈ sought agent incremental responders, upperHalfStart ≤ uid) :
    ∃ steps uids,
      ((Session.step (lowestFirst responders true))^[steps]
        (Session.start agent incremental callback)).next = .complete callback false uids := by
  have remembered := known_subset agent incremental responders
  obtain ⟨preliminary, prepared⟩ := reaches_prepared
    (lowestFirst_ideal responders true) idle incremental callback
  have owned := TransitionSystem.iterate_invariant
    (step_owned (lowestFirst responders true) callback)
    (start_owned idle incremental callback)
  have upper := prepared.found_upper remembered (full.symm ▸ by decide)
  rw [← Function.iterate_add_apply] at upper
  rcases half with low | high
  · have nobody : between upperHalfStart UID.allDevices (responders \
        ((step (lowestFirst responders true))^[2 + preliminary]
          (start agent incremental callback)).agent.uids) = ∅ := by
      rw [Finset.eq_empty_iff_forall_notMem]
      intro uid member
      obtain ⟨fresh, atLeast, _⟩ := mem_between.mp member
      obtain ⟨present, unknown⟩ := Finset.mem_sdiff.mp fresh
      have atMost := low uid
        (Finset.mem_sdiff.mpr ⟨present, fun known => unknown (upper.remembered known)⟩)
      exact absurd (atLeast.trans atMost) (by decide)
    have lower := upper.found_lower nobody
    rw [← Function.iterate_add_apply] at lower
    obtain ⟨search, found⟩ := lower.reaches (fun _ => by decide)
      (fun uid member => ⟨UID.zero_le uid, low uid member⟩) (Nat.le_refl countLimit) full.ge
    rw [← Function.iterate_add_apply] at found
    have tainted := found.tainted (lowestFirst responders true) (List.cons_ne_nil _ _)
      (owned _).live
    rw [← Function.iterate_succ_apply' (step (lowestFirst responders true))] at tainted
    exact tainted_fails idle incremental callback _ tainted
  · obtain ⟨search, found⟩ := upper.reaches (fun _ => by decide)
      (fun uid member => ⟨high uid member, UID.le_allDevices uid⟩) (Nat.le_refl countLimit) full.ge
    rw [← Function.iterate_add_apply] at found
    have tainted := found.tainted (lowestFirst responders true) (List.cons_ne_nil _ _)
      (owned _).live
    rw [← Function.iterate_succ_apply' (step (lowestFirst responders true))] at tainted
    exact tainted_fails idle incremental callback _ tainted

end

/-- Against every fault-free bus a run ends by running its callback once, with
status true and exactly the responders. -/
def Discovers (agent : Agent) (incremental : Bool) (responders : UIDSet) : Prop :=
  ∀ target callback, Ideal responders target →
    ∃ count,
      let session := (Session.step target)^[count] (Session.start agent incremental callback)
      session.next = .complete callback true responders ∧
      session.ran = [(callback, true, responders)] ∧
      ∀ later, (Session.step target)^[later] session = session

theorem Session.complete_unique (target : Target) {session : Session} {first second : Nat}
    {callback callback' : Nat} {status status' : Bool} {uids uids' : UIDSet}
    (left : ((Session.step target)^[first] session).next = .complete callback status uids)
    (right : ((Session.step target)^[second] session).next = .complete callback' status' uids') :
    status = status' ∧ uids = uids' := by
  have same : ((step target)^[first] session) = ((step target)^[second] session) := by
    rw [← iterate_of_completed target ⟨_, _, _, left⟩ second,
      ← iterate_of_completed target ⟨_, _, _, right⟩ first,
      ← Function.iterate_add_apply, ← Function.iterate_add_apply, Nat.add_comm]
  rw [same, right] at left
  cases left
  exact ⟨rfl, rfl⟩

theorem halves_of_not_withinCounters {uids : UIDSet} (full : uids.card = countLimit)
    (beyond : ¬ WithinCounters uids) :
    (∀ uid ∈ uids, uid ≤ lowerHalfEnd) ∨ ∀ uid ∈ uids, upperHalfStart ≤ uid := by
  have lowerEnd : lowerHalfEnd.toNat = 2 ^ 47 - 1 := by decide
  have upperStart : upperHalfStart.toNat = 2 ^ 47 := by decide
  by_cases low : ∃ uid ∈ uids, uid.toNat < 2 ^ 47
  · left
    intro uid member
    rw [UID.le_iff, lowerEnd]
    by_contra above
    exact beyond (Or.inr ⟨full, low, uid, member, by omega⟩)
  · right
    intro uid member
    rw [UID.le_iff, upperStart]
    by_contra below
    exact low ⟨uid, member, by omega⟩

theorem Discovers.withinCounters {agent : Agent} (idle : agent.Idle) {incremental : Bool}
    (discovers : Discovers agent incremental responders) :
    WithinCounters (sought agent incremental responders) := by
  rcases Nat.lt_trichotomy (sought agent incremental responders).card countLimit with
    few | full | many
  · exact Or.inl few
  · by_contra beyond
    have half := halves_of_not_withinCounters full beyond
    obtain ⟨steps, uids, failed⟩ := overflow_corrupt idle incremental 0 full half
    obtain ⟨count, succeeded, _⟩ := discovers _ 0 (lowestFirst_ideal responders true)
    exact absurd (complete_unique _ failed succeeded).1 (by decide)
  · obtain ⟨steps, status, uids, ended, missing⟩ := overflow_incomplete idle incremental 0 many
    obtain ⟨count, succeeded, _⟩ := discovers _ 0 (lowestFirst_ideal responders false)
    exact absurd (complete_unique _ ended succeeded).2 missing

/-- Discovery finds every responder set that the 32-bit counters can count, from
any remembered state, and no other. -/
theorem discovers_iff (agent : Agent) (idle : agent.Idle) (incremental : Bool)
    (responders : UIDSet) :
    Discovers agent incremental responders ↔
      WithinCounters (sought agent incremental responders) := by
  constructor
  · exact Discovers.withinCounters idle
  · intro countable target callback ideal
    obtain ⟨count, next⟩ := Session.discovers ideal idle incremental callback countable
    have owned := TransitionSystem.iterate_invariant (Session.step_owned target callback)
      (Session.start_owned idle incremental callback) count
    refine ⟨count, next, ?_, Session.iterate_of_completed target ⟨_, _, _, next⟩⟩
    rw [owned.ran, next]
    rfl

/-- Two responders, one of them remembered from an earlier run. -/
theorem discovers_iff_two :
    let agent : Agent := { Agent.new true with uids := {⟨1, 10⟩} }
    agent.Idle ∧ Discovers agent true {⟨1, 10⟩, ⟨1, 11⟩} :=
  ⟨⟨rfl, rfl⟩, (discovers_iff _ ⟨rfl, rfl⟩ true _).mpr (Or.inl (by decide))⟩

/-- One responder more than the counters allow: the UIDs from 0000:00000000 on. -/
def crowd : UIDSet := (Finset.range (countLimit + 1)).image UID.ofNat

theorem crowd_card : crowd.card = countLimit + 1 := by
  have fits : countLimit + 1 < 2 ^ 48 := by decide
  unfold crowd
  rw [Finset.card_image_of_injOn, Finset.card_range]
  intro left leftMember right rightMember same
  simp only [Finset.coe_range, Set.mem_Iio] at leftMember rightMember
  have values := congrArg UID.toNat same
  rwa [UID.toNat_ofNat (by omega), UID.toNat_ofNat (by omega)] at values

/-- A full discovery by a fresh agent misses a responder of the crowd. -/
theorem crowd_not_discovered : ¬ Discovers (Agent.new false) false crowd := by
  intro discovers
  have countable := discovers.withinCounters (Agent.new_idle false)
  have all : sought (Agent.new false) false crowd = crowd := Finset.sdiff_empty
  rw [all] at countable
  rcases countable with few | ⟨full, _⟩
  · rw [crowd_card] at few
    omega
  · rw [crowd_card] at full
    omega

end OpenLighting.DiscoveryAgent
