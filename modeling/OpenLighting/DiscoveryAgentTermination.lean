import OpenLighting.DiscoveryAgentStep
import Mathlib.Data.Prod.Lex

namespace OpenLighting.DiscoveryAgent

open UIDRange

def UIDRange.width (range : UIDRange) : Nat := range.upper.toNat - range.lower.toNat

/-- What one visit of a range can cost, splitting included. -/
def visitCost (width : Nat) : Nat := 23 ^ width

theorem visitCost_pos (width : Nat) : 0 < visitCost width := Nat.pow_pos (by decide)

/-- What a range can still spend without a new UID being found. -/
def UIDRange.budget (range : UIDRange) : Nat :=
  (maxEmptyBranchAttempts - range.attempt) * visitCost range.width +
    (maxBranchFailures - range.failures) + 1

/-- The cost of the visit a range is owed. -/
def UIDRange.debt (range : UIDRange) (owed : Bool) : Nat :=
  if owed then visitCost range.width else 0

theorem UIDRange.debt_mono (range : UIDRange) {less more : Bool}
    (weaker : less = true → more = true) : range.debt less ≤ range.debt more := by
  unfold debt
  by_cases owed : less = true
  · rw [if_pos owed, if_pos (weaker owed)]
  · rw [if_neg owed]
    omega

theorem UIDRange.debt_le (range : UIDRange) (owed : Bool) :
    range.debt owed ≤ visitCost range.width := by
  unfold debt
  split
  · omega
  · omega

/-- A range is owed one more visit if it, or anything above it, holds an
uncollected discovery: the discovery moves down the stack as ranges are freed
and lets each range on its way be visited without counting an attempt. -/
def potential : Bool → List UIDRange → Nat
  | _, [] => 0
  | owed, range :: rest =>
    range.budget + range.debt (owed || range.uidsDiscovered != 0) +
      potential (owed || range.uidsDiscovered != 0) rest

/-- The potential while the top range is being visited. -/
def visitPotential : List UIDRange → Nat
  | [] => 0
  | range :: rest =>
    range.budget + visitCost range.width + potential (range.uidsDiscovered != 0) rest

theorem potential_mono {less more : Bool} (weaker : less = true → more = true)
    (stack : List UIDRange) : potential less stack ≤ potential more stack := by
  induction stack generalizing less more with
  | nil => exact Nat.le_refl _
  | cons range rest ih =>
    have next : (less || range.uidsDiscovered != 0) = true →
        (more || range.uidsDiscovered != 0) = true := by
      simp only [Bool.or_eq_true]
      exact Or.imp_left weaker
    have here := range.debt_mono next
    have below := ih next
    simp only [potential]
    omega

theorem potential_corrupt (owed : Bool) (position : Nat) (stack : List UIDRange) :
    potential owed (modifyRange position UIDRange.corrupt stack) = potential owed stack := by
  induction stack generalizing owed with
  | nil => rfl
  | cons range rest ih =>
    unfold modifyRange
    split
    · rfl
    · simp only [potential, ih]

/-- Collecting the discoveries of a freed range never raises the potential. -/
theorem potential_collect (owed : Bool) (position count : Nat) (stack : List UIDRange) :
    potential owed (modifyRange position (UIDRange.addDiscovered count) stack) ≤
      potential (owed || count != 0) stack := by
  induction stack generalizing owed with
  | nil => exact Nat.le_refl _
  | cons range rest ih =>
    unfold modifyRange
    split
    · have weaker : (owed || (range.addDiscovered count).uidsDiscovered != 0) = true →
          (owed || count != 0 || range.uidsDiscovered != 0) = true := by
        simp only [addDiscovered, Bool.or_eq_true, bne_iff_ne, ne_eq]
        rintro (already | discovered)
        · exact Or.inl (Or.inl already)
        · by_cases none : count = 0
          · right
            intro zero
            simp [none, zero] at discovered
          · exact Or.inl (Or.inr none)
      have here := range.debt_mono weaker
      have below := potential_mono weaker rest
      change range.budget + range.debt _ + _ ≤ range.budget + range.debt _ + _
      omega
    · have weaker : (owed || range.uidsDiscovered != 0) = true →
          (owed || count != 0 || range.uidsDiscovered != 0) = true := by
        simp only [Bool.or_eq_true]
        tauto
      have here := range.debt_mono weaker
      have below := ih (owed || range.uidsDiscovered != 0)
      rw [Bool.or_right_comm] at below
      simp only [potential]
      omega

variable {range : UIDRange} {agent after : Agent} {next following : Next}

/-- A visit either counts an attempt or uses up what the range was owed. -/
theorem visitPotential_visit {rest : List UIDRange} (sound : range.Sound rest) :
    visitPotential (range.visit :: rest) = potential false (range :: rest) := by
  have attempts := sound.attempts
  have width : range.visit.width = range.width := by
    rw [width, visit_lower, visit_upper, width]
  simp only [visitPotential, potential, budget, visit_failures, width,
    visit_uidsDiscovered, visit_attempt sound, Bool.false_or]
  by_cases empty : range.uidsDiscovered = 0
  · have left : maxEmptyBranchAttempts - range.attempt =
        maxEmptyBranchAttempts - (range.attempt + 1) + 1 := by omega
    simp only [empty, ↓reduceIte, bne_self_eq_false, debt, Bool.false_eq_true]
    rw [left, Nat.add_mul]
    omega
  · simp only [empty, ↓reduceIte, bne_iff_ne.mpr empty, debt]

theorem addFailure_budget (visited : range.Visited) :
    range.addFailure.budget + 1 = range.budget := by
  have failures := visited.failures
  have width : range.addFailure.width = range.width := rfl
  have counted : range.addFailure.failures = range.failures + 1 := by
    apply Nat.mod_eq_of_lt
    unfold maxBranchFailures at failures
    unfold unsignedInt
    omega
  have attempt : range.addFailure.attempt = range.attempt := rfl
  rw [budget, budget, width, counted, attempt]
  omega

theorem addFailure_potential (visited : range.Visited) (rest : List UIDRange) :
    potential false (range.addFailure :: rest) < visitPotential (range :: rest) := by
  have budget := addFailure_budget visited
  have width : range.addFailure.width = range.width := rfl
  have debt := range.addFailure.debt_le (range.uidsDiscovered != 0)
  have discovered : range.addFailure.uidsDiscovered = range.uidsDiscovered := rfl
  rw [width] at debt
  rw [potential, visitPotential, discovered, Bool.false_or]
  omega

theorem visitCost_split {width left right : Nat} (low : left < width) (high : right < width) :
    (5 * visitCost left + 6) + (5 * visitCost right + 6) < visitCost width := by
  obtain ⟨width, rfl⟩ : ∃ smaller, width = smaller + 1 := ⟨width - 1, by omega⟩
  have first : visitCost left ≤ visitCost width := Nat.pow_le_pow_right (by decide) (by omega)
  have second : visitCost right ≤ visitCost width := Nat.pow_le_pow_right (by decide) (by omega)
  have positive := visitCost_pos width
  have power : visitCost (width + 1) = visitCost width * 23 := Nat.pow_succ ..
  omega

theorem splitRange_potential (rest : List UIDRange) (ordered : range.lower ≤ range.upper)
    (wide : range.lower ≠ range.upper) :
    potential false (splitRange range rest) < visitPotential (range :: rest) := by
  obtain ⟨above, inside, low, high⟩ := split_bounds ordered wide
  have cost := @visitCost_split range.width
    (range.upper.toNat - ((range.lower.toNat + range.upper.toNat) / 2 + 1))
    ((range.lower.toNat + range.upper.toNat) / 2 - range.lower.toNat)
    (by unfold width; omega) (by unfold width; omega)
  have below := @potential_mono false (range.uidsDiscovered != 0)
    (fun impossible => by cases impossible) rest
  simp only [splitRange, potential, visitPotential, budget, new,
    width, debt, maxEmptyBranchAttempts, maxBranchFailures, low, high,
    bne_self_eq_false, Bool.or_self, Bool.false_eq_true, ↓reduceIte]
  simp only [width] at cost
  omega

/-- Requests that remain before the first branch. -/
def preliminaries (agent : Agent) : Next → Nat
  | .request .unMuteAll => agent.uidsToMute.length + 1
  | .request (.muteDevice _ .incrementalMute) => agent.uidsToMute.length + 1
  | _ => 0

/-- UIDs that can still be found or given up on. -/
def unsettled (agent : Agent) : Nat := 2 * 2 ^ 48 - (agent.uids.card + agent.badUids.card)

/-- Work left on the stack and on the mute in progress. -/
def work (agent : Agent) : Next → Nat
  | .sendDiscovery => 8 * potential false agent.uidRanges + 7
  | .request (.branch _ _) => 8 * visitPotential agent.uidRanges + 6
  | .request (.muteDevice _ .branchMute) =>
    8 * visitPotential agent.uidRanges + (maxMuteAttempts - agent.muteAttempts)
  | _ => 0

def progress (agent : Agent) (next : Next) : Nat ×ₗ Nat ×ₗ Nat :=
  toLex (preliminaries agent next, toLex (unsettled agent, work agent next))

theorem progress_preliminary (fewer : preliminaries after following < preliminaries agent next) :
    progress after following < progress agent next :=
  Prod.Lex.toLex_lt_toLex.mpr (Or.inl fewer)

theorem progress_settled (same : preliminaries after following = preliminaries agent next)
    (fewer : unsettled after < unsettled agent) :
    progress after following < progress agent next :=
  Prod.Lex.toLex_lt_toLex.mpr (Or.inr ⟨same, Prod.Lex.toLex_lt_toLex.mpr (Or.inl fewer)⟩)

theorem progress_work (same : preliminaries after following = preliminaries agent next)
    (uids : after.uids = agent.uids) (badUids : after.badUids = agent.badUids)
    (less : work after following < work agent next) :
    progress after following < progress agent next := by
  have settled : unsettled after = unsettled agent := by rw [unsettled, unsettled, uids, badUids]
  exact Prod.Lex.toLex_lt_toLex.mpr
    (Or.inr ⟨same, Prod.Lex.toLex_lt_toLex.mpr (Or.inr ⟨settled, less⟩)⟩)

theorem unsettled_insert_uids {uid : UID} (unknown : uid ∉ agent.uids)
    (uids : after.uids = insert uid agent.uids) (badUids : after.badUids = agent.badUids) :
    unsettled after < unsettled agent := by
  have found := UID.card_le after.uids
  have bad := UID.card_le agent.badUids
  rw [uids, Finset.card_insert_of_notMem unknown] at found
  rw [unsettled, unsettled, uids, badUids, Finset.card_insert_of_notMem unknown]
  omega

theorem unsettled_insert_badUids {uid : UID} (untried : uid ∉ agent.badUids)
    (uids : after.uids = agent.uids) (badUids : after.badUids = insert uid agent.badUids) :
    unsettled after < unsettled agent := by
  have found := UID.card_le agent.uids
  have bad := UID.card_le after.badUids
  rw [badUids, Finset.card_insert_of_notMem untried] at bad
  rw [unsettled, unsettled, uids, badUids, Finset.card_insert_of_notMem untried]
  omega

theorem preliminaries_pos (agent : Agent) {request : Request} (preliminary : request.Preliminary) :
    preliminaries agent (.request request) = agent.uidsToMute.length + 1 := by
  cases request with
  | unMuteAll => rfl
  | muteDevice uid callback =>
    cases callback with
    | incrementalMute => rfl
    | branchMute => cases preliminary
  | branch lower upper => cases preliminary

theorem freed_work (range : UIDRange) (rest : List UIDRange) (parent : Nat) :
    potential false (modifyRange parent (UIDRange.addDiscovered range.uidsDiscovered) rest) <
      visitPotential (range :: rest) := by
  have collected := potential_collect false parent range.uidsDiscovered rest
  rw [Bool.false_or] at collected
  have positive := visitCost_pos range.width
  rw [visitPotential]
  omega

theorem abandoned_work (range : UIDRange) (rest : List UIDRange) (parent : Nat) :
    potential false (modifyRange parent (UIDRange.addDiscovered range.uidsDiscovered)
      (modifyRange parent UIDRange.corrupt rest)) < potential false (range :: rest) := by
  have collected := potential_collect false parent range.uidsDiscovered
    (modifyRange parent corrupt rest)
  rw [Bool.false_or, potential_corrupt] at collected
  rw [potential, Bool.false_or, budget]
  omega

/-- Every step of a run makes progress. -/
theorem Transition.progress {reply : Reply}
    (transition : Transition agent reply next after following) (live : Live agent next) :
    progress after following < DiscoveryAgent.progress agent next := by
  cases transition with
  | muteNext request uid queue preliminary waiting =>
    apply progress_preliminary
    rw [preliminaries_pos agent preliminary, waiting]
    exact Nat.lt_succ_self _
  | muteDone request preliminary drained =>
    apply progress_preliminary
    rw [preliminaries_pos agent preliminary]
    exact Nat.succ_pos _
  | complete callback registered empty =>
    exact progress_work rfl rfl rfl (Nat.succ_pos _)
  | abandonRoot range stack limit =>
    refine progress_work rfl rfl rfl ?_
    simp only [work, stack, potential, budget]
    omega
  | abandon range rest parent stack child limit =>
    have less := abandoned_work range rest parent
    refine progress_work rfl rfl rfl ?_
    simp only [work, stack]
    omega
  | visit range rest stack below =>
    have sound := live.2
    rw [stack] at sound
    refine progress_work rfl rfl rfl ?_
    simp only [work, stack, visitPotential_visit sound.1]
    omega
  | silentRoot range stack silent =>
    refine progress_work rfl rfl rfl ?_
    simp only [work, stack, potential, visitPotential, budget]
    omega
  | silent range rest parent stack child silent =>
    have less := freed_work range rest parent
    refine progress_work rfl rfl rfl ?_
    simp only [work, stack]
    omega
  | endOfTree range rest stack answered collision single
  | repeated range rest uid stack located known =>
    obtain ⟨_, _, top, below, same, visited, _, _⟩ := live
    rw [stack] at same
    cases same
    have less := addFailure_potential visited rest
    refine progress_work rfl rfl rfl ?_
    simp only [work, stack]
    omega
  | split range rest stack answered collision wide =>
    have sound := live.2.1
    rw [stack] at sound
    have less := splitRange_potential rest sound.1.ordered wide
    refine progress_work rfl rfl rfl ?_
    simp only [work, stack]
    omega
  | located range rest uid stack located unknown untried =>
    refine progress_work rfl rfl rfl ?_
    simp only [work, maxMuteAttempts]
    omega
  | muted range rest stack success =>
    exact progress_settled rfl (unsettled_insert_uids live.2.2.2.1 rfl rfl)
  | retry failed again =>
    obtain ⟨_, _, _, _, _, attempts, _⟩ := live
    have counted : (agent.muteAttempts + 1) % unsignedInt = agent.muteAttempts + 1 :=
      Nat.mod_eq_of_lt (by unfold maxMuteAttempts at attempts; unfold unsignedInt; omega)
    refine progress_work rfl rfl rfl ?_
    simp only [work, counted]
    omega
  | gaveUp failed spent =>
    exact progress_settled rfl (unsettled_insert_badUids live.2.2.2.2.1 rfl rfl)

theorem Session.reaches_completion (target : Target) (idle : agent.Idle) (incremental : Bool)
    (callback : Nat) :
    ∃ count, ((Session.step target)^[count] (Session.start agent incremental callback)).Completed :=
  TransitionSystem.iterate_reaches (fun session => Live session.agent session.next)
    wellFounded_lt (fun session => DiscoveryAgent.progress session.agent session.next)
    (Session.step_live target)
    (fun session live unfinished => (session.step_transition target live unfinished).progress live)
    _ (Session.start_live idle incremental callback)

theorem Session.iterate_of_completed (target : Target) {session : Session}
    (completed : session.Completed) (more : Nat) :
    (Session.step target)^[more] session = session :=
  Function.iterate_fixed (session.step_of_completed target completed) more

/-- Whatever the target answers, a run started on an idle agent stops after
finitely many requests, and by then has run its completion callback once. -/
theorem discovery_terminates (target : Target) (agent : Agent) (idle : agent.Idle)
    (incremental : Bool) (callback : Nat) :
    ∃ count status uids,
      let session := (Session.step target)^[count] (Session.start agent incremental callback)
      session.next = .complete callback status uids ∧
      session.ran = [(callback, status, uids)] ∧
      ∀ later, (Session.step target)^[later] session = session := by
  obtain ⟨count, completed⟩ :=
    Session.reaches_completion target idle incremental callback
  have owned := TransitionSystem.iterate_invariant (Session.step_owned target callback)
    (Session.start_owned idle incremental callback) count
  obtain ⟨next, ran⟩ := owned.completed completed
  exact ⟨count, _, _, next, ran, Session.iterate_of_completed target completed⟩

/-- A fresh agent and a bus where nothing ever answers. -/
theorem discovery_terminates_silent :
    (Agent.new false).Idle ∧
    ∃ count status uids,
      let session := (Session.step fun _ _ => ⟨false, []⟩)^[count]
        (Session.start (Agent.new false) false 0)
      session.next = .complete 0 status uids ∧
      session.ran = [(0, status, uids)] ∧
      ∀ later, (Session.step fun _ _ => ⟨false, []⟩)^[later] session = session :=
  ⟨⟨rfl, rfl⟩, discovery_terminates _ _ ⟨rfl, rfl⟩ false 0⟩

end OpenLighting.DiscoveryAgent
