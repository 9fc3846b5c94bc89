import OpenLighting.DiscoveryAgentStep
import OpenLighting.DubResponse

namespace OpenLighting.DiscoveryAgent

/-- A mute request for the UID was answered. -/
def Acknowledged (history : List Exchange) (uid : UID) : Prop :=
  ∃ callback reply, (Request.muteDevice uid callback, reply) ∈ history ∧ reply.status = true

/-- A previously known UID whose mute has not been answered yet. -/
def Unanswered (agent : Agent) (uid : UID) : Next → Prop
  | .request .unMuteAll => uid ∈ agent.uidsToMute
  | .request (.muteDevice muting .incrementalMute) => uid ∈ agent.uidsToMute ∨ uid = muting
  | _ => False

variable {history : List Exchange}

theorem Acknowledged.cons {uid : UID} (acknowledged : Acknowledged history uid)
    (exchange : Exchange) : Acknowledged (exchange :: history) uid := by
  obtain ⟨callback, reply, member, status⟩ := acknowledged
  exact ⟨callback, reply, List.mem_cons_of_mem _ member, status⟩

/-- Everything in the result set so far is accounted for. -/
def Accounted (agent : Agent) (next : Next) (history : List Exchange) : Prop :=
  ∀ uid ∈ agent.uids, Acknowledged history uid ∨ Unanswered agent uid next

theorem Accounted.cons {agent : Agent} {next : Next} (accounted : Accounted agent next history)
    (exchange : Exchange) : Accounted agent next (exchange :: history) := fun uid member =>
  (accounted uid member).imp_left (·.cons exchange)

theorem purge_uids (agent : Agent) (reply : Reply) (request : Request) :
    (purge agent reply request).uids ⊆ agent.uids := by
  unfold purge
  split
  · split
    · exact Finset.Subset.refl _
    · exact Finset.erase_subset _ _
  · exact Finset.Subset.refl _

/-- Of the UIDs kept after a preliminary reply, only those still queued wait. -/
theorem purge_accounted {agent : Agent} {reply : Reply} {request : Request}
    (live : Live agent (.request request)) (preliminary : request.Preliminary)
    (accounted : Accounted agent (.request request) history) :
    ∀ uid ∈ (purge agent reply request).uids,
      Acknowledged ((request, reply) :: history) uid ∨ uid ∈ agent.uidsToMute := by
  intro uid member
  have known := purge_uids agent reply request member
  rcases accounted uid known with acknowledged | unanswered
  · exact Or.inl (acknowledged.cons _)
  · cases request with
    | unMuteAll => exact Or.inr unanswered
    | branch lower upper => cases preliminary
    | muteDevice muting callback =>
      cases callback with
      | branchMute => cases preliminary
      | incrementalMute =>
        rcases unanswered with queued | rfl
        · exact Or.inr queued
        · cases status : reply.status with
          | true =>
            exact Or.inl ⟨.incrementalMute, reply, List.mem_cons_self .., status⟩
          | false =>
            have muting : agent.mutingUid = uid := live.2.2
            simp [purge, status, muting] at member

/-- A UID enters the result set only when its mute is answered. -/
theorem Transition.accounted {agent after : Agent} {reply : Reply} {request : Request}
    {following : Next} {history : List Exchange}
    (transition : Transition agent reply (.request request) after following)
    (live : Live agent (.request request))
    (accounted : Accounted agent (.request request) history) :
    Accounted after following ((request, reply) :: history) := by
  cases transition with
  | muteNext _ next queue preliminary waiting =>
    intro uid member
    refine (purge_accounted live preliminary accounted uid member).imp_right ?_
    rw [waiting, List.mem_cons]
    exact Or.symm
  | muteDone _ preliminary drained =>
    intro uid member
    rcases purge_accounted live preliminary accounted uid member with acknowledged | queued
    · exact Or.inl acknowledged
    · rw [drained] at queued
      cases queued
  | muted range rest stack success =>
    intro uid member
    rcases Finset.mem_insert.mp member with rfl | member
    · exact Or.inl ⟨.branchMute, reply, List.mem_cons_self .., success⟩
    · exact (accounted uid member).imp_left (·.cons _)
  | silentRoot range stack silent | silent range rest parent stack child silent
  | endOfTree range rest stack answered collision single
  | split range rest stack answered collision wide
  | repeated range rest uid stack located known
  | located range rest uid stack located unknown untried | retry failed again
  | gaveUp failed spent => exact accounted.cons _

/-- `SendDiscovery` leaves the result set alone. -/
theorem Transition.uids {agent after : Agent} {reply : Reply} {following : Next}
    (transition : Transition agent reply .sendDiscovery after following) :
    after.uids = agent.uids := by
  cases transition <;> rfl

structure Session.Confirmed (session : Session) : Prop where
  live : Live session.agent session.next
  accounted : Accounted session.agent session.next session.history

theorem Session.step_confirmed (target : Target) (session : Session)
    (confirmed : session.Confirmed) : (session.step target).Confirmed := by
  by_cases completed : session.Completed
  · rwa [session.step_of_completed target completed]
  refine ⟨session.step_live target confirmed.live, ?_⟩
  have transition := session.step_transition target confirmed.live completed
  obtain ⟨live, accounted⟩ := confirmed
  cases next : session.next with
  | request request =>
    rw [next] at transition live accounted
    have reply : session.reply target = target session.history request := by
      simp only [Session.reply, next]
    have history : (session.step target).history =
        (request, target session.history request) :: session.history := by
      simp only [Session.step, next]
    rw [reply] at transition
    rw [history]
    exact transition.accounted live accounted
  | sendDiscovery =>
    rw [next] at transition accounted
    have history : (session.step target).history = session.history := by
      simp only [Session.step, next, Session.after]
    intro uid member
    rw [transition.uids] at member
    rw [history]
    exact (accounted uid member).imp_right False.elim
  | complete callback status uids => exact absurd ⟨callback, status, uids, next⟩ completed
  | fail callback | finished | fault reason => rw [next] at live; cases live

theorem Session.start_confirmed {agent : Agent} (idle : agent.Idle) (incremental : Bool)
    (callback : Nat) : (Session.start agent incremental callback).Confirmed := by
  refine ⟨Session.start_live idle incremental callback, ?_⟩
  intro uid member
  cases incremental with
  | true =>
    right
    simpa [Session.start, Session.after, initDiscovery_idle idle, Unanswered] using member
  | false => simp [Session.start, Session.after, initDiscovery_idle idle] at member

/-- Every UID a run reports answered a mute request of that run, however the
target behaves and whatever the agent remembers from earlier runs. -/
theorem discovery_sound (target : Target) (agent : Agent) (idle : agent.Idle)
    (incremental : Bool) (callback count : Nat) (status : Bool) (uids : UIDSet)
    (completed : ((Session.step target)^[count]
      (Session.start agent incremental callback)).next = .complete callback status uids) :
    ∀ uid ∈ uids, Acknowledged
      ((Session.step target)^[count] (Session.start agent incremental callback)).history uid := by
  have confirmed := TransitionSystem.iterate_invariant (Session.step_confirmed target)
    (Session.start_confirmed idle incremental callback) count
  have live := confirmed.live
  have accounted := confirmed.accounted
  rw [completed] at live accounted
  obtain ⟨_, _, _, rfl⟩ := live
  intro uid member
  exact (accounted uid member).resolve_right id

/-- One responder, 0001:0000000a, that is silent once a mute has been sent. -/
def mutingTarget : Target := fun history request =>
  match request with
  | .unMuteAll => ⟨true, []⟩
  | .muteDevice uid _ => ⟨decide (uid = ⟨1, 10⟩), []⟩
  | .branch _ _ =>
    if history.any fun exchange => exchange.1 = .muteDevice ⟨1, 10⟩ .branchMute then ⟨true, []⟩
    else ⟨true, dubResponse 0 ⟨1, 10⟩⟩

theorem discovery_sound_one :
    let session := (Session.step mutingTarget)^[7] (Session.start (Agent.new false) false 0)
    (Agent.new false).Idle ∧ session.next = .complete 0 true {⟨1, 10⟩} ∧
      ∀ uid ∈ ({⟨1, 10⟩} : UIDSet), Acknowledged session.history uid :=
  ⟨⟨rfl, rfl⟩, by decide, discovery_sound mutingTarget (Agent.new false) ⟨rfl, rfl⟩ false 0 7 true
    {⟨1, 10⟩} (by decide)⟩

end OpenLighting.DiscoveryAgent
