import OpenLighting.DiscoveryAgentTermination

namespace OpenLighting.DiscoveryAgent

/-- `SendDiscovery` with its recursion: each activation that calls the next one
has freed a range, so the height of the stack bounds the calls. -/
def settle : Nat → Agent × Next → Agent × Next
  | fuel + 1, (agent, .sendDiscovery) => settle fuel (sendDiscovery agent)
  | _, result => result

/-- An answer handled to the end: until the target, the client or nobody is next. -/
def handle (agent : Agent) (reply : Reply) (request : Request) : Agent × Next :=
  let result := deliver agent reply request
  settle (result.1.uidRanges.length + 1) result

/-- An agent with its client and its target. A request in flight is marked with
the callback that was registered when it was sent. `completing` counts the
activations of `SendDiscovery` that are inside the completion callback and have
not cleared `m_on_complete` yet. Starts are numbered, and the number is the
callback. -/
structure World where
  agent : Agent
  completing : Nat
  inFlight : List (Option Nat × Request)
  starts : Nat
  accepted : List Nat
  ran : List Nat
  fault : Option Fault

def World.initial (treeCorrupt : Bool) : World := ⟨Agent.new treeCorrupt, 0, [], 0, [], [], none⟩

/-- What the client and the target can do. `answer` delivers the reply to one of
the requests in flight, in any order; `callbackReturns` ends the innermost
completion callback. -/
inductive Event where
  | start (incremental : Bool)
  | abort
  | answer (index : Nat) (reply : Reply)
  | callbackReturns
  deriving DecidableEq

variable (world : World)

/-- Carry out what a member function ends with. -/
def World.after (result : Agent × Next) : World :=
  match result.2 with
  | .request request =>
    { world with
      agent := result.1, inFlight := world.inFlight ++ [(result.1.onComplete, request)] }
  | .complete callback _ _ =>
    { world with
      agent := result.1, ran := callback :: world.ran, completing := world.completing + 1 }
  | .fail callback => { world with agent := result.1, ran := callback :: world.ran }
  | .fault reason => { world with agent := result.1, fault := some reason }
  | .sendDiscovery => { world with agent := result.1 }
  | .finished => { world with agent := result.1 }

def World.start (incremental : Bool) : World :=
  let world' : World :=
    { world with
      starts := world.starts + 1
      accepted :=
        if world.agent.onComplete = none then world.starts :: world.accepted
        else world.accepted }
  world'.after (initDiscovery world.agent world.starts incremental)

def World.answer (index : Nat) (reply : Reply) : World :=
  match world.inFlight[index]? with
  | none => world
  | some flight =>
    World.after { world with inFlight := world.inFlight.eraseIdx index }
      (handle world.agent reply flight.2)

def World.step (event : Event) : World :=
  if world.fault = none then
    match event with
    | .start incremental => world.start incremental
    | .abort => world.after (abort world.agent)
    | .answer index reply => world.answer index reply
    | .callbackReturns =>
      match world.completing with
      | 0 => world
      | depth + 1 =>
        { world with agent := completeReturned world.agent, completing := depth }
  else world

/-- Answers that an agent without a run takes in its stride. -/
def Harmless (request : Request) (reply : Reply) : Prop :=
  match request with
  | .unMuteAll => True
  | .muteDevice _ .incrementalMute => True
  | .muteDevice _ .branchMute => reply.status = false
  | .branch _ _ => False

instance : (request : Request) → (reply : Reply) → Decidable (Harmless request reply)
  | .unMuteAll, _ => .isTrue trivial
  | .muteDevice _ .incrementalMute, _ => .isTrue trivial
  | .muteDevice _ .branchMute, reply => inferInstanceAs (Decidable (reply.status = false))
  | .branch _ _, _ => .isFalse id

/-- An answer goes to the run that is going on, or comes while there is none and
does no harm; and the client does not abort from the callback that reports the
result. -/
def World.Orderly (world : World) : Event → Prop
  | .start _ => True
  | .abort => world.completing = 0
  | .answer index reply =>
    ∀ flight ∈ world.inFlight[index]?,
      world.completing = 0 ∧
      (world.agent.onComplete ≠ none ∧ flight.1 = world.agent.onComplete ∨
        world.agent.onComplete = none ∧ Harmless flight.2 reply)
  | .callbackReturns => True

instance (world : World) : (event : Event) → Decidable (world.Orderly event)
  | .start _ => .isTrue trivial
  | .abort => inferInstanceAs (Decidable (world.completing = 0))
  | .answer index reply =>
    inferInstanceAs (Decidable (∀ flight ∈ world.inFlight[index]?,
      world.completing = 0 ∧
      (world.agent.onComplete ≠ none ∧ flight.1 = world.agent.onComplete ∨
        world.agent.onComplete = none ∧ Harmless flight.2 reply)))
  | .callbackReturns => .isTrue trivial

section Settling
variable {agent : Agent} {reply : Reply} {request : Request}

theorem settle_invariant (Inv : Agent → Next → Prop)
    (preserved : ∀ agent, Inv agent .sendDiscovery →
      Inv (sendDiscovery agent).1 (sendDiscovery agent).2) (fuel : Nat) (result : Agent × Next)
    (initial : Inv result.1 result.2) :
    Inv (settle fuel result).1 (settle fuel result).2 := by
  induction fuel generalizing result with
  | zero => exact initial
  | succ fuel ih =>
    unfold settle
    split
    · rename_i same
      cases same
      exact ih _ (preserved _ initial)
    · exact initial

theorem freeCurrentRange_length {after : Agent} (freed : freeCurrentRange agent = .ok after) :
    after.uidRanges.length + 1 = agent.uidRanges.length := by
  unfold freeCurrentRange at freed
  split at freed
  · cases freed
  · rename_i range stack
    cases freed
    simp [stack]
  · rename_i range rest stack
    split at freed
    · cases freed
    · cases freed
      simp [stack]

theorem abandonRange_length {range : UIDRange} {rest : List UIDRange}
    (again : (abandonRange agent range rest).2 = .sendDiscovery) :
    (abandonRange agent range rest).1.uidRanges.length = rest.length := by
  unfold abandonRange at again ⊢
  simp only at again ⊢
  split at again
  · rename_i after freed
    have length := freeCurrentRange_length freed
    simp only [List.length_cons, Nat.add_right_cancel_iff] at length
    rw [length]
    split
    · exact modifyRange_length _ _ _
    · rfl
  · cases again

/-- An activation that calls the next one has freed a range. -/
theorem sendDiscovery_shrinks (again : (sendDiscovery agent).2 = .sendDiscovery) :
    (sendDiscovery agent).1.uidRanges.length < agent.uidRanges.length := by
  cases stack : agent.uidRanges with
  | nil =>
    simp only [sendDiscovery, stack] at again
    split at again <;> cases again
  | cons range rest =>
    by_cases limit : range.visit.LimitReached
    · simp only [sendDiscovery, stack, limit, ↓reduceIte] at again ⊢
      rw [abandonRange_length again, List.length_cons]
      omega
    · simp only [sendDiscovery, stack, limit, ↓reduceIte] at again
      cases again

theorem settle_settled (fuel : Nat) (result : Agent × Next)
    (enough : result.1.uidRanges.length < fuel) : (settle fuel result).2 ≠ .sendDiscovery := by
  induction fuel generalizing result with
  | zero => omega
  | succ fuel ih =>
    obtain ⟨agent, next⟩ := result
    cases next with
    | sendDiscovery =>
      by_cases again : (sendDiscovery agent).2 = .sendDiscovery
      · apply ih
        have shorter := sendDiscovery_shrinks again
        simp only at enough
        omega
      · rw [settle]
        cases fuel with
        | zero => exact again
        | succ fuel =>
          unfold settle
          split
          · rename_i same
            rw [same] at again
            exact absurd rfl again
          · exact again
    | _ => nofun

/-- The part of a run that one answer sets off: it ends with the next request or
with the result. -/
theorem handle_running (reply : Reply) (live : Live agent (.request request)) :
    (handle agent reply request).1.onComplete = agent.onComplete ∧
    Live (handle agent reply request).1 (handle agent reply request).2 ∧
    progress (handle agent reply request).1 (handle agent reply request).2 <
      progress agent (.request request) := by
  have transition := deliver_transition reply request live
  apply settle_invariant fun later next =>
    later.onComplete = agent.onComplete ∧ Live later next ∧
      progress later next < progress agent (.request request)
  · intro later state
    have again := sendDiscovery_transition reply state.2.1
    exact ⟨again.onComplete.trans state.1, again.live state.2.1,
      (again.progress state.2.1).trans state.2.2⟩
  · exact ⟨transition.onComplete, transition.live live, transition.progress live⟩

theorem handle_settled (reply : Reply) (live : Live agent (.request request)) :
    (∃ following, (handle agent reply request).2 = .request following) ∨
      ∃ callback status uids, (handle agent reply request).2 = .complete callback status uids := by
  have settled := settle_settled ((deliver agent reply request).1.uidRanges.length + 1)
    (deliver agent reply request) (Nat.lt_succ_self _)
  have following := (handle_running reply live).2.1
  cases next : (handle agent reply request).2 with
  | request following => exact Or.inl ⟨following, rfl⟩
  | complete callback status uids => exact Or.inr ⟨callback, status, uids, rfl⟩
  | sendDiscovery => exact absurd next settled
  | fail callback | finished | fault reason => rw [next] at following; cases following

theorem maybeMute_idle (idle : agent.Idle) :
    let result := maybeMuteNextDevice agent
    let settled := settle (result.1.uidRanges.length + 1) result
    settled.1.Idle ∧ (settled.2 = .finished ∨ ∃ following, settled.2 = .request following) := by
  obtain ⟨unregistered, empty⟩ := idle
  cases queue : agent.uidsToMute with
  | nil => simp [maybeMuteNextDevice, queue, empty, settle, sendDiscovery, unregistered, Agent.Idle]
  | cons uid rest =>
    simp [maybeMuteNextDevice, queue, settle, unregistered, empty, Agent.Idle]

/-- An agent without a run ignores harmless answers, or sends one more mute. -/
theorem handle_idle (idle : agent.Idle) (harmless : Harmless request reply) :
    (handle agent reply request).1.Idle ∧
      ((handle agent reply request).2 = .finished ∨
        ∃ following, (handle agent reply request).2 = .request following) := by
  cases request with
  | unMuteAll => exact maybeMute_idle idle
  | muteDevice target callback =>
    cases callback with
    | incrementalMute =>
      apply maybeMute_idle
      split
      · exact idle
      · exact idle
    | branchMute =>
      obtain ⟨unregistered, empty⟩ := idle
      have failed : reply.status = false := harmless
      simp only [handle, deliver, branchMuteComplete, failed, Bool.false_eq_true, ↓reduceIte]
      split
      · exact ⟨⟨unregistered, empty⟩, Or.inr ⟨_, rfl⟩⟩
      · simp [empty, settle, sendDiscovery, unregistered, Agent.Idle]
  | branch lower upper => exact absurd harmless id

end Settling

end OpenLighting.DiscoveryAgent
