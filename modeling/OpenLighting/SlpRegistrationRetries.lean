import OpenLighting.SlpRegistrationOperations

namespace OpenLighting.Slp.ServiceAgent

open TransitionSystem FiniteMap

/-- What may make an operation leave. -/
inductive Settled (times : RetryTimes) (state : ServiceAgent) : Event → SrvRegOperation → Prop where
  | acked {op : SrvRegOperation} {errorCode : UInt16} (other : errorCode ≠ daBusyNow) :
      Settled times state (.ack op.xid errorCode) op
  | expired {op : SrvRegOperation} (kind : op.isRegistration = true) (ends : op.expires = true) :
      Settled times state (.timeout op.number) op
  | declaredBad {op other : SrvRegOperation} (member : other ∈ state.pendingOps)
      (same : other.daUrl = op.daUrl)
      (bad : verdict times state.tracker other = some .bad) :
      Settled times state (.timeout other.number) op
  | unserved {op : SrvRegOperation} {number : Nat} (left : Unserved state.tracker op) :
      Settled times state (.timeout number) op
  | registered {op : SrvRegOperation} {now : Int} {service : ServiceEntry}
      (same : service.url.url = op.service.url.url) : Settled times state (.register now service) op
  | deRegistered {op : SrvRegOperation} {now : Int} {service : ServiceEntry}
      (same : service.url.url = op.service.url.url) :
      Settled times state (.deRegister now service) op

/-- An operation leaves only if it is settled, and until then its acknowledgement is waited for. -/
def Retried (times : RetryTimes) (state : ServiceAgent) (event : Event) : Prop :=
  (∀ op ∈ state.pendingOps, Left (state.step times event) op → Settled times state event op) ∧
    Awaited (state.step times event)

/-- The number of agents that a service is registered with. -/
def agentCount (state : ServiceAgent) (service : ServiceEntry) : Nat :=
  (state.tracker.getDAsForScopes service.scopes).length

/-- No operation for the URL shares its xid with one for another URL, unless the xid is taken
again at once. -/
def CancelledApart (state : ServiceAgent) (service : ServiceEntry) : Prop :=
  ∀ one ∈ state.pendingOps, ∀ two ∈ state.pendingOps, one.service.url.url = service.url.url →
    two.service.url.url ≠ service.url.url → one.xid = two.xid →
    two.xid ∈ state.nextXids (state.agentCount service)

/-- An agent that answers an operation is not busy and is sent no other operation for the service,
nor is there one with the same xid for another service or agent. When an operation is given up, the
others for the service and the agent have no reason to stay, and none for another service or agent
has its xid. -/
def Orderly (times : RetryTimes) (state : ServiceAgent) : Event → Prop
  | .ack xid errorCode => ∀ op ∈ state.pendingOps, op.xid = xid → errorCode ≠ daBusyNow ∧
      ∀ other ∈ state.pendingOps, SamePair other op ↔ other.xid = xid
  | .timeout number => ∀ op ∈ state.pendingOps, op.number = number →
      ∀ reason, verdict times state.tracker op = some reason →
        (∀ other ∈ state.pendingOps, SamePair other op →
          other = op ∨ reason = .bad ∨ Unserved state.tracker other) ∧
        Apart state.pendingOps (ofPair op)
  | .register now service => service.url.lifetime ≠ 0 →
      state.store.checkIfScopesMatch now { service with isLocal := true } ≠ .scopeMismatch →
      state.CancelledApart service
  | .deRegister now service => state.store.checkIfScopesMatch now service = .ok →
      state.CancelledApart service
  | _ => True

section Steps
variable {times : RetryTimes} {state : ServiceAgent}

variable {event : Event} {op : SrvRegOperation}

theorem Kept.retried (kept : Kept state (state.step times event)) (awaited : Awaited state) :
    Retried times state event :=
  ⟨fun _ member left => absurd left (kept.not_left member), kept.awaited awaited⟩

theorem Grown.retried {count : Nat} (grown : Grown state (state.step times event) count)
    (sound : Sound state) (awaited : Awaited state) : Retried times state event := by
  constructor
  · intro op member left
    have before := (grown.left_iff (sound.below op member)).mp left
    exact absurd rfl (before op member)
  · exact grown.awaited_iff.mpr (fun op member => .inl (awaited op member))

theorem step_ack_unknown {xid errorCode : UInt16} (unknown : state.pendingAcks.lookup xid = none) :
    state.step times (.ack xid errorCode) = state := by
  rw [step, handleServiceAck, unknown]

/-- An answer that is waited for reaches its operation. -/
theorem step_ack (sound : Sound state) (member : op ∈ state.pendingOps) (errorCode : UInt16)
    (found : state.pendingAcks.lookup op.xid = some op.number) :
    state.step times (.ack op.xid errorCode) =
      (state.cancelPendingSrvAck op.xid).receivedAck op errorCode := by
  have same : (state.cancelPendingSrvAck op.xid).findOperation op.number = some op :=
    sound.findOperation member
  rw [step, handleServiceAck, found]
  dsimp only
  rw [same]

theorem not_awaited_busy (sound : Sound state) (member : op ∈ state.pendingOps)
    (found : state.pendingAcks.lookup op.xid = some op.number) :
    ¬ Awaited (state.step times (.ack op.xid daBusyNow)) := by
  rw [step_ack sound member daBusyNow found, receivedAck, if_pos rfl]
  intro awaited
  have waiting := awaited op member
  rw [cancelPendingSrvAck, lookup_erase_eq, if_pos rfl] at waiting
  cases waiting

theorem cancelled_ack {op : SrvRegOperation} {errorCode : UInt16} (sound : Sound state)
    (member : op ∈ state.pendingOps) (found : state.pendingAcks.lookup op.xid = some op.number)
    (other : errorCode ≠ daBusyNow) :
    Cancelled state (state.step times (.ack op.xid errorCode)) (ofPair op) := by
  rw [step_ack sound member errorCode found, receivedAck, if_neg other]
  apply @cancelled_cancel state (state.cancelPendingSrvAck op.xid) (ofPair op) rfl
  · intro xid out
    rw [cancelPendingSrvAck, lookup_erase_eq, if_neg]
    intro here
    exact out ⟨op, member, ofPair_eq_true.mpr ⟨rfl, rfl⟩, here.symm⟩
  · exact fun _ _ => Iff.rfl
  · rfl

theorem settled_ack_iff {xid errorCode : UInt16} :
    Settled times state (.ack xid errorCode) op ↔ op.xid = xid ∧ errorCode ≠ daBusyNow := by
  constructor
  · intro settled
    cases settled with
    | acked other => exact ⟨rfl, other⟩
  · intro both
    rw [← both.1]
    exact .acked both.2

theorem SamePair.symm {one two : SrvRegOperation} (same : SamePair one two) : SamePair two one :=
  ⟨same.1.symm, same.2.symm⟩

theorem SamePair.trans {one two three : SrvRegOperation} (first : SamePair one two)
    (second : SamePair two three) : SamePair one three :=
  ⟨first.1.trans second.1, first.2.trans second.2⟩

/-- The operations that leave are those of the answered one's service and agent. -/
theorem retried_answered_iff {errorCode : UInt16} (sound : Sound state) (awaited : Awaited state)
    (member : op ∈ state.pendingOps) (found : state.pendingAcks.lookup op.xid = some op.number)
    (other : errorCode ≠ daBusyNow) :
    Retried times state (.ack op.xid errorCode) ↔
      ∀ one ∈ state.pendingOps, SamePair one op ↔ one.xid = op.xid := by
  have cancelled := @cancelled_ack times state op errorCode sound member found other
  have whole : ofPair op op = true := ofPair_eq_true.mpr ⟨rfl, rfl⟩
  rw [Retried, cancelled.awaited_iff awaited]
  constructor
  · intro retried one inside
    constructor
    · intro same
      have left := (cancelled.left_iff sound inside).mpr (ofPair_eq_true.mpr same)
      exact (settled_ack_iff.mp (retried.1 one inside left)).1
    · intro same
      by_contra different
      have stays : ofPair op one = false := by
        rw [← Bool.not_eq_true, ofPair_eq_true]
        exact different
      exact retried.2 op member one inside whole stays same.symm
  · intro alike
    constructor
    · intro one inside left
      have same := ofPair_eq_true.mp ((cancelled.left_iff sound inside).mp left)
      exact settled_ack_iff.mpr ⟨(alike one inside).mp same, other⟩
    · intro one here two there taken stays same
      have first := (alike one here).mp (ofPair_eq_true.mp taken)
      have second := (alike two there).mpr (same.symm.trans first)
      rw [ofPair_eq_true.mpr second] at stays
      cases stays

theorem retried_ack_iff (sound : Sound state) (awaited : Awaited state) (xid errorCode : UInt16) :
    Retried times state (.ack xid errorCode) ↔ Orderly times state (.ack xid errorCode) := by
  cases found : state.pendingAcks.lookup xid with
  | none =>
    have kept := Kept.of_eq (@step_ack_unknown times state xid errorCode found)
    constructor
    · intro _ op member named
      have waiting := awaited op member
      rw [named, found] at waiting
      cases waiting
    · exact fun _ => kept.retried awaited
  | some number =>
    obtain ⟨op, member, rfl, rfl⟩ := sound.acks xid number found
    by_cases busy : errorCode = daBusyNow
    · constructor
      · intro retried
        rw [busy] at retried
        exact absurd retried.2 (not_awaited_busy sound member found)
      · intro orderly
        exact absurd busy (orderly op member rfl).1
    · rw [retried_answered_iff sound awaited member found busy]
      constructor
      · intro alike one inside same
        have pair := (alike one inside).mpr same
        refine ⟨busy, fun two there => ?_⟩
        rw [← alike two there]
        exact ⟨fun both => both.trans pair, fun both => both.trans pair.symm⟩
      · exact fun orderly => (orderly op member rfl).2

theorem settled_timeout_iff {other : SrvRegOperation} (sound : Sound state)
    (member : op ∈ state.pendingOps) (there : other ∈ state.pendingOps) (same : SamePair other op) :
    Settled times state (.timeout op.number) other ↔
      (other = op ∧ op.isRegistration = true ∧ op.expires = true) ∨
      verdict times state.tracker op = some .bad ∨ Unserved state.tracker other := by
  constructor
  · generalize named : op.number = number
    intro settled
    cases settled with
    | expired kind ends =>
      have equal := sound.eq_of_number there member named.symm
      rw [equal] at kind ends
      exact .inl ⟨equal, kind, ends⟩
    | declaredBad inside agent bad =>
      rw [sound.eq_of_number inside member named.symm] at bad
      exact .inr (.inl bad)
    | unserved left => exact .inr (.inr left)
  · intro either
    rcases either with ⟨rfl, kind, ends⟩ | bad | left
    · exact .expired kind ends
    · exact .declaredBad member same.2.symm bad
    · exact .unserved left

/-- The reason for which an operation is given up settles the operation. -/
theorem verdict_settles {tracker : DATracker} {reason : Reason}
    (given : verdict times tracker op = some reason) :
    (op.isRegistration = true ∧ op.expires = true) ∨ reason = .bad ∨ Unserved tracker op := by
  unfold verdict at given
  split at given
  · rename_i ends
    exact .inl ends
  · split at given
    · exact .inr (.inl (Option.some.inj given).symm)
    · split at given
      · rename_i missing
        refine .inr (.inr ?_)
        intro agent found
        rw [missing] at found
        cases found
      · rename_i agent present
        split at given
        · rename_i lost
          refine .inr (.inr ?_)
          intro other found
          rw [← Option.some.inj (present.symm.trans found)]
          exact lost.2
        · cases given

theorem retried_givenUp_iff {reason : Reason} (sound : Sound state) (awaited : Awaited state)
    (member : op ∈ state.pendingOps) (given : verdict times state.tracker op = some reason) :
    Retried times state (.timeout op.number) ↔
      (∀ other ∈ state.pendingOps, SamePair other op →
        other = op ∨ reason = .bad ∨ Unserved state.tracker other) ∧
      Apart state.pendingOps (ofPair op) := by
  have cancelled : Cancelled state (state.step times (.timeout op.number)) (ofPair op) := by
    have timed := @timeout_verdict times state op sound member (awaited op member)
    rw [given] at timed
    exact timed
  rw [Retried, cancelled.awaited_iff awaited]
  apply and_congr_left
  intro _
  constructor
  · intro leaving other there same
    have left := (cancelled.left_iff sound there).mpr (ofPair_eq_true.mpr same)
    have settled := (settled_timeout_iff sound member there same).mp (leaving other there left)
    rcases settled with ⟨equal, _, _⟩ | bad | unserved
    · exact .inl equal
    · exact .inr (.inl (Option.some.inj (given.symm.trans bad)))
    · exact .inr (.inr unserved)
  · intro allowed other there left
    have same := ofPair_eq_true.mp ((cancelled.left_iff sound there).mp left)
    rw [settled_timeout_iff sound member there same]
    rcases allowed other there same with equal | bad | unserved
    · rw [equal]
      rcases verdict_settles given with ends | bad | unserved
      · exact .inl ⟨rfl, ends⟩
      · exact .inr (.inl (bad ▸ given))
      · exact .inr (.inr unserved)
    · exact .inr (.inl (bad ▸ given))
    · exact .inr (.inr unserved)

theorem retried_timeout_iff (sound : Sound state) (awaited : Awaited state) (number : Nat) :
    Retried times state (.timeout number) ↔ Orderly times state (.timeout number) := by
  by_cases known : ∃ op ∈ state.pendingOps, op.number = number
  · obtain ⟨op, member, rfl⟩ := known
    have only : Orderly times state (.timeout op.number) ↔
        ∀ reason, verdict times state.tracker op = some reason →
          (∀ other ∈ state.pendingOps, SamePair other op →
            other = op ∨ reason = .bad ∨ Unserved state.tracker other) ∧
          Apart state.pendingOps (ofPair op) := by
      constructor
      · exact fun orderly => orderly op member rfl
      · intro orderly other there named
        rw [sound.eq_of_number there member named]
        exact orderly
    rw [only]
    cases given : verdict times state.tracker op with
    | none =>
      have kept : Kept state (state.step times (.timeout op.number)) := by
        have timed := @timeout_verdict times state op sound member (awaited op member)
        rw [given] at timed
        exact timed
      simp only [reduceCtorEq, false_imp_iff, implies_true, iff_true]
      exact kept.retried awaited
    | some reason =>
      rw [retried_givenUp_iff sound awaited member given]
      constructor
      · intro both other same
        rw [← Option.some.inj same]
        exact both
      · exact fun each => each reason rfl
  · have missing : ∀ op ∈ state.pendingOps, op.number ≠ number :=
      fun op member named => known ⟨op, member, named⟩
    have kept : Kept state (state.step times (.timeout number)) :=
      .of_eq (timeout_of_missing sound missing)
    constructor
    · exact fun _ op member named => absurd named (missing op member)
    · exact fun _ => kept.retried awaited

variable {service : ServiceEntry}

/-- A service that is registered or de-registered replaces its operations. -/
theorem retried_service_iff {middle : ServiceAgent} (sound : Sound state) (awaited : Awaited state)
    (cancelled : Cancelled state middle (fun op => decide (op.service.url.url = service.url.url)))
    (next : middle.nextXid = state.nextXid)
    (grown : Grown middle (state.step times event) (state.agentCount service))
    (settles : ∀ op, service.url.url = op.service.url.url → Settled times state event op) :
    Retried times state event ↔ state.CancelledApart service := by
  have xids : middle.nextXids = state.nextXids := by
    unfold nextXids
    rw [next]
  rw [Retried, grown.awaited_iff, xids]
  constructor
  · intro retried one here two there taken stays same
    have kept := cancelled.mem_iff.mpr ⟨there, decide_eq_false stays⟩
    rcases retried.2 two kept with known | again
    · rw [cancelled.acks, if_pos ⟨one, here, decide_eq_true taken, same⟩] at known
      cases known
    · exact again
  · intro apart
    constructor
    · intro op member left
      have old : op.number < middle.operationCount := by
        rw [cancelled.count]
        exact sound.below op member
      have taken := (cancelled.left_iff sound member).mp ((grown.left_iff old).mp left)
      exact settles op (of_decide_eq_true taken).symm
    · intro op member
      have parts := cancelled.mem_iff.mp member
      rw [cancelled.acks]
      split
      · rename_i shared
        obtain ⟨one, here, taken, same⟩ := shared
        exact .inr (apart one here op parts.1 (of_decide_eq_true taken)
          (of_decide_eq_false parts.2) same)
      · exact .inl (awaited op parts.1)

/-- The operations for a URL are cancelled, and the rest stays as it is. -/
theorem cancelled_forService (state : ServiceAgent) (url : List UInt8) (store : SLPStore) :
    Cancelled state { state.cancelPendingDAOperationsForService url with store := store }
      (fun op => decide (op.service.url.url = url)) := by
  have cancelled := cancelled_cancel_self state (fun op => decide (op.service.url.url = url))
  exact { cancelled with }

theorem cancel_field {β : Type} (field : ServiceAgent → β)
    (kept : ∀ state op, field (freePendingDAOperation state op) = field state)
    (other : ∀ state ops, field { state with pendingOps := ops } = field state)
    (chosen : SrvRegOperation → Bool) : field (state.cancel chosen) = field state := by
  rw [cancel, other]
  exact foldl_free_field field kept

/-- The store does not matter to the operations. -/
theorem Grown.withStore {middle after : ServiceAgent} {count : Nat}
    (grown : Grown middle after count) (store : SLPStore) :
    Grown middle { after with store := store } count := by
  refine { grown with sound := fun sound => ?_ }
  have same : Kept after { after with store := store } := ⟨rfl, rfl, rfl, rfl⟩
  exact same.sound (grown.sound sound)

theorem step_register {now : Int} (lives : service.url.lifetime ≠ 0)
    (accepted : state.store.checkIfScopesMatch now { service with isLocal := true } ≠
      .scopeMismatch) :
    ∃ middle, Cancelled state middle (fun op => decide (op.service.url.url = service.url.url)) ∧
      middle.nextXid = state.nextXid ∧
      Grown middle (state.step times (.register now service)) (state.agentCount service) := by
  have tracker := @cancel_field state _ ServiceAgent.tracker (fun _ _ => rfl) (fun _ _ => rfl)
    (fun op => decide (op.service.url.url = service.url.url))
  have xid := @cancel_field state _ ServiceAgent.nextXid (fun _ _ => rfl) (fun _ _ => rfl)
    (fun op => decide (op.service.url.url = service.url.url))
  refine ⟨_, cancelled_forService state service.url.url
    ((state.cancelPendingDAOperationsForService service.url.url).store.insert now
      { service with isLocal := true } true).1, xid, ?_⟩
  have shape : state.step times (.register now service) =
      (state.tracker.getDAsForScopes service.scopes).foldl
        (registerWithDA times { service with isLocal := true })
        { state.cancelPendingDAOperationsForService service.url.url with
          store := ((state.cancelPendingDAOperationsForService service.url.url).store.insert now
            { service with isLocal := true } true).1 } := by
    rw [step, registerService]
    rw [if_neg lives, internalRegisterService]
    split
    · rename_i refused
      exact absurd refused accepted
    · rw [← tracker]
      rfl
  rw [shape]
  exact grown_foldl (fun _ _ => grown_startOperation true _ _) _

theorem step_deRegister {now : Int} (accepted : state.store.checkIfScopesMatch now service = .ok) :
    ∃ middle, Cancelled state middle (fun op => decide (op.service.url.url = service.url.url)) ∧
      middle.nextXid = state.nextXid ∧
      Grown middle (state.step times (.deRegister now service)) (state.agentCount service) := by
  have tracker := @cancel_field state _ ServiceAgent.tracker (fun _ _ => rfl) (fun _ _ => rfl)
    (fun op => decide (op.service.url.url = service.url.url))
  have xid := @cancel_field state _ ServiceAgent.nextXid (fun _ _ => rfl) (fun _ _ => rfl)
    (fun op => decide (op.service.url.url = service.url.url))
  refine ⟨_, cancelled_cancel_self state _, xid, ?_⟩
  rw [step, deRegisterService, accepted]
  apply Grown.withStore
  have count : state.agentCount service = ((state.cancelPendingDAOperationsForService
      service.url.url).tracker.getDAsForScopes service.scopes).length := by
    rw [agentCount, ← tracker]
    rfl
  rw [count]
  exact grown_foldl (fun _ _ => grown_startOperation false _ _) _

theorem step_register_refused {now : Int}
    (refused : ¬ (service.url.lifetime ≠ 0 ∧
      state.store.checkIfScopesMatch now { service with isLocal := true } ≠ .scopeMismatch)) :
    state.step times (.register now service) = state := by
  rw [step, registerService]
  split
  · rfl
  · rename_i lives
    rw [internalRegisterService]
    split
    · rfl
    · rename_i accepted
      exact absurd ⟨lives, accepted⟩ refused

theorem step_deRegister_refused {now : Int}
    (refused : state.store.checkIfScopesMatch now service ≠ .ok) :
    state.step times (.deRegister now service) = state := by
  rw [step, deRegisterService]
  split
  · rfl
  · rfl
  · rename_i accepted
    exact absurd accepted refused

theorem retried_register_iff (sound : Sound state) (awaited : Awaited state) (now : Int)
    (service : ServiceEntry) :
    Retried times state (.register now service) ↔ Orderly times state (.register now service) := by
  by_cases started : service.url.lifetime ≠ 0 ∧
      state.store.checkIfScopesMatch now { service with isLocal := true } ≠ .scopeMismatch
  · obtain ⟨middle, cancelled, next, grown⟩ := @step_register times state service now started.1
      started.2
    rw [retried_service_iff sound awaited cancelled next grown (fun _ => .registered)]
    exact ⟨fun apart _ _ => apart, fun orderly => orderly started.1 started.2⟩
  · have kept := Kept.of_eq (@step_register_refused times state service now started)
    exact ⟨fun _ lives accepted => absurd ⟨lives, accepted⟩ started,
      fun _ => kept.retried awaited⟩

theorem retried_deRegister_iff (sound : Sound state) (awaited : Awaited state) (now : Int)
    (service : ServiceEntry) :
    Retried times state (.deRegister now service) ↔
      Orderly times state (.deRegister now service) := by
  by_cases started : state.store.checkIfScopesMatch now service = .ok
  · obtain ⟨middle, cancelled, next, grown⟩ := @step_deRegister times state service now started
    rw [retried_service_iff sound awaited cancelled next grown (fun _ => .deRegistered)]
    exact ⟨fun apart _ => apart, fun orderly => orderly started⟩
  · have kept := Kept.of_eq (@step_deRegister_refused times state service now started)
    exact ⟨fun _ accepted => absurd accepted started, fun _ => kept.retried awaited⟩

/-- What is registered with a new agent comes on top. -/
theorem grown_newDATimeout (now : Int) (daUrl : List UInt8) :
    ∃ count, Grown state (state.step times (.newDATimeout now daUrl)) count := by
  have shorter : Grown state { state with newDATimers := state.newDATimers.erase daUrl } 0 := by
    have same : Kept state { state with newDATimers := state.newDATimers.erase daUrl } :=
      ⟨rfl, rfl, rfl, rfl⟩
    exact ⟨(Grown.refl state).pendingOps, (Grown.refl state).acks, (Grown.refl state).nextXid,
      Nat.le_refl _, same.sound⟩
  rw [step, newDATimeout]
  split
  · rw [registerServicesWithNewDA]
    split
    · exact ⟨0, shorter⟩
    · exact ⟨_, shorter.trans
        (grown_foldl (fun _ service => grown_startOperation true service _) _)⟩
  · exact ⟨0, .refl state⟩

/-- The operations are retried in a step exactly if it is orderly. -/
theorem retried_iff (sound : Sound state) (awaited : Awaited state) (event : Event) :
    Retried times state event ↔ Orderly times state event := by
  cases event with
  | register now service => exact retried_register_iff sound awaited now service
  | deRegister now service => exact retried_deRegister_iff sound awaited now service
  | ack xid errorCode => exact retried_ack_iff sound awaited xid errorCode
  | timeout number => exact retried_timeout_iff sound awaited number
  | newDATimeout now daUrl =>
    obtain ⟨count, grown⟩ := @grown_newDATimeout times state now daUrl
    exact iff_of_true (grown.retried sound awaited) trivial
  | daAdvert advert | markAsBad daUrl | takeXid | callStore op =>
    exact iff_of_true (Kept.retried ⟨rfl, rfl, rfl, rfl⟩ awaited) trivial

theorem sound_step (sound : Sound state) (awaited : Awaited state)
    (orderly : Orderly times state event) : Sound (state.step times event) := by
  cases event with
  | register now service =>
    by_cases started : service.url.lifetime ≠ 0 ∧
        state.store.checkIfScopesMatch now { service with isLocal := true } ≠ .scopeMismatch
    · obtain ⟨middle, cancelled, _, grown⟩ := @step_register times state service now started.1
        started.2
      exact grown.sound (cancelled.sound sound)
    · rw [step_register_refused started]
      exact sound
  | deRegister now service =>
    by_cases started : state.store.checkIfScopesMatch now service = .ok
    · obtain ⟨middle, cancelled, _, grown⟩ := @step_deRegister times state service now started
      exact grown.sound (cancelled.sound sound)
    · rw [step_deRegister_refused started]
      exact sound
  | ack xid errorCode =>
    cases found : state.pendingAcks.lookup xid with
    | none =>
      rw [step_ack_unknown found]
      exact sound
    | some number =>
      obtain ⟨op, member, rfl, rfl⟩ := sound.acks xid number found
      exact (cancelled_ack sound member found (orderly op member rfl).1).sound sound
  | timeout number =>
    by_cases known : ∃ op ∈ state.pendingOps, op.number = number
    · obtain ⟨op, member, rfl⟩ := known
      have timed := @timeout_verdict times state op sound member (awaited op member)
      rw [step]
      cases given : verdict times state.tracker op with
      | none | some reason =>
        rw [given] at timed
        exact timed.sound sound
    · rw [step, timeout_of_missing sound (fun op member named => known ⟨op, member, named⟩)]
      exact sound
  | newDATimeout now daUrl =>
    obtain ⟨count, grown⟩ := @grown_newDATimeout times state now daUrl
    exact grown.sound sound
  | daAdvert advert | markAsBad daUrl | takeXid | callStore op =>
    exact @Kept.sound state _ ⟨rfl, rfl, rfl, rfl⟩ sound

end Steps

/-- In a run the operations leave only when they are settled, and are waited for until then,
exactly if each step is orderly. -/
theorem registrations_retried_iff (times : RetryTimes) (tracker : DATracker) (store : SLPStore)
    (nextXid : UInt16) (events : List Event) :
    (∀ past event future, events = past ++ event :: future →
      Retried times (run (step times) (initial tracker store nextXid) past) event) ↔
      Permitted (step times) (Orderly times) (initial tracker store nextXid) events := by
  apply @steps_iff_permitted _ _ (step times) (Orderly times) (Retried times)
    (fun state => Sound state ∧ Awaited state)
  · intro state event both orderly
    exact ⟨sound_step both.1 both.2 orderly,
      ((retried_iff both.1 both.2 event).mpr orderly).2⟩
  · exact fun state event both => retried_iff both.1 both.2 event
  · exact ⟨sound_initial tracker store nextXid, fun op member => by cases member⟩

/-- An agent for the scope `x`, with the time that it came up. -/
def agentAdvert : DAAdvert :=
  ⟨0, 1, daServicePrefix ++ [49, 46, 49, 46, 49, 46, 49], [120]⟩

def someService : ServiceEntry := ⟨⟨[97, 58, 47, 47, 98], 300⟩, [97], .parse [120], false⟩

/-- The agent is busy. After that the acknowledgement is not waited for, and the next timeout
drops the registration, which has not been sent again. -/
theorem busy_agent_drops_registration :
    ¬ Retried ⟨2000, 15000⟩ (run (step ⟨2000, 15000⟩) (initial .initial .empty 0)
        [.daAdvert agentAdvert, .register 0 someService]) (.ack 0 daBusyNow) ∧
      ((run (step ⟨2000, 15000⟩) (initial .initial .empty 0)
        [.daAdvert agentAdvert, .register 0 someService, .ack 0 daBusyNow]).pendingOps.length = 1 ∧
      (run (step ⟨2000, 15000⟩) (initial .initial .empty 0) [.daAdvert agentAdvert,
        .register 0 someService, .ack 0 daBusyNow, .timeout 0]).pendingOps.length = 0 ∧
      (run (step ⟨2000, 15000⟩) (initial .initial .empty 0) [.daAdvert agentAdvert,
        .register 0 someService, .ack 0 daBusyNow, .timeout 0]).sent.length = 1) := by
  constructor
  · intro retried
    have waiting := retried.2
    unfold Awaited at waiting
    revert waiting
    decide +kernel
  · decide +kernel

end OpenLighting.Slp.ServiceAgent
