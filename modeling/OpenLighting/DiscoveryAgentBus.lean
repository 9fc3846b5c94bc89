import OpenLighting.DiscoveryAgentTermination
import OpenLighting.DubResponse

namespace OpenLighting.DiscoveryAgent

open Session

def between (lower upper : UID) (uids : UIDSet) : UIDSet :=
  uids.filter fun uid => lower ≤ uid ∧ uid ≤ upper

variable {uid : UID} {responders previous : UIDSet} {session : Session}

theorem mem_between {lower upper : UID} {uids : UIDSet} :
    uid ∈ between lower upper uids ↔ uid ∈ uids ∧ lower ≤ uid ∧ uid ≤ upper :=
  Finset.mem_filter

theorem between_subset (lower upper : UID) (uids : UIDSet) : between lower upper uids ⊆ uids :=
  Finset.filter_subset _ _

theorem between_all (uids : UIDSet) : between ⟨0, 0⟩ UID.allDevices uids = uids := by
  ext uid
  simp [mem_between, UID.zero_le, UID.le_allDevices]

/-- The responders still listening after a history, newest exchange first. -/
def unmuted (responders : UIDSet) : List Exchange → UIDSet
  | [] => responders
  | (.unMuteAll, _) :: _ => responders
  | (.muteDevice uid _, _) :: history => (unmuted responders history).erase uid
  | (.branch _ _, _) :: history => unmuted responders history

def WellFormed (data : List UInt8) (uid : UID) : Prop :=
  ∃ preamble ≤ 7, data = dubResponse preamble uid

/-- A fault-free bus: every responder mutes when told to, and a branch is
answered by the responders in it that are not muted. -/
structure Ideal (responders : UIDSet) (target : Target) : Prop where
  mute : ∀ history uid callback,
    (target history (.muteDevice uid callback)).status = decide (uid ∈ responders)
  silent : ∀ history lower upper, between lower upper (unmuted responders history) = ∅ →
    (target history (.branch lower upper)).data = []
  single : ∀ history lower upper uid,
    between lower upper (unmuted responders history) = {uid} →
    WellFormed (target history (.branch lower upper)).data uid
  collision : ∀ history lower upper,
    2 ≤ (between lower upper (unmuted responders history)).card →
    ((target history (.branch lower upper)).data ≠ [] ∧
      locatedUid (target history (.branch lower upper)).data = none) ∨
    ∃ uid ∈ between lower upper (unmuted responders history),
      WellFormed (target history (.branch lower upper)).data uid

theorem WellFormed.located {data : List UInt8} (wellFormed : WellFormed data uid) :
    locatedUid data = some uid := by
  obtain ⟨preamble, bound, rfl⟩ := wellFormed
  exact locatedUid_dubResponse bound uid

theorem WellFormed.answered {data : List UInt8} (wellFormed : WellFormed data uid) :
    data ≠ [] := by
  rintro rfl
  have located := wellFormed.located
  cases located

section
variable {responders : UIDSet} {target : Target} (ideal : Ideal responders target)
  {history : List Exchange} {lower upper : UID}
include ideal

/-- Each way a branch can be answered, told by what the agent makes of the bytes. -/
theorem Ideal.branch :
    ((target history (.branch lower upper)).data = [] ∧
      between lower upper (unmuted responders history) = ∅) ∨
    ((target history (.branch lower upper)).data ≠ [] ∧
      locatedUid (target history (.branch lower upper)).data = none ∧
      2 ≤ (between lower upper (unmuted responders history)).card) ∨
    ∃ uid ∈ between lower upper (unmuted responders history),
      (target history (.branch lower upper)).data ≠ [] ∧
      locatedUid (target history (.branch lower upper)).data = some uid := by
  rcases Nat.lt_or_ge (between lower upper (unmuted responders history)).card 2 with few | many
  · rcases Nat.eq_zero_or_pos (between lower upper (unmuted responders history)).card with
      none | some
    · have empty := Finset.card_eq_zero.mp none
      exact Or.inl ⟨ideal.silent history lower upper empty, empty⟩
    · have one : (between lower upper (unmuted responders history)).card = 1 := by omega
      obtain ⟨uid, only⟩ := Finset.card_eq_one.mp one
      have wellFormed := ideal.single history lower upper uid only
      exact Or.inr (Or.inr ⟨uid, by simp [only], wellFormed.answered, wellFormed.located⟩)
  · rcases ideal.collision history lower upper many with ⟨answered, rejected⟩ |
      ⟨uid, inside, wellFormed⟩
    · exact Or.inr (Or.inl ⟨answered, rejected, many⟩)
    · exact Or.inr (Or.inr ⟨uid, inside, wellFormed.answered, wellFormed.located⟩)

theorem Ideal.of_silent (silent : (target history (.branch lower upper)).data = []) :
    between lower upper (unmuted responders history) = ∅ := by
  rcases ideal.branch with ⟨_, empty⟩ | ⟨answered, _⟩ | ⟨_, _, answered, _⟩
  · exact empty
  · exact absurd silent answered
  · exact absurd silent answered

theorem Ideal.of_collision (answered : (target history (.branch lower upper)).data ≠ [])
    (rejected : locatedUid (target history (.branch lower upper)).data = none) :
    2 ≤ (between lower upper (unmuted responders history)).card := by
  rcases ideal.branch with ⟨silent, _⟩ | ⟨_, _, many⟩ | ⟨_, _, _, located⟩
  · exact absurd silent answered
  · exact many
  · rw [rejected] at located
    cases located

theorem Ideal.of_located {uid : UID}
    (located : locatedUid (target history (.branch lower upper)).data = some uid) :
    uid ∈ between lower upper (unmuted responders history) := by
  rcases ideal.branch with ⟨silent, _⟩ | ⟨_, rejected, _⟩ | ⟨found, inside, _, same⟩
  · rw [silent] at located
    cases located
  · rw [rejected] at located
    cases located
  · rw [located] at same
    cases same
    exact inside

end

/-- The UIDs a run starts its search with: those remembered that are still there. -/
def known (agent : Agent) (incremental : Bool) (responders : UIDSet) : UIDSet :=
  if incremental then agent.uids ∩ responders else ∅

/-- The responders that are left for the search to find. -/
def sought (agent : Agent) (incremental : Bool) (responders : UIDSet) : UIDSet :=
  responders \ known agent incremental responders

/-- A run that is about to enter `SendDiscovery` for the first time. -/
structure Session.Prepared (responders base : UIDSet) (session : Session) : Prop where
  next : session.next = .sendDiscovery
  stack : session.agent.uidRanges = [UIDRange.new ⟨0, 0⟩ UID.allDevices none]
  uids : session.agent.uids = base
  badUids : session.agent.badUids = ∅
  intact : session.agent.treeCorrupt = false
  listening : unmuted responders session.history = responders \ base

/-- A run that still mutes remembered UIDs, the one in flight first. -/
structure Session.Muting (responders previous : UIDSet) (awaiting : List UID)
    (session : Session) : Prop where
  stack : session.agent.uidRanges = [UIDRange.new ⟨0, 0⟩ UID.allDevices none]
  badUids : session.agent.badUids = ∅
  intact : session.agent.treeCorrupt = false
  nodup : awaiting.Nodup
  remembered : ∀ uid ∈ awaiting, uid ∈ previous
  uids : session.agent.uids = previous.filter fun uid => uid ∈ responders ∨ uid ∈ awaiting
  listening : unmuted responders session.history =
    responders.filter fun uid => uid ∈ previous → uid ∈ awaiting

theorem Session.Muting.prepared (muting : session.Muting responders previous [])
    (next : session.next = .sendDiscovery) :
    session.Prepared responders (previous ∩ responders) := by
  refine ⟨next, muting.stack, ?_, muting.badUids, muting.intact, ?_⟩
  · rw [muting.uids]
    ext uid
    simp
  · rw [muting.listening]
    ext uid
    simp

/-- The mute in flight is answered: its UID is settled. -/
theorem Session.Muting.settle {queue : List UID} {after : Session}
    (muting : session.Muting responders previous (uid :: queue)) {callback : MuteCallback}
    {reply : Reply} (history : after.history = (.muteDevice uid callback, reply) :: session.history)
    (stack : after.agent.uidRanges = session.agent.uidRanges)
    (badUids : after.agent.badUids = session.agent.badUids)
    (intact : after.agent.treeCorrupt = session.agent.treeCorrupt)
    (uids : after.agent.uids =
      if uid ∈ responders then session.agent.uids else session.agent.uids.erase uid) :
    after.Muting responders previous queue := by
  obtain ⟨fresh, nodup⟩ := List.nodup_cons.mp muting.nodup
  refine ⟨stack.trans muting.stack, badUids.trans muting.badUids, intact.trans muting.intact,
    nodup, ?_, ?_, ?_⟩
  · intro other waiting
    exact muting.remembered other (List.mem_cons_of_mem uid waiting)
  · have remembered := muting.remembered uid List.mem_cons_self
    rw [uids, muting.uids]
    split <;> ext other <;> by_cases same : other = uid <;> simp_all
  · rw [history, unmuted, muting.listening]
    have remembered := muting.remembered uid List.mem_cons_self
    ext other
    by_cases same : other = uid <;> simp_all

theorem Session.Muting.step {responders previous : UIDSet} {target : Target}
    (ideal : Ideal responders target) {uid : UID} {queue : List UID} {session : Session}
    (muting : session.Muting responders previous (uid :: queue))
    (next : session.next = .request (.muteDevice uid .incrementalMute))
    (current : session.agent.mutingUid = uid) (waiting : session.agent.uidsToMute = queue) :
    (session.step target).Muting responders previous queue ∧
    (queue = [] → (session.step target).next = .sendDiscovery) ∧
    ∀ following rest, queue = following :: rest →
      (session.step target).next = .request (.muteDevice following .incrementalMute) ∧
      (session.step target).agent.mutingUid = following ∧
      (session.step target).agent.uidsToMute = rest := by
  obtain ⟨history, result⟩ := step_request target next
  simp only [deliver] at result
  rw [ideal.mute, incrementalMuteComplete, current] at result
  cases queue with
  | nil =>
    by_cases present : uid ∈ responders <;>
      simp only [present, decide_true, decide_false, ↓reduceIte, Bool.false_eq_true,
        maybeMuteNextDevice, waiting, Prod.mk.injEq] at result <;>
      obtain ⟨agent, following⟩ := result
    · refine ⟨muting.settle history ?_ ?_ ?_ ?_, fun _ => following, by simp⟩ <;>
        simp [agent, present]
    · refine ⟨muting.settle history ?_ ?_ ?_ ?_, fun _ => following, by simp⟩ <;>
        simp [agent, present]
  | cons following rest =>
    by_cases present : uid ∈ responders <;>
      simp only [present, decide_true, decide_false, ↓reduceIte, Bool.false_eq_true,
        maybeMuteNextDevice, waiting, Prod.mk.injEq] at result <;>
      obtain ⟨agent, after⟩ := result
    · refine ⟨muting.settle history ?_ ?_ ?_ ?_, by simp, ?_⟩
      all_goals simp [agent, after, present]
    · refine ⟨muting.settle history ?_ ?_ ?_ ?_, by simp, ?_⟩
      all_goals simp [agent, after, present]

theorem Session.Muting.reaches_prepared {target : Target} (ideal : Ideal responders target)
    {queue : List UID} (muting : session.Muting responders previous (uid :: queue))
    (next : session.next = .request (.muteDevice uid .incrementalMute))
    (current : session.agent.mutingUid = uid) (waiting : session.agent.uidsToMute = queue) :
    ∃ count, ((Session.step target)^[count] session).Prepared responders
      (previous ∩ responders) := by
  induction queue generalizing session uid with
  | nil =>
    obtain ⟨settled, drained, _⟩ := muting.step ideal next current waiting
    exact ⟨1, settled.prepared (drained rfl)⟩
  | cons following rest ih =>
    obtain ⟨settled, _, more⟩ := muting.step ideal next current waiting
    obtain ⟨next, current, waiting⟩ := more following rest rfl
    obtain ⟨count, prepared⟩ := ih settled next current waiting
    exact ⟨count + 1, prepared⟩

/-- The unmute and the incremental mutes end with exactly the remembered UIDs that are
still on the bus, and with every other responder listening. -/
theorem Session.reaches_prepared {target : Target} (ideal : Ideal responders target) {agent : Agent}
    (idle : agent.Idle) (incremental : Bool) (callback : Nat) :
    ∃ count, ((Session.step target)^[count]
      (Session.start agent incremental callback)).Prepared responders
        (known agent incremental responders) := by
  cases incremental with
  | false =>
    refine ⟨1, ?_⟩
    constructor <;>
      simp [start, after, initDiscovery_idle idle, step, deliver,
        unMuteComplete, maybeMuteNextDevice, known, unmuted]
  | true =>
    cases queue : UIDSet.ascending agent.uids with
    | nil =>
      have empty : agent.uids = ∅ := by
        ext uid
        rw [← UIDSet.mem_ascending, queue]
        simp
      rw [empty] at queue
      refine ⟨1, ?_⟩
      constructor <;>
        simp [start, after, initDiscovery_idle idle, step, deliver,
          unMuteComplete, maybeMuteNextDevice, known, unmuted, queue, empty]
    | cons uid rest =>
      have member : ∀ other, other ∈ uid :: rest ↔ other ∈ agent.uids := by
        intro other
        rw [← queue, UIDSet.mem_ascending]
      have muting : (step target (start agent true callback)).Muting
          responders agent.uids (uid :: rest) := by
        constructor
        case nodup => exact queue ▸ UIDSet.ascending_nodup agent.uids
        case remembered => exact fun other waiting => (member other).mp waiting
        all_goals
          simp only [start, after, initDiscovery_idle idle, step,
            deliver, unMuteComplete, maybeMuteNextDevice, unmuted, queue, member, ↓reduceIte]
        · ext other
          simpa using Or.inr
        · ext other
          simp
      obtain ⟨count, prepared⟩ := muting.reaches_prepared ideal
        (by simp [start, after, initDiscovery_idle idle, step,
          deliver, unMuteComplete, maybeMuteNextDevice, queue])
        (by simp [start, after, initDiscovery_idle idle, step,
          deliver, unMuteComplete, maybeMuteNextDevice, queue])
        (by simp [start, after, initDiscovery_idle idle, step,
          deliver, unMuteComplete, maybeMuteNextDevice, queue])
      exact ⟨count + 1, by simpa [known] using prepared⟩

end OpenLighting.DiscoveryAgent
