import Mathlib.Data.Finset.Basic
import OpenLighting.Clock
import OpenLighting.TransitionSystem

namespace OpenLighting

open List

/-- `operator<=` of the time stamps. -/
def TimeVal.notAfter (time other : TimeVal) : Bool := !other.before time

theorem TimeVal.before_trans {one two three : TimeVal} (first : one.before two = true)
    (second : two.before three = true) : one.before three = true := by
  unfold before at *
  split at first <;> split at second <;> split <;> simp only [decide_eq_true_eq] at * <;> omega

namespace SelectServer

open TransitionSystem

/-- An `Event` with its address, which is also its timeout id. `serial` tells the events
apart: addresses are used again. -/
structure Event where
  address : Nat
  serial : Nat
  repeating : Bool
  interval : TimeVal
  next : TimeVal
  deriving DecidableEq

/-- What the log of a run tells. -/
inductive Entry where
  | registered (serial address : Nat)
  | removed (address : Nat)
  | ran (serial : Nat)
  | discarded (serial : Nat)
  deriving DecidableEq

/-- `m_events` and `m_removed_timeouts`. `running` has the events that are off the queue while
their callbacks run, the innermost first, with the time at which they were found expired. -/
structure Timers where
  events : List Event
  removed : Finset Nat
  running : List (Event × TimeVal)
  count : Nat
  log : List Entry

def invalidTimeout : Nat := 0

namespace Timers

def initial : Timers := ⟨[], ∅, [], 0, []⟩

/-- The events that are not deleted. -/
def live (state : Timers) : List Event := state.events ++ state.running.map Prod.fst

/-- `RegisterSingleTimeout` and `RegisterRepeatingTimeout`. The new event is at any address
that is free. -/
def registerTimeout (state : Timers) (repeating : Bool) (interval now : TimeVal) (closure : Bool)
    (address : Nat) : Timers :=
  if closure = false ∨ address = invalidTimeout ∨ address ∈ state.live.map Event.address then state
  else
    { state with
      events := ⟨address, state.count, repeating, interval, now.add interval⟩ :: state.events
      count := state.count + 1
      log := state.log ++ [.registered state.count address] }

def removeTimeout (state : Timers) (id : Nat) : Timers :=
  if id = invalidTimeout then state
  else { state with removed := insert id state.removed, log := state.log ++ [.removed id] }

/-- `m_events.top()` can be any of the earliest events. -/
def top (state : Timers) (address : Nat) : Option Event :=
  state.events.find? (fun event =>
    event.address = address ∧ state.events.all (fun other => event.next.notAfter other.next))

/-- A round of the loop of `CheckTimeouts`, up to the callback. -/
def expire (state : Timers) (address : Nat) (now : TimeVal) : Timers :=
  match state.top address with
  | none => state
  | some event =>
    if event.next.notAfter now then
      let state := { state with events := state.events.erase event }
      if event.address ∈ state.removed then
        { state with
          removed := state.removed.erase event.address
          log := state.log ++ [.discarded event.serial] }
      else
        { state with
          running := (event, now) :: state.running
          log := state.log ++ [.ran event.serial] }
    else state

/-- The rest of the round. The callback of a repeating event says whether it runs again. -/
def triggered (state : Timers) (again : Bool) : Timers :=
  match state.running with
  | [] => state
  | (event, now) :: rest =>
    if event.repeating && again then
      { state with
        events := { event with next := now.add event.interval } :: state.events
        running := rest }
    else { state with running := rest }

end Timers

inductive Action where
  | registerTimeout (repeating : Bool) (interval now : TimeVal) (closure : Bool) (address : Nat)
  | removeTimeout (id : Nat)
  | expire (address : Nat) (now : TimeVal)
  | triggered (again : Bool)

/-- A round of the loop, with a callback that leaves the timeouts alone. -/
def Action.isRound : Action → Bool
  | .expire _ _ => true
  | .triggered _ => true
  | _ => false

def Timers.step (state : Timers) : Action → Timers
  | .registerTimeout repeating interval now closure address =>
    state.registerTimeout repeating interval now closure address
  | .removeTimeout id => state.removeTimeout id
  | .expire address now => state.expire address now
  | .triggered again => state.triggered again

/-- `RemoveTimeout` was called with the id of the event after the event was registered. -/
def RemovedSince (log : List Entry) (serial : Nat) : Prop :=
  ∃ address before after, log = before ++ .registered serial address :: after ∧
    .removed address ∈ after

/-- An event is dropped only after it was removed, and runs only before. -/
def Backs (past : List Entry) : Entry → Prop
  | .discarded serial => RemovedSince past serial
  | .ran serial => ¬ RemovedSince past serial
  | _ => True

namespace Timers

/-- A new event is not at an address that waits in `m_removed_timeouts`. -/
def Unmarked (state : Timers) : Action → Prop
  | .registerTimeout _ _ _ closure address =>
    closure = true → address ≠ invalidTimeout → address ∉ state.live.map Event.address →
      address ∉ state.removed
  | _ => True

/-- The removed addresses of the events are those that were removed while the event was
there. -/
structure Faithful (state : Timers) : Prop where
  distinct : (state.live.map Event.address).Nodup
  numbered : ∀ serial address, .registered serial address ∈ state.log → serial < state.count
  placed : ∀ event ∈ state.live, ∀ address,
    .registered event.serial address ∈ state.log ↔ address = event.address
  marked : ∀ event ∈ state.live, event.address ∈ state.removed ↔
    RemovedSince state.log event.serial
  backed : Justified Backs state.log

end Timers

variable {log : List Entry} {entry : Entry}

theorem removedSince_append {serial : Nat} :
    RemovedSince (log ++ [entry]) serial ↔ RemovedSince log serial ∨
      ∃ address, .registered serial address ∈ log ∧ entry = .removed address := by
  constructor
  · intro removed
    obtain ⟨address, before, after, split, member⟩ := removed
    rcases after.eq_nil_or_concat' with rfl | ⟨init, last, rfl⟩
    · cases member
    · have longer : log ++ [entry] = (before ++ .registered serial address :: init) ++ [last] := by
        rw [split, append_assoc, cons_append]
      obtain ⟨same, final⟩ := append_inj' longer rfl
      rcases mem_append.mp member with inside | outside
      · exact Or.inl ⟨address, before, init, same, inside⟩
      · right
        refine ⟨address, ?_, ?_⟩
        · rw [same]
          exact mem_append_right _ mem_cons_self
        · rw [head_eq_of_cons_eq final]
          exact (mem_singleton.mp outside).symm
  · rintro (removed | ⟨address, member, rfl⟩)
    · obtain ⟨address, before, after, split, member⟩ := removed
      refine ⟨address, before, after ++ [entry], ?_, mem_append_left _ member⟩
      rw [split, append_assoc, cons_append]
    · obtain ⟨before, after, split⟩ := append_of_mem member
      refine ⟨address, before, after ++ [.removed address], ?_, ?_⟩
      · rw [split, append_assoc, cons_append]
      · exact mem_append_right _ (mem_singleton_self _)

/-- The entries that a round of the loop leaves in the log. -/
def Entry.isOutcome : Entry → Bool
  | .ran _ => true
  | .discarded _ => true
  | _ => false

theorem removedSince_outcome (outcome : entry.isOutcome = true) (serial : Nat) :
    RemovedSince (log ++ [entry]) serial ↔ RemovedSince log serial := by
  rw [removedSince_append]
  constructor
  · rintro (removed | ⟨address, _, rfl⟩)
    · exact removed
    · cases outcome
  · exact Or.inl

theorem registered_mem_append (serial address : Nat) (other : entry ≠ .registered serial address) :
    .registered serial address ∈ log ++ [entry] ↔ .registered serial address ∈ log := by
  rw [mem_append, mem_singleton]
  constructor
  · exact fun member => member.resolve_right other.symm
  · exact Or.inl

namespace Timers

section Invariant

variable {state : Timers}

variable {address : Nat} {event : Event}

theorem top_some (found : state.top address = some event) :
    event ∈ state.events ∧ event.address = address ∧
      ∀ other ∈ state.events, event.next.notAfter other.next = true := by
  have holds := List.find?_some found
  rw [decide_eq_true_eq, all_eq_true] at holds
  exact ⟨mem_of_find?_eq_some found, holds.1, holds.2⟩

theorem expire_due {now : TimeVal} (found : state.top address = some event)
    (due : event.next.notAfter now = true) :
    state.expire address now =
      if event.address ∈ state.removed then
        { state with
          events := state.events.erase event
          removed := state.removed.erase event.address
          log := state.log ++ [.discarded event.serial] }
      else
        { state with
          events := state.events.erase event
          running := (event, now) :: state.running
          log := state.log ++ [.ran event.serial] } := by
  unfold expire
  rw [found]
  dsimp only
  rw [if_pos due]

/-- The outcome of a round is entered in the log. -/
theorem Faithful.record (faithful : Faithful state) {entry : Entry}
    (outcome : entry.isOutcome = true) (backed : Backs state.log entry) :
    Faithful { state with log := state.log ++ [entry] } := by
  have other : ∀ serial address, entry ≠ .registered serial address := by
    intro serial address same
    rw [same] at outcome
    cases outcome
  refine ⟨faithful.distinct, ?_, ?_, ?_, faithful.backed.append backed⟩
  · intro serial address member
    rw [registered_mem_append serial address (other serial address)] at member
    exact faithful.numbered serial address member
  · intro event member address
    rw [registered_mem_append _ _ (other _ _)]
    exact faithful.placed event member address
  · intro event member
    rw [removedSince_outcome outcome]
    exact faithful.marked event member

/-- Events are moved or deleted. -/
theorem Faithful.carry (faithful : Faithful state) {events : List Event} {removed : Finset Nat}
    {running : List (Event × TimeVal)}
    (distinct : ((events ++ running.map Prod.fst).map Event.address).Nodup)
    (kept : ∀ event ∈ events ++ running.map Prod.fst, ∃ old ∈ state.live,
      old.address = event.address ∧ old.serial = event.serial ∧
        (old.address ∈ removed ↔ old.address ∈ state.removed)) :
    Faithful { state with events := events, removed := removed, running := running } := by
  refine ⟨distinct, faithful.numbered, ?_, ?_, faithful.backed⟩
  · intro event member address
    obtain ⟨old, before, sameAddress, sameSerial, _⟩ := kept event member
    rw [← sameAddress, ← sameSerial]
    exact faithful.placed old before address
  · intro event member
    obtain ⟨old, before, sameAddress, sameSerial, same⟩ := kept event member
    rw [← sameAddress, ← sameSerial]
    exact same.trans (faithful.marked old before)

theorem live_perm (member : event ∈ state.events) :
    state.live.Perm (event :: (state.events.erase event ++ state.running.map Prod.fst)) :=
  (perm_cons_erase member).append_right _

section

variable (faithful : Faithful state)
include faithful

theorem Faithful.expire (address : Nat) (now : TimeVal) : Faithful (state.expire address now) := by
  unfold Timers.expire
  split
  · exact faithful
  · rename_i event found
    obtain ⟨member, -, -⟩ := top_some found
    have perm := live_perm member
    have inside : event ∈ state.live := mem_append_left _ member
    have distinct := (perm.map Event.address).nodup_iff.mp faithful.distinct
    rw [map_cons, nodup_cons] at distinct
    split
    · dsimp only
      split
      · rename_i marked
        have recorded := @Faithful.record state faithful (.discarded event.serial) rfl
          ((faithful.marked event inside).mp marked)
        apply recorded.carry distinct.2
        intro other kept
        refine ⟨other, perm.mem_iff.mpr (mem_cons_of_mem _ kept), rfl, rfl, ?_⟩
        rw [Finset.mem_erase]
        constructor
        · exact And.right
        · intro before
          refine ⟨?_, before⟩
          intro same
          apply distinct.1
          rw [← same]
          exact mem_map_of_mem kept
      · rename_i unmarked
        have recorded := @Faithful.record state faithful (.ran event.serial) rfl
          (fun removed => unmarked ((faithful.marked event inside).mpr removed))
        have moved : (event :: (state.events.erase event ++ state.running.map Prod.fst)).Perm
            (state.events.erase event ++ ((event, now) :: state.running).map Prod.fst) :=
          perm_middle.symm
        apply recorded.carry
        · exact ((perm.trans moved).map Event.address).nodup_iff.mp faithful.distinct
        · intro other kept
          exact ⟨other, (perm.trans moved).mem_iff.mpr kept, rfl, rfl, Iff.rfl⟩
    · exact faithful

theorem Faithful.triggered (again : Bool) : Faithful (state.triggered again) := by
  unfold Timers.triggered
  split
  · exact faithful
  · rename_i event now rest head
    have live : state.live = state.events ++ event :: rest.map Prod.fst := by
      unfold Timers.live
      rw [head]
      rfl
    have perm : state.live.Perm (event :: (state.events ++ rest.map Prod.fst)) := by
      rw [live]
      exact perm_middle
    have distinct := (perm.map Event.address).nodup_iff.mp faithful.distinct
    split
    · apply faithful.carry distinct
      intro other kept
      rcases mem_cons.mp kept with rfl | kept
      · exact ⟨event, perm.mem_iff.mpr mem_cons_self, rfl, rfl, Iff.rfl⟩
      · exact ⟨other, perm.mem_iff.mpr (mem_cons_of_mem _ kept), rfl, rfl, Iff.rfl⟩
    · rw [map_cons, nodup_cons] at distinct
      apply faithful.carry distinct.2
      intro other kept
      exact ⟨other, perm.mem_iff.mpr (mem_cons_of_mem _ kept), rfl, rfl, Iff.rfl⟩

theorem Faithful.removeTimeout (id : Nat) : Faithful (state.removeTimeout id) := by
  unfold Timers.removeTimeout
  split
  · exact faithful
  · have other : ∀ serial address, (Entry.removed id) ≠ .registered serial address := by
      intro serial address same
      cases same
    refine ⟨faithful.distinct, ?_, ?_, ?_, faithful.backed.append trivial⟩
    · intro serial address member
      rw [registered_mem_append _ _ (other _ _)] at member
      exact faithful.numbered serial address member
    · intro event member address
      rw [registered_mem_append _ _ (other _ _)]
      exact faithful.placed event member address
    · intro event member
      rw [Finset.mem_insert, removedSince_append, faithful.marked event member]
      constructor
      · rintro (same | before)
        · exact Or.inr ⟨id, (faithful.placed event member id).mpr same.symm, rfl⟩
        · exact Or.inl before
      · rintro (before | ⟨address, registered, same⟩)
        · exact Or.inr before
        · cases same
          exact Or.inl ((faithful.placed event member id).mp registered).symm

/-- No event has the number of the next one. -/
theorem Faithful.unregistered (address : Nat) : .registered state.count address ∉ state.log :=
  fun member => absurd (faithful.numbered _ _ member) (lt_irrefl _)

theorem Faithful.unremoved : ¬ RemovedSince state.log state.count := by
  rintro ⟨address, before, after, split, _⟩
  apply faithful.unregistered address
  rw [split]
  exact mem_append_right _ mem_cons_self

end

/-- The state with a new event in the queue. -/
def enqueue (state : Timers) (repeating : Bool) (interval now : TimeVal) (address : Nat) : Timers :=
  { state with
    events := ⟨address, state.count, repeating, interval, now.add interval⟩ :: state.events
    count := state.count + 1
    log := state.log ++ [.registered state.count address] }

theorem registered_new {log : List Entry} {count : Nat} (fresh : ∀ address,
    .registered count address ∉ log) (address other : Nat) :
    .registered count other ∈ log ++ [.registered count address] ↔ other = address := by
  rw [mem_append, mem_singleton]
  constructor
  · rintro (before | same)
    · exact absurd before (fresh other)
    · cases same
      rfl
  · rintro rfl
    exact Or.inr rfl

theorem removedSince_enqueue (serial address : Nat) :
    RemovedSince (state.log ++ [.registered state.count address]) serial ↔
      RemovedSince state.log serial := by
  rw [removedSince_append]
  constructor
  · rintro (removed | ⟨_, _, impossible⟩)
    · exact removed
    · cases impossible
  · exact Or.inl

theorem Faithful.enqueue (faithful : Faithful state) (repeating : Bool) (interval now : TimeVal)
    (free : address ∉ state.live.map Event.address) (unmarked : address ∉ state.removed) :
    Faithful (state.enqueue repeating interval now address) := by
  have old : ∀ event ∈ state.live, event.serial ≠ state.count := by
    intro event member same
    have registered := (faithful.placed event member event.address).mpr rfl
    rw [same] at registered
    exact faithful.unregistered _ registered
  refine ⟨?_, ?_, ?_, ?_, faithful.backed.append trivial⟩
  · exact nodup_cons.mpr ⟨free, faithful.distinct⟩
  · intro serial other member
    change serial < state.count + 1
    rcases mem_append.mp member with before | last
    · have bound := faithful.numbered serial other before
      omega
    · cases mem_singleton.mp last
      omega
  · intro event member other
    rcases mem_cons.mp member with rfl | member
    · exact registered_new faithful.unregistered address other
    · rw [← faithful.placed event member other]
      apply registered_mem_append
      intro same
      injection same with serial
      exact old event member serial.symm
  · intro event member
    change event.address ∈ state.removed ↔ RemovedSince (state.log ++ [.registered _ _]) _
    rw [removedSince_enqueue]
    rcases mem_cons.mp member with rfl | member
    · exact iff_of_false unmarked faithful.unremoved
    · exact faithful.marked event member

theorem Faithful.step (faithful : Faithful state) (action : Action)
    (unmarked : Unmarked state action) : Faithful (state.step action) := by
  cases action with
  | registerTimeout repeating interval now closure address =>
    change Faithful (state.registerTimeout repeating interval now closure address)
    unfold Timers.registerTimeout
    split
    · exact faithful
    · rename_i accepted
      rw [not_or, not_or] at accepted
      apply faithful.enqueue repeating interval now accepted.2.2
      exact unmarked (Bool.of_not_eq_false accepted.1) accepted.2.1 accepted.2.2
  | removeTimeout id => exact faithful.removeTimeout id
  | expire address now => exact faithful.expire address now
  | triggered again => exact faithful.triggered again

theorem notAfter_self (time : TimeVal) : time.notAfter time = true := by
  unfold TimeVal.notAfter TimeVal.before
  simp

/-- One of the events is not after any other. -/
theorem exists_earliest {events : List Event} (some : events ≠ []) :
    ∃ event ∈ events, ∀ other ∈ events, event.next.notAfter other.next = true := by
  induction events with
  | nil => exact absurd rfl some
  | cons event rest ih =>
    by_cases last : rest = []
    · subst last
      refine ⟨event, mem_cons_self, ?_⟩
      intro other member
      rw [mem_singleton.mp member]
      exact notAfter_self event.next
    · obtain ⟨earliest, member, least⟩ := ih last
      by_cases earlier : event.next.before earliest.next = true
      · refine ⟨event, mem_cons_self, ?_⟩
        intro other inside
        rcases mem_cons.mp inside with rfl | inside
        · exact notAfter_self _
        · have late := least other inside
          unfold TimeVal.notAfter at late ⊢
          rw [Bool.not_eq_true'] at late ⊢
          by_contra before
          have worse := TimeVal.before_trans (Bool.of_not_eq_false before) earlier
          rw [late] at worse
          cases worse
      · refine ⟨earliest, mem_cons_of_mem _ member, ?_⟩
        intro other inside
        rcases mem_cons.mp inside with rfl | inside
        · unfold TimeVal.notAfter
          rw [Bool.eq_false_iff.mpr earlier]
          rfl
        · exact least other inside

theorem exists_top (some : state.events ≠ []) :
    ∃ address event, state.top address = Option.some event := by
  obtain ⟨event, member, least⟩ := exists_earliest some
  have present : (state.top event.address).isSome = true := by
    unfold top
    rw [List.find?_isSome]
    refine ⟨event, member, ?_⟩
    rw [decide_eq_true_eq, all_eq_true]
    exact ⟨rfl, least⟩
  exact ⟨event.address, Option.isSome_iff_exists.mp present⟩

/-- An event at a marked address is dropped when the loop gets to it, removed or not. -/
theorem doomed {event : Event} {count : Nat} (amount : state.events.length = count)
    (distinct : (state.events.map Event.address).Nodup) (member : event ∈ state.events)
    (marked : event.address ∈ state.removed) (kept : ¬ RemovedSince state.log event.serial) :
    ∃ rounds : List Action, (∀ action ∈ rounds, action.isRound = true) ∧
      ¬ Justified Backs (run step state rounds).log := by
  induction count generalizing state with
  | zero =>
    rw [length_eq_zero_iff.mp amount] at member
    cases member
  | succ count ih =>
    obtain ⟨address, first, found⟩ := exists_top (ne_nil_of_mem member)
    obtain ⟨inside, here, -⟩ := top_some found
    have expired := expire_due found (notAfter_self first.next)
    by_cases same : first.address = event.address
    · have equal : first = event := inj_on_of_nodup_map distinct inside member same
      subst equal
      refine ⟨[.expire address first.next], ?_, ?_⟩
      · intro action only
        rw [mem_singleton.mp only]
        rfl
      · rw [run_cons, run_nil]
        change ¬ Justified Backs (state.expire address first.next).log
        rw [expired, if_pos marked]
        exact fun justified => kept (justified state.log _ [] rfl)
    · have rest : (state.events.erase first).length = count := by
        rw [length_erase_of_mem inside, amount]
        rfl
      have fewer : ((state.events.erase first).map Event.address).Nodup :=
        distinct.sublist (erase_sublist.map Event.address)
      have remains : event ∈ state.events.erase first := by
        apply (mem_erase_of_ne _).mpr member
        rintro rfl
        exact same rfl
      have next : ∃ rounds : List Action, (∀ action ∈ rounds, action.isRound = true) ∧
          ¬ Justified Backs (run step (state.expire address first.next) rounds).log := by
        rw [expired]
        split
        · apply ih rest fewer remains
          · exact Finset.mem_erase.mpr ⟨fun equal => same equal.symm, marked⟩
          · exact fun removed => kept ((removedSince_outcome rfl _).mp removed)
        · apply ih rest fewer remains
          · exact marked
          · exact fun removed => kept ((removedSince_outcome rfl _).mp removed)
      obtain ⟨rounds, all, unjustified⟩ := next
      refine ⟨.expire address first.next :: rounds, ?_, unjustified⟩
      intro action member
      rcases mem_cons.mp member with rfl | member
      · rfl
      · exact all action member

/-- Whatever the loop does next, every event is dropped or run as it should. -/
def Respected (state : Timers) : Prop :=
  ∀ rounds : List Action, (∀ action ∈ rounds, action.isRound = true) →
    Justified Backs (run step state rounds).log

theorem Faithful.respected (faithful : Faithful state) : Respected state := by
  intro rounds all
  induction rounds generalizing state with
  | nil => exact faithful.backed
  | cons action rounds ih =>
    have round := all action mem_cons_self
    apply ih
    · apply faithful.step
      cases action with
      | registerTimeout repeating interval now closure address => cases round
      | removeTimeout id | expire address now | triggered again => trivial
    · exact fun other member => all other (mem_cons_of_mem _ member)

theorem Faithful.spoiled (faithful : Faithful state) (action : Action)
    (marked : ¬ Unmarked state action) : ¬ Respected (state.step action) := by
  cases action with
  | registerTimeout repeating interval now closure address =>
    unfold Unmarked at marked
    simp only [Classical.not_imp, not_not] at marked
    obtain ⟨closed, valid, free, marked⟩ := marked
    intro respected
    have entered : state.step (.registerTimeout repeating interval now closure address) =
        state.enqueue repeating interval now address := by
      change state.registerTimeout repeating interval now closure address = _
      unfold registerTimeout
      rw [if_neg]
      · rfl
      · rw [closed]
        simp only [Bool.true_eq_false, false_or, not_or]
        exact ⟨valid, free⟩
    have distinct : ((state.enqueue repeating interval now address).events.map
        Event.address).Nodup := by
      apply nodup_cons.mpr
      constructor
      · intro member
        apply free
        unfold live
        rw [map_append]
        exact mem_append_left _ member
      · have whole := faithful.distinct
        unfold live at whole
        rw [map_append] at whole
        exact (nodup_append.mp whole).1
    obtain ⟨rounds, all, unjustified⟩ := @doomed (state.enqueue repeating interval now address)
      _ _ rfl distinct mem_cons_self marked
      (fun removed => faithful.unremoved ((removedSince_enqueue _ _).mp removed))
    rw [entered] at respected
    exact unjustified (respected rounds all)
  | removeTimeout id | expire address now | triggered again => exact absurd trivial marked

theorem faithful_initial : Faithful initial := by
  refine ⟨nodup_nil, ?_, ?_, ?_, justified_nil Backs⟩
  · intro serial address member
    cases member
  · intro event member
    cases member
  · intro event member
    cases member

end Invariant

/-- In a run and in every way in which the loop goes on after it an event is dropped only if
it was removed since it was registered, and not run if it was, exactly if no event is
registered at an address that waits in `m_removed_timeouts`. -/
theorem timeouts_respected_iff (actions : List Action) :
    (∀ count rounds, (∀ action ∈ rounds, action.isRound = true) →
      Justified Backs (run step initial (actions.take count ++ rounds)).log) ↔
      Permitted step Unmarked initial actions := by
  rw [← @always_iff_permitted _ _ step Unmarked Faithful Respected (fun _ => Faithful.respected)
    (fun _ action faithful => faithful.step action)
    (fun _ action faithful => faithful.spoiled action) initial actions faithful_initial]
  simp only [run_append]
  rfl

/-- An event fires and is deleted, its id is removed, and a new event gets its address: the
new event is dropped. -/
theorem reused_address_dropped :
    ¬ Justified Backs (run step initial
      [.registerTimeout false ⟨1, 0⟩ ⟨0, 0⟩ true 1, .expire 1 ⟨1, 0⟩, .triggered false,
        .removeTimeout 1, .registerTimeout false ⟨1, 0⟩ ⟨1, 0⟩ true 1, .expire 1 ⟨2, 0⟩]).log := by
  intro justified
  have removed : RemovedSince ([.registered 0 1, .ran 0, .removed 1] ++ [.registered 1 1]) 1 :=
    justified _ (.discarded 1) [] (by decide +kernel)
  rcases removedSince_append.mp removed with ⟨address, before, after, split, _⟩ | ⟨_, _, impossible⟩
  · have member : Entry.registered 1 address ∈ [.registered 0 1, .ran 0, .removed 1] := by
      rw [split]
      exact List.mem_append_right _ List.mem_cons_self
    simp at member
  · cases impossible

end Timers

end SelectServer

end OpenLighting
