import OpenLighting.QueueingController

namespace OpenLighting.QueueingController

open OpenLighting.Rdm TransitionSystem List

def Operation.discovery? : Operation → Option Nat
  | .request _ _ => none
  | .discovery number => some number

/-- A discovery that has completed, with the callbacks that have not been run. -/
structure Completing where
  number : Nat
  uids : UIDSet
  rest : List DiscoveryCallback

def Frame.completing? : Frame → Option Completing
  | .handleRDMResponse _ => none
  | .discoveryComplete number uids rest => some ⟨number, uids, rest⟩

def Event.isDiscovery : Event → Bool
  | .registered _ _ | .started _ _ _ | .completed _ _ | .served _ _ _ => true
  | _ => false

/-- The part of a world that discovery is about. -/
structure Service where
  kind : Kind
  active : List DiscoveryCallback
  pending : List (Bool × DiscoveryCallback)
  running : List Nat
  completing : List Completing
  events : List Event
  callbacks : Nat
  discoveries : Nat

def World.service (world : World) : Service where
  kind := world.kind
  active := world.discoveryCallbacks
  pending := world.pendingDiscoveryCallbacks
  running := world.outstanding.filterMap Operation.discovery?
  completing := world.frames.filterMap Frame.completing?
  events := world.log.filter Event.isDiscovery
  callbacks := world.callbacks
  discoveries := world.discoveries

/-- What can happen to it. -/
inductive Service.Move : Service → Service → Prop where
  | register (service : Service) (discoverable : service.kind = .discoverable) (full null : Bool) :
      Move service
        { service with
          pending := service.pending ++ [(full, ⟨service.callbacks, null⟩)]
          events := service.events ++ [.registered ⟨service.callbacks, null⟩ full]
          callbacks := service.callbacks + 1 }
  | start (service : Service) (discoverable : service.kind = .discoverable)
      (vacant : service.active = []) (wanted : service.pending ≠ []) :
      Move service
        { service with
          active := service.pending.map Prod.snd
          pending := []
          running := service.running ++ [service.discoveries]
          events := service.events ++ [.started service.discoveries
            (service.pending.any Prod.fst) (service.pending.map Prod.snd)]
          discoveries := service.discoveries + 1 }
  | complete (service : Service) (number : Nat) (uids : UIDSet)
      (running : service.running = [number]) :
      Move service
        { service with
          running := []
          completing := ⟨number, uids, service.active⟩ :: service.completing
          events := service.events ++ [.completed number uids] }
  | skip (service : Service) (number : Nat) (uids : UIDSet) (callback : DiscoveryCallback)
      (rest : List DiscoveryCallback) (others : List Completing) (null : callback.null)
      (completing : service.completing = ⟨number, uids, callback :: rest⟩ :: others) :
      Move service { service with completing := ⟨number, uids, rest⟩ :: others }
  | serve (service : Service) (number : Nat) (uids : UIDSet) (callback : DiscoveryCallback)
      (rest : List DiscoveryCallback) (others : List Completing)
      (completing : service.completing = ⟨number, uids, callback :: rest⟩ :: others) :
      Move service
        { service with
          completing := ⟨number, uids, rest⟩ :: others
          events := service.events ++ [.served callback number uids] }
  | finish (service : Service) (number : Nat) (uids : UIDSet) (others : List Completing)
      (completing : service.completing = ⟨number, uids, []⟩ :: others) :
      Move service { service with active := [], completing := others }

abbrev Service.Moves : Service → Service → Prop := Relation.ReflTransGen Service.Move

section Ledger

/-- The callbacks of every discovery but `except` have been run. -/
def Settled (events : List Event) (except : Option Nat) : Prop :=
  ∀ number full serves, Event.started number full serves ∈ events → some number ≠ except →
    ∀ callback ∈ serves, callback.null = false →
      ∃ uids, Event.served callback number uids ∈ events

/-- What has to come before a discovery event: a callback is registered once; a
discovery serves callbacks registered before, is full exactly if one of them asked
for it, and starts when those of the earlier discoveries have been run; it completes
once; and a callback is run once, after the completion of the discovery that serves
it. -/
def Backed (past : List Event) : Event → Prop
  | .registered callback _ => ∀ full, Event.registered callback full ∉ past
  | .started number full serves =>
    (∀ callback ∈ serves, ∃ asked, Event.registered callback asked ∈ past) ∧
    (full = true ↔ ∃ callback ∈ serves, Event.registered callback true ∈ past) ∧
    (∀ full serves, Event.started number full serves ∉ past) ∧ Settled past none
  | .completed number _ =>
    (∃ full serves, Event.started number full serves ∈ past) ∧
    ∀ uids, Event.completed number uids ∉ past
  | .served callback number uids =>
    Event.completed number uids ∈ past ∧
    (∃ full serves, Event.started number full serves ∈ past ∧ callback ∈ serves) ∧
    ∀ number uids, Event.served callback number uids ∉ past
  | _ => True

/-- Where the discovery that is being served stands. -/
inductive Phase (service : Service) : Prop where
  | idle (vacant : service.active = []) (running : service.running = [])
      (completing : service.completing = []) (settled : Settled service.events none)
  | running (number : Nat) (full : Bool) (busy : service.active ≠ [])
      (running : service.running = [number]) (completing : service.completing = [])
      (started : Event.started number full service.active ∈ service.events)
      (fresh : ∀ uids, Event.completed number uids ∉ service.events)
      (only : ∀ full serves, Event.started number full serves ∈ service.events →
        serves = service.active)
      (settled : Settled service.events (some number))
  | completing (number : Nat) (full : Bool) (uids : UIDSet) (done rest : List DiscoveryCallback)
      (busy : service.active ≠ []) (running : service.running = [])
      (completing : service.completing = [⟨number, uids, rest⟩])
      (split : service.active = done ++ rest)
      (started : Event.started number full service.active ∈ service.events)
      (completed : Event.completed number uids ∈ service.events)
      (only : ∀ full serves, Event.started number full serves ∈ service.events →
        serves = service.active)
      (ran : ∀ callback ∈ done, callback.null = false →
        Event.served callback number uids ∈ service.events)
      (settled : Settled service.events (some number))

/-- The callbacks of the current discovery that have not been run. -/
def Service.waiting (service : Service) : List DiscoveryCallback :=
  match service.completing with
  | [] => service.active
  | current :: _ => current.rest

def Service.unserved (service : Service) : List DiscoveryCallback :=
  service.waiting ++ service.pending.map Prod.snd

structure Ledger (service : Service) : Prop where
  phase : Phase service
  justified : Justified Backed service.events
  plain : service.kind = .queueing → service.active = [] ∧ service.pending = []
  registered : ∀ callback full, Event.registered callback full ∈ service.events →
    callback.number < service.callbacks
  started : ∀ number full serves, Event.started number full serves ∈ service.events →
    number < service.discoveries
  known : ∀ callback ∈ service.unserved, callback.number < service.callbacks
  distinct : service.unserved.Nodup
  unserved : ∀ callback ∈ service.unserved, ∀ number uids,
    Event.served callback number uids ∉ service.events
  served : ∀ callback number uids, Event.served callback number uids ∈ service.events →
    callback.number < service.callbacks
  asked : ∀ entry ∈ service.pending, Event.registered entry.2 entry.1 ∈ service.events
  entries : ∀ callback full, Event.registered callback full ∈ service.events →
    callback ∈ service.pending.map Prod.snd → (full, callback) ∈ service.pending
  accounted : ∀ callback full, Event.registered callback full ∈ service.events →
    callback.null = false → callback ∈ service.unserved ∨
      ∃ number uids, Event.served callback number uids ∈ service.events

variable {service : Service}

/-- Only a start can unsettle a log. -/
theorem Settled.append {events : List Event} {except : Option Nat} {event : Event}
    (settled : Settled events except)
    (other : ∀ number full serves, event = .started number full serves → some number = except) :
    Settled (events ++ [event]) except := by
  intro number full serves started different callback member null
  rcases mem_append.mp started with before | last
  · obtain ⟨uids, served⟩ := settled number full serves before different callback member null
    exact ⟨uids, mem_append_left _ served⟩
  · exact absurd (other number full serves (mem_singleton.mp last).symm) different

theorem Phase.register (phase : Phase service) (callback : DiscoveryCallback) (asked : Bool)
    (pending : List (Bool × DiscoveryCallback)) (callbacks : Nat) :
    Phase { service with
      pending := pending
      events := service.events ++ [.registered callback asked]
      callbacks := callbacks } := by
  cases phase with
  | idle vacant running completing settled =>
    exact .idle vacant running completing (settled.append (by simp))
  | running number full busy running completing started fresh only settled =>
    refine .running number full busy running completing ?_ ?_ ?_ ?_
    · exact mem_append_left _ started
    · intro uids
      simpa using fresh uids
    · intro full serves
      simpa using only full serves
    · exact settled.append (by simp)
  | completing number full uids done rest busy running completing split started completed only
      ran settled =>
      refine .completing number full uids done rest busy running completing split ?_ ?_ ?_ ?_ ?_
      · exact mem_append_left _ started
      · exact mem_append_left _ completed
      · intro full serves
        simpa using only full serves
      · intro callback member null
        exact mem_append_left _ (ran callback member null)
      · exact settled.append (by simp)

section

variable (ledger : Ledger service)
include ledger

theorem Ledger.register (discoverable : service.kind = .discoverable) (full null : Bool) :
    Ledger { service with
      pending := service.pending ++ [(full, ⟨service.callbacks, null⟩)]
      events := service.events ++ [.registered ⟨service.callbacks, null⟩ full]
      callbacks := service.callbacks + 1 } := by
  have fresh : ∀ asked, Event.registered ⟨service.callbacks, null⟩ asked ∉ service.events := by
    intro asked member
    exact Nat.lt_irrefl _ (ledger.registered _ _ member)
  have same : Service.unserved { service with
      pending := service.pending ++ [(full, ⟨service.callbacks, null⟩)]
      events := service.events ++ [.registered ⟨service.callbacks, null⟩ full]
      callbacks := service.callbacks + 1 } =
      service.unserved ++ [⟨service.callbacks, null⟩] := by
    simp [Service.unserved, Service.waiting]
  constructor
  · exact ledger.phase.register _ _ _ _
  · exact ledger.justified.append fresh
  · intro queueing
    rw [discoverable] at queueing
    cases queueing
  · intro callback asked member
    simp only [mem_append, mem_singleton, Event.registered.injEq] at member
    rcases member with before | ⟨rfl, -⟩
    · exact Nat.lt_succ_of_lt (ledger.registered _ _ before)
    · exact Nat.lt_succ_self _
  · intro number full serves member
    apply ledger.started number full serves
    simpa using member
  · rw [same]
    intro callback member
    rcases mem_append.mp member with before | last
    · exact Nat.lt_succ_of_lt (ledger.known _ before)
    · rw [mem_singleton.mp last]
      exact Nat.lt_succ_self _
  · rw [same]
    apply ledger.distinct.append (nodup_singleton _)
    intro callback member last
    rw [mem_singleton.mp last] at member
    exact Nat.lt_irrefl _ (ledger.known _ member)
  · rw [same]
    intro callback member number uids served
    have earlier : Event.served callback number uids ∈ service.events := by simpa using served
    rcases mem_append.mp member with before | last
    · exact ledger.unserved _ before _ _ earlier
    · rw [mem_singleton.mp last] at earlier
      exact Nat.lt_irrefl _ (ledger.served _ _ _ earlier)
  · intro callback number uids served
    apply Nat.lt_succ_of_lt
    apply ledger.served callback number uids
    simpa using served
  · intro entry member
    rcases mem_append.mp member with before | last
    · exact mem_append_left _ (ledger.asked _ before)
    · rw [mem_singleton.mp last]
      simp
  · intro callback asked member pending
    simp only [mem_append, mem_singleton, Event.registered.injEq] at member
    rcases member with before | ⟨rfl, rfl⟩
    · apply mem_append_left
      apply ledger.entries _ _ before
      rw [map_append, mem_append] at pending
      rcases pending with earlier | last
      · exact earlier
      · rw [map_singleton, mem_singleton] at last
        rw [last] at before
        exact absurd before (fresh _)
    · simp
  · rw [same]
    intro callback asked member given
    simp only [mem_append, mem_singleton, Event.registered.injEq] at member
    rcases member with before | ⟨rfl, -⟩
    · rcases ledger.accounted _ _ before given with waiting | ⟨number, uids, served⟩
      · exact .inl (mem_append_left _ waiting)
      · exact .inr ⟨number, uids, mem_append_left _ served⟩
    · simp

theorem Ledger.idle (vacant : service.active = []) :
    service.running = [] ∧ service.completing = [] ∧ Settled service.events none := by
  cases ledger.phase with
  | idle _ running completing settled => exact ⟨running, completing, settled⟩
  | running _ _ busy | completing _ _ _ _ _ busy => exact absurd vacant busy

theorem Ledger.vacant (running : service.running = []) (completing : service.completing = []) :
    service.active = [] := by
  cases ledger.phase with
  | idle vacant => exact vacant
  | running _ _ _ some => simp [running] at some
  | completing _ _ _ _ _ _ _ some => simp [completing] at some

theorem Ledger.start (discoverable : service.kind = .discoverable) (vacant : service.active = [])
    (wanted : service.pending ≠ []) :
    Ledger { service with
      active := service.pending.map Prod.snd
      pending := []
      running := service.running ++ [service.discoveries]
      events := service.events ++ [.started service.discoveries
        (service.pending.any Prod.fst) (service.pending.map Prod.snd)]
      discoveries := service.discoveries + 1 } := by
  obtain ⟨running, completing, settled⟩ := ledger.idle vacant
  have fresh : ∀ full serves,
      Event.started service.discoveries full serves ∉ service.events := by
    intro full serves member
    exact Nat.lt_irrefl _ (ledger.started _ _ _ member)
  have same : Service.unserved { service with
      active := service.pending.map Prod.snd
      pending := []
      running := service.running ++ [service.discoveries]
      events := service.events ++ [.started service.discoveries
        (service.pending.any Prod.fst) (service.pending.map Prod.snd)]
      discoveries := service.discoveries + 1 } = service.unserved := by
    simp [Service.unserved, Service.waiting, completing, vacant]
  have full : service.pending.any Prod.fst = true ↔ ∃ callback ∈ service.pending.map Prod.snd,
      Event.registered callback true ∈ service.events := by
    rw [any_eq_true]
    constructor
    · rintro ⟨⟨asked, callback⟩, member, rfl⟩
      exact ⟨callback, mem_map_of_mem member, ledger.asked _ member⟩
    · rintro ⟨callback, member, registered⟩
      exact ⟨_, ledger.entries _ _ registered member, rfl⟩
  constructor
  · refine .running service.discoveries (service.pending.any Prod.fst) ?_ ?_ completing ?_ ?_ ?_ ?_
    · simpa using wanted
    · simp [running]
    · simp
    · intro uids completed
      have earlier : Event.completed service.discoveries uids ∈ service.events := by
        simpa using completed
      obtain ⟨past, before, ⟨full, serves, started⟩, -⟩ := ledger.justified.of_mem earlier
      exact fresh _ _ (before started)
    · intro full serves member
      simp only [mem_append, mem_singleton, Event.started.injEq] at member
      rcases member with before | ⟨-, -, rfl⟩
      · exact absurd before (fresh _ _)
      · rfl
    · intro number full serves member different
      simp only [mem_append, mem_singleton, Event.started.injEq] at member
      rcases member with before | ⟨rfl, -⟩
      · intro callback among given
        obtain ⟨uids, served⟩ := settled _ _ _ before (by simp) callback among given
        exact ⟨uids, mem_append_left _ served⟩
      · exact absurd rfl different
  · refine ledger.justified.append ⟨?_, full, fresh, settled⟩
    intro callback member
    obtain ⟨⟨asked, callback⟩, among, rfl⟩ := mem_map.mp member
    exact ⟨asked, ledger.asked _ among⟩
  · intro queueing
    rw [discoverable] at queueing
    cases queueing
  · intro callback asked member
    apply ledger.registered callback asked
    simpa using member
  · intro number full serves member
    simp only [mem_append, mem_singleton, Event.started.injEq] at member
    rcases member with before | ⟨rfl, -⟩
    · exact Nat.lt_succ_of_lt (ledger.started _ _ _ before)
    · exact Nat.lt_succ_self _
  · rw [same]
    exact ledger.known
  · rw [same]
    exact ledger.distinct
  · rw [same]
    intro callback member number uids
    simpa using ledger.unserved callback member number uids
  · intro callback number uids
    simpa using ledger.served callback number uids
  · intro entry member
    cases member
  · intro callback asked member among
    cases among
  · rw [same]
    intro callback asked member given
    simpa using ledger.accounted callback asked (by simpa using member) given

theorem Ledger.complete (number : Nat) (uids : UIDSet) (running : service.running = [number]) :
    Ledger { service with
      running := []
      completing := ⟨number, uids, service.active⟩ :: service.completing
      events := service.events ++ [.completed number uids] } := by
  cases ledger.phase with
  | idle _ none | completing _ _ _ _ _ _ none => simp [running] at none
  | running current full busy alone completing started fresh only settled =>
    obtain rfl : number = current := by simpa [running] using alone
    have same : Service.unserved { service with
        running := []
        completing := ⟨number, uids, service.active⟩ :: service.completing
        events := service.events ++ [.completed number uids] } = service.unserved := by
      simp [Service.unserved, Service.waiting, completing]
    constructor
    · refine .completing number full uids [] service.active busy rfl (by simp [completing]) rfl
        ?_ ?_ ?_ ?_ ?_
      · exact mem_append_left _ started
      · simp
      · intro full serves
        simpa using only full serves
      · intro callback member
        cases member
      · exact settled.append (by simp)
    · exact ledger.justified.append ⟨⟨full, _, started⟩, fresh⟩
    · exact ledger.plain
    · intro callback asked
      simpa using ledger.registered callback asked
    · intro number full serves
      simpa using ledger.started number full serves
    · rw [same]
      exact ledger.known
    · rw [same]
      exact ledger.distinct
    · rw [same]
      intro callback member number uids
      simpa using ledger.unserved callback member number uids
    · intro callback number uids
      simpa using ledger.served callback number uids
    · intro entry member
      simpa using ledger.asked entry member
    · intro callback asked
      simpa using ledger.entries callback asked
    · rw [same]
      intro callback asked
      simpa using ledger.accounted callback asked

end

variable {number : Nat} {uids : UIDSet} {others : List Completing}

section

variable (ledger : Ledger service)
include ledger

/-- A callback that is NULL is passed over. -/
theorem Ledger.skip {callback : DiscoveryCallback} {rest : List DiscoveryCallback}
    (null : callback.null)
    (current : service.completing = ⟨number, uids, callback :: rest⟩ :: others) :
    Ledger { service with completing := ⟨number, uids, rest⟩ :: others } := by
  have same : service.unserved = callback :: Service.unserved
      { service with completing := ⟨number, uids, rest⟩ :: others } := by
    simp [Service.unserved, Service.waiting, current]
  have distinct := ledger.distinct
  rw [same, nodup_cons] at distinct
  constructor
  · cases ledger.phase with
    | idle _ _ none | running _ _ _ _ none => simp [current] at none
    | completing found full seen done left busy running completing split started completed only
        ran settled =>
        rw [current] at completing
        cases completing
        refine .completing number full uids (done ++ [callback]) rest busy running rfl ?_ started
          completed only ?_ settled
        · rw [split, append_assoc]
          rfl
        · intro other member given
          rcases mem_append.mp member with before | last
          · exact ran other before given
          · rw [mem_singleton.mp last, null] at given
            cases given
  · exact ledger.justified
  · exact ledger.plain
  · exact ledger.registered
  · exact ledger.started
  · intro other member
    apply ledger.known
    rw [same]
    exact mem_cons_of_mem _ member
  · exact distinct.2
  · intro other member
    apply ledger.unserved
    rw [same]
    exact mem_cons_of_mem _ member
  · exact ledger.served
  · exact ledger.asked
  · exact ledger.entries
  · intro other asked member given
    rcases ledger.accounted other asked member given with waiting | served
    · rw [same, mem_cons] at waiting
      rcases waiting with rfl | waiting
      · rw [null] at given
        cases given
      · exact .inl waiting
    · exact .inr served

theorem Ledger.serve {callback : DiscoveryCallback} {rest : List DiscoveryCallback}
    (current : service.completing = ⟨number, uids, callback :: rest⟩ :: others) :
    Ledger { service with
      completing := ⟨number, uids, rest⟩ :: others
      events := service.events ++ [.served callback number uids] } := by
  have same : service.unserved = callback :: Service.unserved
      { service with
        completing := ⟨number, uids, rest⟩ :: others
        events := service.events ++ [.served callback number uids] } := by
    simp [Service.unserved, Service.waiting, current]
  have distinct := ledger.distinct
  rw [same, nodup_cons] at distinct
  have front : callback ∈ service.unserved := by
    rw [same]
    exact mem_cons_self
  cases ledger.phase with
  | idle _ _ none | running _ _ _ _ none => simp [current] at none
  | completing found full seen done left busy running completing split started completed only
      ran settled =>
      rw [current] at completing
      cases completing
      constructor
      · refine .completing number full uids (done ++ [callback]) rest busy running rfl ?_ ?_ ?_ ?_
          ?_ ?_
        · rw [split, append_assoc]
          rfl
        · exact mem_append_left _ started
        · exact mem_append_left _ completed
        · intro full serves
          simpa using only full serves
        · intro other member given
          rcases mem_append.mp member with before | last
          · exact mem_append_left _ (ran other before given)
          · rw [mem_singleton.mp last]
            simp
        · exact settled.append (by simp)
      · apply ledger.justified.append
        refine ⟨completed, ⟨full, _, started, ?_⟩, ledger.unserved callback front⟩
        rw [split]
        simp
      · exact ledger.plain
      · intro other asked
        simpa using ledger.registered other asked
      · intro number full serves
        simpa using ledger.started number full serves
      · intro other member
        apply ledger.known
        rw [same]
        exact mem_cons_of_mem _ member
      · exact distinct.2
      · intro other member number' uids' served
        simp only [mem_append, mem_singleton, Event.served.injEq] at served
        rcases served with before | ⟨rfl, -⟩
        · apply ledger.unserved other _ number' uids' before
          rw [same]
          exact mem_cons_of_mem _ member
        · exact distinct.1 member
      · intro other number' uids' served
        simp only [mem_append, mem_singleton, Event.served.injEq] at served
        rcases served with before | ⟨rfl, -⟩
        · exact ledger.served other number' uids' before
        · exact ledger.known _ front
      · intro entry member
        exact mem_append_left _ (ledger.asked entry member)
      · intro other asked
        simpa using ledger.entries other asked
      · intro other asked member given
        have earlier : Event.registered other asked ∈ service.events := by simpa using member
        rcases ledger.accounted other asked earlier given with waiting | ⟨number', uids', served⟩
        · rw [same, mem_cons] at waiting
          rcases waiting with rfl | waiting
          · exact .inr ⟨number, uids, by simp⟩
          · exact .inl waiting
        · exact .inr ⟨number', uids', mem_append_left _ served⟩

theorem Ledger.finish (current : service.completing = ⟨number, uids, []⟩ :: others) :
    Ledger { service with active := [], completing := others } := by
  cases ledger.phase with
  | idle _ _ none | running _ _ _ _ none => simp [current] at none
  | completing found full seen done left busy running completing split started completed only
      ran settled =>
      rw [current] at completing
      cases completing
      have same : service.unserved =
          Service.unserved { service with active := [], completing := [] } := by
        simp [Service.unserved, Service.waiting, current]
      constructor
      · refine .idle rfl running rfl ?_
        intro other full serves member _ callback among given
        by_cases equal : other = number
        · subst equal
          rw [only full serves member, split, append_nil] at among
          exact ⟨uids, ran callback among given⟩
        · exact settled other full serves member (by simpa using equal) callback among given
      · exact ledger.justified
      · intro queueing
        exact ⟨rfl, (ledger.plain queueing).2⟩
      · exact ledger.registered
      · exact ledger.started
      · rw [← same]
        exact ledger.known
      · rw [← same]
        exact ledger.distinct
      · rw [← same]
        exact ledger.unserved
      · exact ledger.served
      · exact ledger.asked
      · exact ledger.entries
      · rw [← same]
        exact ledger.accounted

theorem Ledger.move {after : Service} (move : Service.Move service after) : Ledger after := by
  cases move with
  | register discoverable full null => exact ledger.register discoverable full null
  | start discoverable vacant wanted => exact ledger.start discoverable vacant wanted
  | complete number uids running => exact ledger.complete number uids running
  | skip number uids callback rest others null completing => exact ledger.skip null completing
  | serve number uids callback rest others completing => exact ledger.serve completing
  | finish number uids others completing => exact ledger.finish completing

theorem Ledger.moves {after : Service} (moves : Service.Moves service after) : Ledger after := by
  induction moves with
  | refl => exact ledger
  | tail _ move ih => exact ih.move move

end

end Ledger

end OpenLighting.QueueingController
