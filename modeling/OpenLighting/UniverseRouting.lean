import OpenLighting.RdmCommand
import OpenLighting.UniverseDiscovery

namespace OpenLighting

variable (world : World) (state : Universe)

namespace Universe

open OpenLighting.Rdm TransitionSystem

def pidDiscUniqueBranch : UInt16 := 0x0001

def isDub (request : Command) : Bool :=
  decide (request.commandClass = .discoverCommand) && request.paramId == pidDiscUniqueBranch

/-- Where `SendRDMRequest` sends a request. -/
inductive Dispatch where
  | broadcast (ports : List OutputPort) (isDub : Bool)
  | forwarded (port : OutputPort)
  | unknownUid
  deriving DecidableEq

def dispatch (request : Command) : Dispatch :=
  if request.destination.isBroadcast then .broadcast state.outputPorts (isDub request)
  else
    match state.outputUids.lookup request.destination with
    | none => .unknownUid
    | some port => .forwarded port

/-- Every port of the UID map is an output port of the universe. -/
def Routed : Prop :=
  ∀ uid port, state.outputUids.lookup uid = some port → port ∈ state.outputPorts

/-- And requests for one UID go to no other port. -/
def Bound : Prop :=
  Routed world.state ∧ ∀ request port, world.state.dispatch request = .forwarded port →
    port ∈ world.state.outputPorts

/-- A list of UIDs is from a port of the universe, or has no UID that is not in the
map yet. -/
def Welcome (port : OutputPort) (uids : UIDSet) : Prop :=
  port ∈ state.outputPorts ∨ ∀ uid ∈ uids, uid ∈ state.outputUids

/-- The port still has a callback to run for the discovery. -/
def World.Awaits (number : Nat) (port : OutputPort) : Prop :=
  ∃ discovery, world.running.find? (fun discovery => discovery.number == number) = some discovery ∧
    port ∈ discovery.waiting

/-- No discovery that finds a new UID completes on a port that is not bound. -/
def Timely (world : World) : Input → Prop
  | .report number port uids => world.Awaits number port → Welcome world.state port uids
  | .newUIDList port uids => Welcome world.state port uids
  | .addPort _ | .removePort _ | .runRDMDiscovery _ => True

theorem Routed.bound {world : World} (routed : Routed world.state) : Bound world := by
  refine ⟨routed, ?_⟩
  intro request port sent
  unfold dispatch at sent
  split at sent
  · cases sent
  · split at sent
    · cases sent
    · cases sent
      exact routed _ _ ‹_›

section Steps

variable {state : Universe} {port : OutputPort} {uids : UIDSet}

theorem Routed.addOutputPort (routed : Routed state) (port : OutputPort) :
    Routed (state.addOutputPort port) := by
  intro uid target found
  exact (mem_genericAddPort port target state.outputPorts).mpr (Or.inr (routed uid target found))

theorem Routed.removeOutputPort (routed : Routed state) (port : OutputPort) :
    Routed (state.removeOutputPort port) := by
  unfold Universe.removeOutputPort
  by_cases bound : port ∈ state.outputPorts
  · rw [if_pos bound]
    intro uid target found
    rw [lookup_keepUids, Option.filter_eq_some_iff] at found
    apply (List.mem_erase_of_ne _).mpr (routed uid target found.1)
    simpa using found.2
  · rw [if_neg bound]
    exact routed

theorem Routed.newUIDList (routed : Routed state) (welcome : Welcome state port uids) :
    Routed (state.newUIDList port uids) := by
  intro uid target found
  rw [lookup_newUIDList] at found
  unfold route at found
  split at found
  · rw [Option.or_eq_some_iff] at found
    rcases found with kept | ⟨free, same⟩
    · exact routed uid target kept
    · rcases welcome with bound | known
      · cases same
        exact bound
      · exact absurd (known uid ‹_›) (AList.lookup_eq_none.mp free)
  · rw [Option.filter_eq_some_iff] at found
    exact routed uid target found.1

theorem not_routed_newUIDList (unwelcome : ¬ Welcome state port uids) :
    ¬ Routed (state.newUIDList port uids) := by
  intro routed
  apply unwelcome
  by_contra strange
  unfold Welcome at strange
  push Not at strange
  obtain ⟨unbound, uid, member, free⟩ := strange
  have found : (state.newUIDList port uids).outputUids.lookup uid = some port := by
    rw [lookup_newUIDList, AList.lookup_eq_none.mpr free]
    simp [route, member]
  exact unbound (routed uid port found)

theorem discoveryComplete_state (number : Nat) (onComplete : Bool) :
    (world.discoveryComplete number onComplete).state = world.state := by
  unfold World.discoveryComplete
  split <;> rfl

theorem runRDMDiscovery_state (onComplete : Bool) :
    (world.runRDMDiscovery onComplete).state = world.state := by
  unfold World.runRDMDiscovery
  dsimp only
  split
  · exact discoveryComplete_state _ _ _
  · rfl

theorem portDiscoveryComplete_state (discovery : Discovery) :
    (world.portDiscoveryComplete discovery port uids).state = world.state.newUIDList port uids := by
  unfold World.portDiscoveryComplete
  dsimp only
  split
  · exact discoveryComplete_state _ _ _
  · rfl

theorem report_state_of_awaits {world : World} {number : Nat} (awaits : world.Awaits number port) :
    (world.report number port uids).state = world.state.newUIDList port uids := by
  obtain ⟨discovery, found, waiting⟩ := awaits
  unfold World.report
  rw [found]
  dsimp only
  rw [if_pos waiting]
  exact portDiscoveryComplete_state world discovery

theorem report_of_not_awaits {world : World} {number : Nat} (none : ¬ world.Awaits number port) :
    world.report number port uids = world := by
  unfold World.report
  split
  · rfl
  · apply if_neg
    intro waiting
    exact none ⟨_, ‹_›, waiting⟩

theorem step_routed (input : Input) (routed : Routed world.state)
    (timely : Timely world input) : Routed (world.step input).state := by
  cases input with
  | addPort port => exact routed.addOutputPort port
  | removePort port => exact routed.removeOutputPort port
  | runRDMDiscovery onComplete =>
    unfold World.step
    rw [runRDMDiscovery_state]
    exact routed
  | report number port uids =>
    unfold World.step
    dsimp only
    by_cases awaits : world.Awaits number port
    · rw [report_state_of_awaits awaits]
      exact routed.newUIDList (timely awaits)
    · rw [report_of_not_awaits awaits]
      exact routed
  | newUIDList port uids => exact routed.newUIDList timely

/-- A late completion routes requests to a port that is not bound. -/
theorem step_not_routed (input : Input) (late : ¬ Timely world input) :
    ¬ Routed (world.step input).state := by
  cases input with
  | addPort port | removePort port | runRDMDiscovery onComplete => exact absurd trivial late
  | report number port uids =>
    unfold Timely at late
    push Not at late
    unfold World.step
    rw [report_state_of_awaits late.1]
    exact not_routed_newUIDList late.2
  | newUIDList port uids => exact not_routed_newUIDList late

end Steps

/-- Requests are routed to ports of the universe all along a run if no discovery
completes late. -/
theorem bound_iff_timely (universeId : Nat) (inputs : List Input) :
    (∀ count, Bound (run World.step (.idle (new universeId)) (inputs.take count))) ↔
      Permitted World.step Timely (.idle (new universeId)) inputs := by
  refine always_iff_permitted (fun _ routed => routed.bound) step_routed ?_ ?_
  · intro world input _ late bound
    exact step_not_routed world input late bound.1
  · intro uid port found
    cases found

/-- The port is removed while its discovery is under way. -/
def lateDiscovery : List Input :=
  [.addPort 1, .runRDMDiscovery true, .removePort 1, .report 0 1 {movedUid}]

theorem late_discovery_unbound :
    ¬ ∀ count, Bound (run World.step (.idle (new 1)) (lateDiscovery.take count)) := by
  have late : ¬ Timely (run World.step (.idle (new 1)) (lateDiscovery.take 3))
      (.report 0 1 {movedUid}) := by
    intro timely
    rcases timely ⟨⟨0, true, 1, 0, [1]⟩, rfl, List.mem_singleton.mpr rfl⟩ with unbound | known
    · exact absurd unbound (by decide)
    · exact absurd (known movedUid (Finset.mem_singleton_self movedUid)) (by decide)
  intro bound
  exact step_not_routed _ _ late (bound 4).1

end Universe

end OpenLighting
