import OpenLighting.ArtNetInputPort
import OpenLighting.TransitionSystem

/- Runs of discoveries on an input port: which callbacks are run, what for, and with which
UIDs. -/
namespace OpenLighting.ArtNet

open OpenLighting.Network TransitionSystem DiscoveryNode List

/-- What can happen to the port. ArtPollReply packets and time change the nodes that are
known. -/
inductive DiscoveryEvent where
  | runFullDiscovery (sent : Bool)
  | runIncrementalDiscovery (sent : Bool)
  | nodes (nodes : Finset IPV4Address)
  | todData (source : IPV4Address) (packet : TodData) (packetSize : Nat)
  | expire (timeout : TimeoutId)
  | stop

/-- A node, and what was seen of its discoveries: how many there were, the callbacks that were run
with their UIDs, the discovery that registered a timer, the nodes that were known at the start of
the last one, those that were heard since, and for each UID the number of discoveries that began
since it was last in a TOD. -/
structure DiscoveryRun where
  node : DiscoveryNode
  calls : Nat
  ran : List (Callback × UIDSet)
  owner : TimeoutId → Option Callback
  known : Finset IPV4Address
  heard : Finset IPV4Address
  missed : UID → Nat

/-- The discovery callbacks among what the node reports. -/
def results (reports : List Report) : List (Callback × UIDSet) :=
  reports.filterMap fun report =>
    match report with
    | .discovered callback uids => some (callback, uids)
    | _ => none

variable (state : DiscoveryRun)

namespace DiscoveryRun

variable (outcome : DiscoveryNode × List Report)

/-- The node did something. -/
def note : DiscoveryRun :=
  { state with
    node := outcome.1
    ran := state.ran ++ results outcome.2 }

/-- A discovery can begin. -/
def Ready : Prop :=
  state.node.running = true ∧ state.node.port.enabled = true ∧
    state.node.port.discoveryCallback = none

instance (state : DiscoveryRun) : Decidable state.Ready := inferInstanceAs (Decidable (_ ∧ _ ∧ _))

def begin : DiscoveryRun :=
  { state with
    owner := Function.update state.owner state.node.nextTimeout (some state.calls)
    known := state.node.port.subscribedNodes
    heard := ∅
    missed := fun uid => state.missed uid + 1 }

def call : DiscoveryRun :=
  { (if state.Ready then state.begin else state).note outcome with calls := state.calls + 1 }

/-- The UIDs of a TOD were just seen. -/
def reset (missed : UID → Nat) (seen : List UID) (uid : UID) : Nat :=
  if uid ∈ seen then 0 else missed uid

def hear (source : IPV4Address) (seen : List UID) : DiscoveryRun :=
  { state with
    heard := insert source state.heard
    missed := reset state.missed seen }

def step (state : DiscoveryRun) : DiscoveryEvent → DiscoveryRun
  | .runFullDiscovery sent => state.call (state.node.runFullDiscovery state.calls sent)
  | .runIncrementalDiscovery sent =>
    state.call (state.node.runIncrementalDiscovery state.calls sent)
  | .nodes nodes =>
    { state with
      node := { state.node with port := { state.node.port with subscribedNodes := nodes } } }
  | .todData source packet packetSize =>
    let noted := state.note (state.node.handleTodData source packet packetSize)
    if state.node.accepts packet packetSize then
      noted.hear source (DiscoveryNode.received packet packetSize)
    else noted
  | .expire timeout => state.note (state.node.expire timeout)
  | .stop => state.note state.node.stop

/-- A new discovery is only asked for when there is none. -/
def OneAtATime (state : DiscoveryRun) : DiscoveryEvent → Prop
  | .runFullDiscovery _ | .runIncrementalDiscovery _ => state.node.port.discoveryCallback = none
  | _ => True

def ended (event : DiscoveryEvent) : List (Callback × UIDSet) :=
  (state.step event).ran.drop state.ran.length

/-- What may run a callback: that its discovery cannot begin or its packet is not sent, that all
nodes it knew were heard, that its timer expires, or that the node is stopped. -/
def MayEnd (state : DiscoveryRun) (callback : Callback) : DiscoveryEvent → Prop
  | .runFullDiscovery sent | .runIncrementalDiscovery sent =>
    callback = state.calls ∧ (sent = false ∨ ¬ state.Ready)
  | .nodes _ => False
  | .todData source packet packetSize =>
    let next := state.step (.todData source packet packetSize)
    next.known ⊆ next.heard
  | .expire timeout => state.owner timeout = some callback
  | .stop => True

/-- All callbacks but that of the discovery that is running have been run, and once, and the
running one has a timer. -/
def Once : Prop :=
  (∀ callback, (state.ran.map Prod.fst).count callback =
    if callback < state.calls ∧ state.node.port.discoveryCallback ≠ some callback then 1 else 0) ∧
  ∀ callback, state.node.port.discoveryCallback = some callback →
    ∃ timeout ∈ state.node.timeouts, state.owner timeout = some callback

/-- What an event should do. -/
def Completes (event : DiscoveryEvent) : Prop :=
  (state.step event).Once ∧
    ∀ result ∈ state.ended event, state.MayEnd result.1 event ∧
      ∀ uid ∈ result.2, (state.step event).missed uid < rdmMissedTodDataLimit.toNat

/-- What goes wrong: a discovery that fails or is stopped with a UID at the limit, which is not
dropped, and a timer that an earlier discovery left behind. -/
def Harmless (state : DiscoveryRun) : DiscoveryEvent → Prop
  | .runFullDiscovery sent | .runIncrementalDiscovery sent =>
    sent = false → state.Ready → ∀ uid entry, state.node.port.uids.lookup uid = some entry →
      entry.2 + 1 ≠ rdmMissedTodDataLimit
  | .expire timeout =>
    timeout ∈ state.node.timeouts → state.node.port.discoveryCallback.isSome →
      state.node.port.discoveryTimeout = some timeout
  | .stop => state.node.running = true → state.node.port.discoveryCallback.isSome →
      ∀ uid entry, state.node.port.uids.lookup uid = some entry →
        entry.2 ≠ rdmMissedTodDataLimit
  | _ => True

/-! ### What the node can do -/

end DiscoveryRun

@[simp] theorem results_append (first second : List Report) :
    results (first ++ second) = results first ++ results second := filterMap_append

@[simp] theorem results_runTodCallback (port : InputPort) : results port.runTodCallback = [] := by
  unfold InputPort.runTodCallback
  split <;> rfl

/-- The discovery that is running, if there is one, comes to its end. -/
structure Finishes (node : DiscoveryNode) (outcome : DiscoveryNode × List Report) : Prop where
  callback : outcome.1.port.discoveryCallback = none
  results : results outcome.2 = node.port.discoveryCallback.toList.map
    (fun callback => (callback, outcome.1.port.uids.uidSet))
  timeouts : outcome.1.timeouts.Sublist node.timeouts
  nextTimeout : outcome.1.nextTimeout = node.nextTimeout

/-- It goes on. -/
structure Continues (node : DiscoveryNode) (outcome : DiscoveryNode × List Report) : Prop where
  callback : outcome.1.port.discoveryCallback = node.port.discoveryCallback
  results : results outcome.2 = []
  timeout : outcome.1.port.discoveryTimeout = node.port.discoveryTimeout
  timeouts : outcome.1.timeouts = node.timeouts
  nextTimeout : outcome.1.nextTimeout = node.nextTimeout

variable {node : DiscoveryNode}

namespace DiscoveryNode

theorem finishes_runDiscoveryCallback (node : DiscoveryNode) :
    Finishes node node.runDiscoveryCallback := by
  unfold runDiscoveryCallback InputPort.runDiscoveryCallback
  cases running : node.port.discoveryCallback with
  | none => exact ⟨running, by rw [running]; rfl, List.Sublist.refl _, rfl⟩
  | some callback => exact ⟨rfl, by rw [running]; rfl, List.Sublist.refl _, rfl⟩

theorem finishes_releaseDiscoveryLock (node : DiscoveryNode) :
    Finishes node node.releaseDiscoveryLock :=
  have finishes := finishes_runDiscoveryCallback _
  { finishes with }

theorem removeTimeout_timeouts (node : DiscoveryNode) :
    node.removeTimeout.timeouts.Sublist node.timeouts := by
  unfold removeTimeout
  cases node.port.discoveryTimeout with
  | none => exact List.Sublist.refl _
  | some timeout => exact erase_sublist

@[simp] theorem removeTimeout_nextTimeout (node : DiscoveryNode) :
    node.removeTimeout.nextTimeout = node.nextTimeout := by
  unfold removeTimeout
  cases node.port.discoveryTimeout <;> rfl

theorem finishes_expire {timeout : TimeoutId} (registered : timeout ∈ node.timeouts) :
    Finishes node (node.expire timeout) := by
  rw [expire, if_pos registered]
  have finishes := finishes_releaseDiscoveryLock
    { node with timeouts := node.timeouts.erase timeout }
  exact { finishes with timeouts := finishes.timeouts.trans erase_sublist }

theorem finishes_stop (running : node.running = true) : Finishes node node.stop := by
  rw [stop, if_pos running]
  have finishes := finishes_runDiscoveryCallback { node.removeTimeout with
    running := false
    port := { node.removeTimeout.port with discoveryTimeout := none } }
  have port := removeTimeout_port node
  refine ⟨finishes.callback, ?_, finishes.timeouts.trans (removeTimeout_timeouts node), ?_⟩
  · rw [finishes.results, ← port]
  · exact removeTimeout_nextTimeout node

theorem stop_uids (node : DiscoveryNode) : node.stop.1.port.uids = node.port.uids := by
  unfold stop
  split
  · rw [runDiscoveryCallback_uids]
    rw [removeTimeout_port]
  · rfl

/-- A node that is marked as complete ends the discovery if it is the last one. -/
theorem markComplete_cases (node : DiscoveryNode) (source : IPV4Address) :
    (Continues node (node.markComplete source) ∧
      (node.markComplete source).1.port.uids = node.port.uids ∧
      ∀ other ∈ node.port.discoveryNodeSet, other ≠ source →
        other ∈ (node.markComplete source).1.port.discoveryNodeSet) ∨
    (Finishes node (node.markComplete source) ∧
      (node.markComplete source).1.port.uids =
        FiniteMap.filter (fun uid entry => !missed uid entry) node.port.uids ∧
      ∀ other ∈ node.port.discoveryNodeSet, other = source) := by
  unfold markComplete
  dsimp only
  split
  · split
    · rename_i last
      apply Or.inr
      have finishes := finishes_releaseDiscoveryLock (removeTimeout { node with
        port := { node.port with
          discoveryNodeSet := node.port.discoveryNodeSet.erase source } })
      refine ⟨⟨finishes.callback, ?_, ?_, ?_⟩, ?_, ?_⟩
      · rw [finishes.results, removeTimeout_port]
      · exact finishes.timeouts.trans (removeTimeout_timeouts _)
      · rw [finishes.nextTimeout, removeTimeout_nextTimeout]
      · rw [releaseDiscoveryLock_uids, removeTimeout_port]
      · intro other member
        by_contra different
        have remains := Finset.mem_erase.mpr ⟨different, member⟩
        rw [last.1] at remains
        exact Finset.notMem_empty other remains
    · exact Or.inl ⟨⟨rfl, rfl, rfl, rfl, rfl⟩, rfl,
        fun other member different => Finset.mem_erase.mpr ⟨different, member⟩⟩
  · exact Or.inl ⟨⟨rfl, rfl, rfl, rfl, rfl⟩, rfl, fun _ member _ => member⟩

/-- What a TOD can do. -/
theorem updatePortFromTodPacket_cases (node : DiscoveryNode) (source : IPV4Address)
    (packet : TodData) (packetSize : Nat) :
    let outcome := node.updatePortFromTodPacket source packet packetSize
    let known := known node.port.uids source packet packetSize
    (Continues node outcome ∧ outcome.1.port.uids = known ∧
      ∀ other ∈ node.port.discoveryNodeSet, other ≠ source →
        other ∈ outcome.1.port.discoveryNodeSet) ∨
    (Finishes node outcome ∧
      outcome.1.port.uids = FiniteMap.filter (fun uid entry => !missed uid entry) known ∧
      ∀ other ∈ node.port.discoveryNodeSet, other = source) := by
  unfold updatePortFromTodPacket known
  by_cases whole : complete packet packetSize = true
  · simp only [if_pos whole]
    rcases markComplete_cases { node with
        port := { node.port with
          uids := FiniteMap.filter
            (fun uid entry => !gone source (received packet packetSize) uid entry)
            (see source (received packet packetSize) node.port.uids) } } source with
      ⟨continues, uids, others⟩ | ⟨finishes, uids, others⟩
    · apply Or.inl
      split
      · exact ⟨{ continues with }, uids, others⟩
      · refine ⟨⟨continues.callback, ?_, continues.timeout, continues.timeouts,
          continues.nextTimeout⟩, uids, others⟩
        rw [results_append, continues.results, results_runTodCallback]
        rfl
    · apply Or.inr
      rw [if_neg (by rw [finishes.callback]; decide)]
      refine ⟨⟨finishes.callback, ?_, finishes.timeouts, finishes.nextTimeout⟩, uids, others⟩
      rw [results_append, finishes.results, results_runTodCallback, append_nil]
  · simp only [if_neg whole]
    apply Or.inl
    split
    · exact ⟨⟨rfl, rfl, rfl, rfl, rfl⟩, rfl, fun _ member _ => member⟩
    · exact ⟨⟨rfl, results_runTodCallback _, rfl, rfl, rfl⟩, rfl, fun _ member _ => member⟩

end DiscoveryNode

/-! ### The counters -/

/-- The counters of the UIDs count the discoveries that missed them, up to a bound. -/
def Counted (bound : Nat) (missed : UID → Nat) (uids : UidMap) : Prop :=
  ∀ uid entry, uids.lookup uid = some entry → entry.2.toNat = missed uid ∧ missed uid ≤ bound

section Counted
variable {bound : Nat} {missed : UID → Nat} {uids : UidMap}

theorem UidMap.mem_uidSet {uid : UID} : uid ∈ uids.uidSet ↔ ∃ entry, uids.lookup uid = some entry := by
  unfold UidMap.uidSet
  rw [mem_toFinset, ← AList.mem_keys, ← AList.lookup_isSome, Option.isSome_iff_exists]

theorem Counted.filter (counted : Counted bound missed uids)
    (check : UID → IPV4Address × UInt8 → Bool) :
    Counted bound missed (FiniteMap.filter check uids) := by
  intro uid entry found
  rw [FiniteMap.lookup_filter] at found
  exact counted uid entry (Option.filter_eq_some_iff.mp found).1

/-- A discovery counts one more, below the limit. -/
theorem Counted.increment {limit : Nat} (counted : Counted bound missed uids)
    (small : bound < 255)
    (below : ∀ uid entry, uids.lookup uid = some entry → missed uid + 1 ≤ limit) :
    Counted limit (fun uid => missed uid + 1)
      (FiniteMap.mapValues (fun entry => (entry.1, entry.2 + 1)) uids) := by
  intro uid entry found
  rw [FiniteMap.lookup_mapValues] at found
  obtain ⟨old, present, rfl⟩ := Option.map_eq_some_iff.mp found
  obtain ⟨same, within⟩ := counted uid old present
  refine ⟨?_, below uid old present⟩
  have one : (1 : UInt8).toNat = 1 := rfl
  rw [UInt8.toNat_add, one, same]
  show (missed uid + 1) % 256 = missed uid + 1
  omega

/-- The UIDs at the limit are dropped. -/
theorem Counted.release (counted : Counted rdmMissedTodDataLimit.toNat missed uids) :
    Counted 2 missed (FiniteMap.filter (fun uid entry => !ArtNet.missed uid entry) uids) := by
  intro uid entry found
  rw [FiniteMap.lookup_filter] at found
  obtain ⟨present, kept⟩ := Option.filter_eq_some_iff.mp found
  obtain ⟨same, within⟩ := counted uid entry present
  refine ⟨same, ?_⟩
  have different : entry.2.toNat ≠ rdmMissedTodDataLimit.toNat := by
    intro equal
    have limit := UInt8.toNat_inj.mp equal
    simp [ArtNet.missed, limit] at kept
  have limit : rdmMissedTodDataLimit.toNat = 3 := rfl
  omega

/-- The UIDs of a TOD start again. -/
theorem Counted.known (counted : Counted bound missed uids) (source : IPV4Address)
    (packet : TodData) (packetSize : Nat) :
    Counted bound (DiscoveryRun.reset missed (DiscoveryNode.received packet packetSize))
      (DiscoveryNode.known uids source packet packetSize) := by
  have seeing : Counted bound
      (DiscoveryRun.reset missed (received packet packetSize))
      (see source (received packet packetSize) uids) := by
    intro uid entry found
    rw [lookup_see] at found
    unfold DiscoveryRun.reset
    split at found
    · rename_i seen
      cases found
      rw [if_pos seen]
      exact ⟨rfl, Nat.zero_le bound⟩
    · rename_i unseen
      rw [if_neg unseen]
      exact counted uid entry found
  unfold DiscoveryNode.known
  split
  · exact seeing.filter _
  · exact seeing

theorem Counted.mono (counted : Counted bound missed uids) {larger : Nat} (le : bound ≤ larger) :
    Counted larger missed uids := by
  intro uid entry found
  have count := counted uid entry found
  exact ⟨count.1, Nat.le_trans count.2 le⟩

end Counted

namespace DiscoveryRun

/-- What permitted steps keep. -/
structure Tracked (state : DiscoveryRun) : Prop where
  fresh : ∀ timeout ∈ state.node.timeouts, timeout < state.node.nextTimeout
  owners : ∀ timeout callback, state.owner timeout = some callback →
    timeout < state.node.nextTimeout ∧ callback < state.calls
  running : ∀ callback, state.node.port.discoveryCallback = some callback →
    callback < state.calls ∧ ∃ timeout ∈ state.node.timeouts,
      state.node.port.discoveryTimeout = some timeout ∧
        ∀ other, state.owner other = some callback ↔ other = timeout
  nodes : state.node.port.discoveryCallback.isSome →
    ∀ other ∈ state.known, other ∉ state.node.port.discoveryNodeSet → other ∈ state.heard
  counted : Counted rdmMissedTodDataLimit.toNat state.missed state.node.port.uids
  idle : state.node.port.discoveryCallback = none →
    Counted 2 state.missed state.node.port.uids
  ran : ∀ callback, (state.ran.map Prod.fst).count callback =
    if callback < state.calls ∧ state.node.port.discoveryCallback ≠ some callback then 1 else 0

theorem Tracked.once {state : DiscoveryRun} (tracked : Tracked state) : state.Once := by
  refine ⟨tracked.ran, ?_⟩
  intro callback running
  obtain ⟨_, timeout, registered, _, owner⟩ := tracked.running callback running
  exact ⟨timeout, registered, (owner timeout).mpr rfl⟩

section Steps
variable {state : DiscoveryRun}

variable {outcome : DiscoveryNode × List Report} {missed : UID → Nat}

/-- The callback of a discovery that ends joins those that were run. -/
theorem Tracked.finished (tracked : Tracked state) (finishes : Finishes state.node outcome)
    {heard : Finset IPV4Address} (counted : Counted 2 missed outcome.1.port.uids) :
    Tracked { state.note outcome with
      heard := heard
      missed := missed } where
  fresh timeout member := by
    show timeout < outcome.1.nextTimeout
    rw [finishes.nextTimeout]
    exact tracked.fresh timeout (finishes.timeouts.subset member)
  owners timeout callback owner := by
    show timeout < outcome.1.nextTimeout ∧ callback < state.calls
    rw [finishes.nextTimeout]
    exact tracked.owners timeout callback owner
  running callback running := by
    have ended := finishes.callback.symm.trans running
    cases ended
  nodes running := by
    have ended : outcome.1.port.discoveryCallback.isSome = true := running
    rw [finishes.callback] at ended
    cases ended
  counted := counted.mono (by decide)
  idle _ := counted
  ran callback := by
    show ((state.ran ++ results outcome.2).map Prod.fst).count callback =
      if callback < state.calls ∧ outcome.1.port.discoveryCallback ≠ some callback then 1 else 0
    rw [finishes.results, finishes.callback, map_append, count_append,
      tracked.ran callback]
    cases running : state.node.port.discoveryCallback with
    | none => simp
    | some last =>
      have counted := (tracked.running last running).1
      by_cases same : callback = last
      · subst same
        simp [counted]
      · have other : last ≠ callback := fun equal => same equal.symm
        simp [other]

/-- A discovery that goes on keeps its timer. -/
theorem Tracked.continued (tracked : Tracked state) (continues : Continues state.node outcome)
    {heard : Finset IPV4Address}
    (nodes : ∀ other ∈ state.known, other ∉ outcome.1.port.discoveryNodeSet →
      state.node.port.discoveryCallback.isSome → other ∈ heard)
    (counted : ∀ bound, Counted bound state.missed state.node.port.uids →
      Counted bound missed outcome.1.port.uids) :
    Tracked { state.note outcome with
      heard := heard
      missed := missed } where
  fresh timeout member := by
    show timeout < outcome.1.nextTimeout
    rw [continues.nextTimeout]
    exact tracked.fresh timeout (continues.timeouts ▸ member)
  owners timeout callback owner := by
    show timeout < outcome.1.nextTimeout ∧ callback < state.calls
    rw [continues.nextTimeout]
    exact tracked.owners timeout callback owner
  running callback running := by
    show callback < state.calls ∧ ∃ timeout ∈ outcome.1.timeouts,
      outcome.1.port.discoveryTimeout = some timeout ∧
        ∀ other, state.owner other = some callback ↔ other = timeout
    rw [continues.timeouts, continues.timeout]
    exact tracked.running callback (continues.callback.symm.trans running)
  nodes running other member absent := by
    have still : outcome.1.port.discoveryCallback.isSome = true := running
    rw [continues.callback] at still
    exact nodes other member absent still
  counted := counted _ tracked.counted
  idle ended := counted _ (tracked.idle (continues.callback.symm.trans ended))
  ran callback := by
    show ((state.ran ++ results outcome.2).map Prod.fst).count callback =
      if callback < state.calls ∧ outcome.1.port.discoveryCallback ≠ some callback then 1 else 0
    rw [continues.results, append_nil, continues.callback]
    exact tracked.ran callback

/-- The state when the packet of a discovery is to be sent. -/
def started (state : DiscoveryRun) : DiscoveryRun :=
  { state.begin with
    node := state.node.startDiscoveryProcess state.calls
    calls := state.calls + 1 }

/-- A discovery registers a timer of its own. -/
theorem Tracked.started (tracked : Tracked state)
    (idle : state.node.port.discoveryCallback = none) : Tracked state.started where
  fresh timeout member := by
    rcases mem_append.mp member with old | new
    · exact Nat.lt_succ_of_lt (tracked.fresh timeout old)
    · rw [mem_singleton.mp new]
      exact Nat.lt_succ_self state.node.nextTimeout
  owners timeout callback owner := by
    have owner : Function.update state.owner state.node.nextTimeout (some state.calls) timeout =
        some callback := owner
    by_cases new : timeout = state.node.nextTimeout
    · rw [new, Function.update_self] at owner
      cases owner
      rw [new]
      exact ⟨Nat.lt_succ_self _, Nat.lt_succ_self _⟩
    · rw [Function.update_of_ne new] at owner
      have bounds := tracked.owners timeout callback owner
      exact ⟨Nat.lt_succ_of_lt bounds.1, Nat.lt_succ_of_lt bounds.2⟩
  running callback running := by
    cases running
    refine ⟨Nat.lt_succ_self state.calls, state.node.nextTimeout,
      mem_append_right _ mem_cons_self, rfl, ?_⟩
    intro other
    show Function.update state.owner state.node.nextTimeout (some state.calls) other =
      some state.calls ↔ other = state.node.nextTimeout
    by_cases new : other = state.node.nextTimeout
    · simp [new]
    · rw [Function.update_of_ne new]
      constructor
      · intro owner
        exact absurd (tracked.owners other state.calls owner).2 (Nat.lt_irrefl state.calls)
      · exact fun same => absurd same new
  nodes _ other member absent := absurd member absent
  counted := (tracked.idle idle).increment (by decide)
    (fun uid entry found => Nat.succ_le_succ (tracked.idle idle uid entry found).2)
  idle ended := by cases ended
  ran callback := by
    show (state.ran.map Prod.fst).count callback =
      if callback < state.calls + 1 ∧ some state.calls ≠ some callback then 1 else 0
    rw [tracked.ran callback, idle]
    by_cases last : callback = state.calls
    · simp [last]
    · have other : state.calls ≠ callback := fun equal => last equal.symm
      have same : callback < state.calls + 1 ↔ callback < state.calls :=
        ⟨fun below => Nat.lt_of_le_of_ne (Nat.lt_succ_iff.mp below) last, Nat.lt_succ_of_lt⟩
      simp [other, same]

/-! ### The events -/

theorem call_sent (packet : DiscoveryPacket) (ready : state.Ready) :
    state.call (DiscoveryNode.runDiscovery packet state.node state.calls true) =
      state.started := by
  have active : ¬ (state.node.running = false ∨ state.node.port.enabled = false) := by
    simp [ready.1, ready.2.1]
  have idle : ¬ state.node.port.discoveryCallback.isSome = true := by simp [ready.2.2]
  rw [call, runDiscovery, if_pos ready, if_neg active, if_neg idle, started, begin,
    note]
  simp [results]

theorem call_failed (packet : DiscoveryPacket) (ready : state.Ready) :
    state.call (DiscoveryNode.runDiscovery packet state.node state.calls false) =
      state.started.note state.started.node.runDiscoveryCallback := by
  have active : ¬ (state.node.running = false ∨ state.node.port.enabled = false) := by
    simp [ready.1, ready.2.1]
  have idle : ¬ state.node.port.discoveryCallback.isSome = true := by simp [ready.2.2]
  rw [call, runDiscovery, if_pos ready, if_neg active, if_neg idle]
  rfl

/-- On a node that is not running, or a port that is not enabled, the callback gets no UIDs. -/
theorem call_refused (packet : DiscoveryPacket) (sent : Bool)
    (idle : state.node.port.discoveryCallback = none) (refused : ¬ state.Ready) :
    state.call (DiscoveryNode.runDiscovery packet state.node state.calls sent) =
      { state with
        ran := state.ran ++ [(state.calls, ∅)]
        calls := state.calls + 1 } := by
  have inactive : state.node.running = false ∨ state.node.port.enabled = false := by
    unfold Ready at refused
    cases running : state.node.running <;> cases enabled : state.node.port.enabled <;>
      simp_all
  rw [call, runDiscovery, if_neg refused, if_pos inactive]
  rfl

theorem Tracked.refused (tracked : Tracked state)
    (idle : state.node.port.discoveryCallback = none) :
    Tracked { state with
      ran := state.ran ++ [(state.calls, ∅)]
      calls := state.calls + 1 } where
  fresh := tracked.fresh
  owners timeout callback owner :=
    have bounds := tracked.owners timeout callback owner
    ⟨bounds.1, Nat.lt_succ_of_lt bounds.2⟩
  running callback running := by
    have ended := idle.symm.trans running
    cases ended
  nodes := tracked.nodes
  counted := tracked.counted
  idle := tracked.idle
  ran callback := by
    rw [map_append, count_append, tracked.ran callback, idle]
    by_cases last : callback = state.calls
    · simp [last]
    · have other : state.calls ≠ callback := fun equal => last equal.symm
      have same : callback < state.calls + 1 ↔ callback < state.calls :=
        ⟨fun below => Nat.lt_of_le_of_ne (Nat.lt_succ_iff.mp below) last, Nat.lt_succ_of_lt⟩
      simp [other, same]

/-- What is run when a discovery ends: its callback, with UIDs below the limit. -/
theorem results_of_finishes (finishes : Finishes node outcome)
    (counted : Counted 2 missed outcome.1.port.uids) :
    ∀ result ∈ results outcome.2, node.port.discoveryCallback = some result.1 ∧
      ∀ uid ∈ result.2, missed uid < rdmMissedTodDataLimit.toNat := by
  intro result member
  rw [finishes.results] at member
  obtain ⟨callback, running, rfl⟩ := mem_map.mp member
  refine ⟨Option.mem_toList.mp running, ?_⟩
  intro uid inside
  obtain ⟨entry, found⟩ := UidMap.mem_uidSet.mp inside
  exact Nat.lt_succ_of_le (counted uid entry found).2

theorem result_at_limit (finishes : Finishes node outcome) {callback : Callback}
    (running : node.port.discoveryCallback = some callback) {uid : UID}
    {entry : IPV4Address × UInt8} (found : outcome.1.port.uids.lookup uid = some entry) :
    ∃ result ∈ results outcome.2, uid ∈ result.2 := by
  refine ⟨(callback, outcome.1.port.uids.uidSet), ?_, UidMap.mem_uidSet.mpr ⟨entry, found⟩⟩
  rw [finishes.results, running]
  exact mem_cons_self

theorem drop_note (outcome : DiscoveryNode × List Report) :
    (state.note outcome).ran.drop state.ran.length = results outcome.2 := drop_left

theorem started_callback : state.started.node.port.discoveryCallback = some state.calls := rfl

section
variable (tracked : Tracked state)
include tracked

section

variable (idle : state.node.port.discoveryCallback = none)
include idle

/-- The counters right after the start of a discovery that fails. -/
theorem Tracked.counted_started
    (below : ∀ uid entry, state.node.port.uids.lookup uid = some entry →
      entry.2 + 1 ≠ rdmMissedTodDataLimit) :
    Counted 2 state.started.missed state.started.node.runDiscoveryCallback.1.port.uids := by
  apply (tracked.idle idle).increment (by decide)
  intro uid entry found
  have count := tracked.idle idle uid entry found
  have different : entry.2.toNat ≠ 2 := by
    intro equal
    have two : entry.2 = 2 := UInt8.toNat_inj.mp equal
    exact below uid entry found (by rw [two]; rfl)
  omega

theorem Tracked.call (packet : DiscoveryPacket) (sent : Bool)
    (harmless : sent = false → state.Ready → ∀ uid entry,
      state.node.port.uids.lookup uid = some entry → entry.2 + 1 ≠ rdmMissedTodDataLimit) :
    let next := state.call (runDiscovery packet state.node state.calls sent)
    Tracked next ∧ ∀ result ∈ next.ran.drop state.ran.length,
      (result.1 = state.calls ∧ (sent = false ∨ ¬ state.Ready)) ∧
        ∀ uid ∈ result.2, next.missed uid < rdmMissedTodDataLimit.toNat := by
  by_cases ready : state.Ready
  · cases sent with
    | true =>
      rw [call_sent packet ready]
      refine ⟨tracked.started idle, ?_⟩
      intro result member
      have none : state.started.ran.drop state.ran.length = [] := drop_length
      rw [none] at member
      exact absurd member not_mem_nil
    | false =>
      rw [call_failed packet ready]
      have finishes := finishes_runDiscoveryCallback state.started.node
      have counted := tracked.counted_started idle (harmless rfl ready)
      refine ⟨(tracked.started idle).finished finishes counted, ?_⟩
      intro result member
      have member : result ∈ results state.started.node.runDiscoveryCallback.2 := by
        rwa [← state.started.drop_note]
      have ended := results_of_finishes finishes counted result member
      rw [started_callback] at ended
      exact ⟨⟨(Option.some.inj ended.1).symm, Or.inl rfl⟩, ended.2⟩
  · rw [call_refused packet sent idle ready]
    refine ⟨tracked.refused idle, ?_⟩
    intro result member
    have member : result ∈ [(state.calls, (∅ : UIDSet))] := by
      rwa [← @List.drop_left _ state.ran [(state.calls, ∅)]]
    rw [mem_singleton.mp member]
    exact ⟨⟨rfl, Or.inr ready⟩, fun uid inside => absurd inside (Finset.notMem_empty uid)⟩

/-- A discovery that fails does not drop the UIDs it missed once too often. -/
theorem Tracked.call_spoiled (packet : DiscoveryPacket) (ready : state.Ready) {uid : UID}
    {entry : IPV4Address × UInt8} (found : state.node.port.uids.lookup uid = some entry)
    (limit : entry.2 + 1 = rdmMissedTodDataLimit) :
    let next := state.call (runDiscovery packet state.node state.calls false)
    ∃ result ∈ next.ran.drop state.ran.length, ∃ uid ∈ result.2,
      ¬ next.missed uid < rdmMissedTodDataLimit.toNat := by
  rw [call_failed packet ready]
  have finishes := finishes_runDiscoveryCallback state.started.node
  have counted : state.started.node.runDiscoveryCallback.1.port.uids.lookup uid =
      some (entry.1, entry.2 + 1) := by
    show (FiniteMap.mapValues _ state.node.port.uids).lookup uid = _
    rw [FiniteMap.lookup_mapValues, found]
    rfl
  obtain ⟨result, member, inside⟩ := result_at_limit finishes started_callback counted
  refine ⟨result, ?_, uid, inside, ?_⟩
  · have same := state.started.drop_note state.started.node.runDiscoveryCallback
    rw [← same] at member
    exact member
  · have count := (tracked.idle idle uid entry found).1
    have two : entry.2 = 2 := by
      have back := congrArg (· - 1) limit
      simpa [rdmMissedTodDataLimit] using back
    have twoNat : entry.2.toNat = 2 := by rw [two]; rfl
    show ¬ state.missed uid + 1 < 3
    omega

end

/-- The node does nothing. -/
theorem Tracked.unchanged :
    Tracked (state.note (state.node, [])) ∧
      ∀ result, result ∉ (state.note (state.node, [])).ran.drop state.ran.length := by
  refine ⟨?_, ?_⟩
  · have continues : Continues state.node (state.node, []) := ⟨rfl, rfl, rfl, rfl, rfl⟩
    exact tracked.continued continues
      (fun other member absent running => tracked.nodes running other member absent)
      (fun _ counted => counted)
  · intro result member
    rw [drop_note] at member
    exact not_mem_nil member

theorem Tracked.todData (source : IPV4Address) (packet : TodData) (packetSize : Nat) :
    Tracked (state.step (.todData source packet packetSize)) ∧
      ∀ result ∈ state.ended (.todData source packet packetSize),
        state.MayEnd result.1 (.todData source packet packetSize) ∧
          ∀ uid ∈ result.2, (state.step (.todData source packet packetSize)).missed uid <
            rdmMissedTodDataLimit.toNat := by
  unfold ended MayEnd step
  dsimp only
  by_cases accepted : state.node.accepts packet packetSize = true
  · rw [if_pos accepted, handleTodData, if_pos accepted]
    let outcome := state.node.updatePortFromTodPacket source packet packetSize
    have same : ∀ result, result ∈
        ((state.note outcome).hear source (received packet packetSize)).ran.drop
          state.ran.length ↔ result ∈ results outcome.2 := by
      intro result
      show result ∈ (state.note outcome).ran.drop state.ran.length ↔ _
      rw [drop_note]
    -- A known node that is not waited for was heard before.
    have before : state.node.port.discoveryCallback.isSome → ∀ other ∈ state.known,
        (other ∈ state.node.port.discoveryNodeSet → other = source) →
          other ∈ insert source state.heard := by
      intro running other member last
      rw [Finset.mem_insert]
      by_cases waiting : other ∈ state.node.port.discoveryNodeSet
      · exact Or.inl (last waiting)
      · exact Or.inr (tracked.nodes running other member waiting)
    rcases state.node.updatePortFromTodPacket_cases source packet packetSize with
      ⟨continues, uids, others⟩ | ⟨finishes, uids, others⟩
    · refine ⟨?_, ?_⟩
      · apply tracked.continued continues
        · intro other member absent running
          apply before running other member
          intro waiting
          by_contra different
          exact absent (others other waiting different)
        · intro bound counted
          rw [uids]
          exact counted.known source packet packetSize
      · intro result member
        rw [same, continues.results] at member
        exact absurd member not_mem_nil
    · have counted : Counted 2
          (reset state.missed (received packet packetSize)) outcome.1.port.uids := by
        rw [uids]
        exact (tracked.counted.known source packet packetSize).release
      refine ⟨tracked.finished finishes counted, ?_⟩
      intro result member
      rw [same] at member
      obtain ⟨running, below⟩ := results_of_finishes finishes counted result member
      refine ⟨?_, below⟩
      intro other member
      apply before _ other member (others other)
      rw [running]
      rfl
  · rw [if_neg accepted, handleTodData, if_neg accepted]
    exact ⟨tracked.unchanged.1, fun result member => absurd member (tracked.unchanged.2 result)⟩

theorem Tracked.expire (timeout : TimeoutId) :
    (state.Harmless (.expire timeout) → Tracked (state.step (.expire timeout))) ∧
      ((∀ result ∈ state.ended (.expire timeout), state.MayEnd result.1 (.expire timeout) ∧
          ∀ uid ∈ result.2, (state.step (.expire timeout)).missed uid <
            rdmMissedTodDataLimit.toNat) ↔ state.Harmless (.expire timeout)) := by
  unfold ended MayEnd Harmless step
  dsimp only
  by_cases registered : timeout ∈ state.node.timeouts
  · have finishes := finishes_expire registered
    have uids : (state.node.expire timeout).1.port.uids =
        FiniteMap.filter (fun uid entry => !ArtNet.missed uid entry) state.node.port.uids := by
      rw [DiscoveryNode.expire, if_pos registered]
      exact DiscoveryNode.releaseDiscoveryLock_uids _
    have counted : Counted 2 state.missed (state.node.expire timeout).1.port.uids := by
      rw [uids]
      exact tracked.counted.release
    rw [drop_note]
    refine ⟨fun _ => tracked.finished finishes counted, ?_⟩
    constructor
    · intro owned _ running
      obtain ⟨callback, running⟩ := Option.isSome_iff_exists.mp running
      obtain ⟨_, own, _, waiting, owner⟩ := tracked.running callback running
      have result := (owned (callback, (state.node.expire timeout).1.port.uids.uidSet) (by
        rw [finishes.results, running]
        exact mem_cons_self)).1
      rw [waiting, (owner timeout).mp result]
    · intro harmless result member
      obtain ⟨running, below⟩ := results_of_finishes finishes counted result member
      refine ⟨?_, below⟩
      obtain ⟨_, own, _, waiting, owner⟩ := tracked.running result.1 running
      have this := harmless registered (by rw [running]; rfl)
      rw [waiting] at this
      exact (owner timeout).mpr (Option.some.inj this).symm
  · rw [DiscoveryNode.expire, if_neg registered]
    refine ⟨fun _ => tracked.unchanged.1, ?_⟩
    constructor
    · exact fun _ present => absurd present registered
    · exact fun _ result member => absurd member (tracked.unchanged.2 result)

theorem Tracked.stop :
    (state.Harmless .stop → Tracked (state.step .stop)) ∧
      ((∀ result ∈ state.ended .stop, state.MayEnd result.1 .stop ∧
          ∀ uid ∈ result.2, (state.step .stop).missed uid < rdmMissedTodDataLimit.toNat) ↔
        state.Harmless .stop) := by
  unfold ended MayEnd Harmless step
  by_cases active : state.node.running = true
  · have finishes := finishes_stop active
    have uids := state.node.stop_uids
    have counted (harmless : state.node.port.discoveryCallback.isSome = true →
        ∀ uid entry, state.node.port.uids.lookup uid = some entry →
          entry.2 ≠ rdmMissedTodDataLimit) : Counted 2 state.missed state.node.stop.1.port.uids := by
      rw [uids]
      cases running : state.node.port.discoveryCallback with
      | none => exact tracked.idle running
      | some callback =>
        intro uid entry found
        obtain ⟨same, within⟩ := tracked.counted uid entry found
        have different : entry.2.toNat ≠ 3 := by
          intro equal
          exact harmless (by rw [running]; rfl) uid entry found (UInt8.toNat_inj.mp equal)
        have limit : rdmMissedTodDataLimit.toNat = 3 := rfl
        exact ⟨same, by omega⟩
    rw [drop_note]
    refine ⟨fun harmless => tracked.finished finishes (counted (harmless active)), ?_⟩
    constructor
    · intro below _ running uid entry found limit
      obtain ⟨callback, running⟩ := Option.isSome_iff_exists.mp running
      rw [← uids] at found
      obtain ⟨result, member, inside⟩ := result_at_limit finishes running found
      have small := (below result member).2 uid inside
      rw [uids] at found
      have count := (tracked.counted uid entry found).1
      rw [limit] at count
      have small : state.missed uid < rdmMissedTodDataLimit.toNat := small
      omega
    · intro harmless result member
      exact ⟨trivial,
        (results_of_finishes finishes (counted (harmless active)) result member).2⟩
  · rw [DiscoveryNode.stop, if_neg active]
    refine ⟨fun _ => tracked.unchanged.1, ?_⟩
    constructor
    · exact fun _ running => absurd running active
    · exact fun _ result member => absurd member (tracked.unchanged.2 result)

end

/-- What a step keeps and does. -/
theorem Tracked.step (tracked : Tracked state) (event : DiscoveryEvent)
    (oneAtATime : state.OneAtATime event) :
    (state.Harmless event → Tracked (state.step event)) ∧
      ((∀ result ∈ state.ended event, state.MayEnd result.1 event ∧
          ∀ uid ∈ result.2, (state.step event).missed uid < rdmMissedTodDataLimit.toNat) ↔
        state.Harmless event) := by
  have discovery (packet : DiscoveryPacket) (sent : Bool)
      (idle : state.node.port.discoveryCallback = none) :
      let next := state.call (runDiscovery packet state.node state.calls sent)
      let Harmless := sent = false → state.Ready → ∀ uid entry,
        state.node.port.uids.lookup uid = some entry → entry.2 + 1 ≠ rdmMissedTodDataLimit
      (Harmless → Tracked next) ∧ ((∀ result ∈ next.ran.drop state.ran.length,
        (result.1 = state.calls ∧ (sent = false ∨ ¬ state.Ready)) ∧
          ∀ uid ∈ result.2, next.missed uid < rdmMissedTodDataLimit.toNat) ↔ Harmless) := by
    refine ⟨fun harmless => (tracked.call idle packet sent harmless).1, ?_⟩
    constructor
    · intro below failed ready uid entry found limit
      subst failed
      obtain ⟨result, member, uid, inside, reached⟩ :=
        tracked.call_spoiled idle packet ready found limit
      exact reached ((below result member).2 uid inside)
    · exact fun harmless => (tracked.call idle packet sent harmless).2
  cases event with
  | runFullDiscovery sent | runIncrementalDiscovery sent => exact discovery _ sent oneAtATime
  | nodes nodes =>
    refine ⟨fun _ => { tracked with }, ?_⟩
    have none : state.ended (.nodes nodes) = [] := drop_length
    rw [none]
    exact ⟨fun _ => trivial, fun _ result member => absurd member not_mem_nil⟩
  | todData source packet packetSize =>
    have todData := tracked.todData source packet packetSize
    exact ⟨fun _ => todData.1, fun _ => trivial, fun _ => todData.2⟩
  | expire timeout => exact tracked.expire timeout
  | stop => exact tracked.stop

end Steps

def new (enabled todCallback : Bool) (netAddress portAddress : UInt8) : DiscoveryRun where
  node := ⟨true, netAddress, ⟨enabled, portAddress, ∅, ∅, todCallback, none, ∅, none⟩, [], 0⟩
  calls := 0
  ran := []
  owner _ := none
  known := ∅
  heard := ∅
  missed _ := 0

theorem tracked_new (enabled todCallback : Bool) (netAddress portAddress : UInt8) :
    Tracked (new enabled todCallback netAddress portAddress) where
  fresh timeout member := absurd member not_mem_nil
  owners timeout callback owner := by cases owner
  running callback running := by cases running
  nodes running := by cases running
  counted uid entry found := by cases found
  idle _ uid entry found := by cases found
  ran callback := by
    symm
    apply if_neg
    exact fun both => Nat.not_lt_zero callback both.1

/-- Every event of a run does what it should if and only if none is harmful. -/
theorem completes_iff_harmless (enabled todCallback : Bool) (netAddress portAddress : UInt8)
    (events : List DiscoveryEvent)
    (oneAtATime : Permitted step OneAtATime (new enabled todCallback netAddress portAddress)
      events) :
    (∀ past event future, events = past ++ event :: future →
      (run step (new enabled todCallback netAddress portAddress) past).Completes event) ↔
    Permitted step Harmless (new enabled todCallback netAddress portAddress) events := by
  apply @steps_iff_permitted_within _ _ step OneAtATime Harmless Completes Tracked
  · exact fun state event tracked side harmless => (tracked.step event side).1 harmless
  · intro state event tracked side
    obtain ⟨keeps, does⟩ := tracked.step event side
    constructor
    · exact fun completes => does.mp completes.2
    · exact fun harmless => ⟨(keeps harmless).once, does.mpr harmless⟩
  · exact tracked_new enabled todCallback netAddress portAddress
  · exact oneAtATime

theorem completes_timeout :
    (run step (new true true 0 1) [.runFullDiscovery true]).Completes (.expire 0) :=
  (completes_iff_harmless true true 0 1 [.runFullDiscovery true, .expire 0]
    ⟨rfl, trivial, trivial⟩).mpr ⟨fun failed => (by cases failed), fun _ _ => rfl, trivial⟩
    [.runFullDiscovery true] (.expire 0) [] rfl

/-- The timer of a discovery whose packet could not be sent ends the next one. -/
theorem timer_of_another_discovery :
    Permitted step OneAtATime (new true true 0 1)
      [.runFullDiscovery false, .runFullDiscovery true, .expire 0] ∧
    ¬ (run step (new true true 0 1) [.runFullDiscovery false, .runFullDiscovery true]).Completes
      (.expire 0) := by
  refine ⟨⟨rfl, rfl, trivial, trivial⟩, ?_⟩
  intro completes
  have owner := (completes.2 (1, ∅) List.mem_cons_self).1
  cases owner

end DiscoveryRun

end OpenLighting.ArtNet
