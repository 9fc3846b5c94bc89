import OpenLighting.TransitionSystem
import OpenLighting.Universe

namespace OpenLighting.Universe

open TransitionSystem List

variable (port : OutputPort) (uids : AList (fun _ : UID => OutputPort))

/-- One UID of the second loop of `NewUIDList`: a UID that another port has is left
to that port. -/
def claimUid (uid : UID) : AList (fun _ : UID => OutputPort) :=
  match uids.lookup uid with
  | none => uids.insert uid port
  | some _ => uids

variable (state : Universe)

def newUIDList (port : OutputPort) (uids : UIDSet) : Universe :=
  let kept := keepUids state.outputUids (fun uid target => !(target == port && decide (uid ∉ uids)))
  { state with outputUids := (UIDSet.ascending uids).foldl (claimUid port) kept }

def getUIDs : UIDSet := state.outputUids.keys.toFinset

/-- A `RunRDMDiscovery` that has not completed: its `MultiCallback`, and the ports
that have yet to run their callback. -/
structure Discovery where
  number : Nat
  onComplete : Bool
  limit : Nat
  count : Nat
  waiting : List OutputPort

/-- The UIDs given to the callback of a `RunRDMDiscovery`. -/
structure Completion where
  number : Nat
  uids : UIDSet

/-- A universe and the discoveries that are under way on its ports. -/
structure World where
  state : Universe
  running : List Discovery
  next : Nat
  completions : List Completion

variable (world : World)

namespace World

def idle : World := ⟨state, [], 0, []⟩

def discoveryComplete (number : Nat) (onComplete : Bool) : World :=
  if onComplete then
    { world with completions := world.completions ++ [⟨number, world.state.getUIDs⟩] }
  else world

/-- `RunRDMDiscovery`. A port may run its callback before the next one is asked; that is
no different from running it right after. -/
def runRDMDiscovery (onComplete : Bool) : World :=
  let number := world.next
  let world := { world with next := number + 1 }
  let outputPorts := world.state.outputPorts
  -- NewMultiCallback runs the callback at once when there is nothing to wait for
  if outputPorts.length = 0 then world.discoveryComplete number onComplete
  else
    { world with
      running := world.running ++ [⟨number, onComplete, outputPorts.length, 0, outputPorts⟩] }

/-- `PortDiscoveryComplete`, with `MultiCallback::Run`. -/
def portDiscoveryComplete (discovery : Discovery) (port : OutputPort) (uids : UIDSet) : World :=
  let world := { world with state := world.state.newUIDList port uids }
  let others := world.running.filter (fun other => other.number != discovery.number)
  let count := discovery.count + 1
  if count = discovery.limit then
    { world with running := others }.discoveryComplete discovery.number discovery.onComplete
  else
    let discovery := { discovery with count := count, waiting := discovery.waiting.erase port }
    { world with running := others ++ [discovery] }

/-- A port runs the callback it was given for a discovery. -/
def report (number : Nat) (port : OutputPort) (uids : UIDSet) : World :=
  match world.running.find? (fun discovery => discovery.number == number) with
  | none => world
  | some discovery =>
    if port ∈ discovery.waiting then world.portDiscoveryComplete discovery port uids else world

end World

/-- What can happen to the output ports of a universe. -/
inductive Input where
  | addPort (port : OutputPort)
  | removePort (port : OutputPort)
  | runRDMDiscovery (onComplete : Bool)
  | report (number : Nat) (port : OutputPort) (uids : UIDSet)
  | newUIDList (port : OutputPort) (uids : UIDSet)

def World.step (world : World) : Input → World
  | .addPort port => { world with state := world.state.addOutputPort port }
  | .removePort port => { world with state := world.state.removeOutputPort port }
  | .runRDMDiscovery onComplete => world.runRDMDiscovery onComplete
  | .report number port uids => world.report number port uids
  | .newUIDList port uids => { world with state := world.state.newUIDList port uids }

/-- What a report does to the port of one UID. -/
def route (uid : UID) (current : Option OutputPort) (report : OutputPort × UIDSet) :
    Option OutputPort :=
  if uid ∈ report.2 then current.or (some report.1)
  else current.filter (fun port => port != report.1)

theorem lookup_claimUid (claimed uid : UID) : (claimUid port uids claimed).lookup uid =
      if uid = claimed then (uids.lookup uid).or (some port) else uids.lookup uid := by
  unfold claimUid
  by_cases same : uid = claimed
  · subst same
    rw [if_pos rfl]
    cases found : uids.lookup uid with
    | none => exact AList.lookup_insert uids
    | some other => exact found
  · rw [if_neg same]
    cases found : uids.lookup claimed with
    | none => exact AList.lookup_insert_ne same
    | some other => rfl

theorem lookup_claimUids (claimed : List UID) (uid : UID) :
    (claimed.foldl (claimUid port) uids).lookup uid =
      if uid ∈ claimed then (uids.lookup uid).or (some port) else uids.lookup uid := by
  induction claimed generalizing uids with
  | nil => simp
  | cons first rest ih =>
    rw [foldl_cons, ih, lookup_claimUid]
    by_cases same : uid = first
    · subst same
      simp
    · simp [same]

/-- `NewUIDList` treats every UID alike. -/
theorem lookup_newUIDList (port : OutputPort) (uids : UIDSet) (uid : UID) :
    (state.newUIDList port uids).outputUids.lookup uid =
      route uid (state.outputUids.lookup uid) (port, uids) := by
  unfold newUIDList route
  rw [lookup_claimUids, lookup_keepUids]
  by_cases member : uid ∈ uids
  · cases state.outputUids.lookup uid <;> simp [member, Option.filter]
  · cases state.outputUids.lookup uid <;> simp [member, bne]

variable {reports : List (OutputPort × UIDSet)} {uid : UID} {port : OutputPort}

/-- A port that does not report keeps its UIDs. -/
theorem route_other (absent : port ∉ reports.map Prod.fst) :
    reports.foldl (route uid) (some port) = some port := by
  induction reports with
  | nil => rfl
  | cons report rest ih =>
    rw [map_cons, mem_cons, not_or] at absent
    have kept : route uid (some port) report = some port := by
      unfold route
      split
      · rfl
      · simp [absent.1]
    rw [foldl_cons, kept]
    exact ih absent.2

/-- A UID that no port has goes to the first port that reports it. -/
theorem route_none (distinct : (reports.map Prod.fst).Nodup) :
    reports.foldl (route uid) none = (reports.find? (fun report => uid ∈ report.2)).map Prod.fst := by
  induction reports with
  | nil => rfl
  | cons report rest ih =>
    rw [map_cons, nodup_cons] at distinct
    rw [foldl_cons]
    by_cases reported : uid ∈ report.2
    · have taken : route uid none report = some report.1 := by simp [route, reported]
      rw [taken, route_other distinct.1, List.find?_cons_of_pos (by simpa using reported)]
      rfl
    · have free : route uid none report = none := by simp [route, reported]
      rw [free, List.find?_cons_of_neg (by simpa using reported)]
      exact ih distinct.2

variable {before after : List (OutputPort × UIDSet)}

/-- A UID stays with a port that reports it again, and is free for the ports behind
one that does not. -/
theorem route_some {uids : UIDSet}
    (distinct : ((before ++ (port, uids) :: after).map Prod.fst).Nodup) :
    (before ++ (port, uids) :: after).foldl (route uid) (some port) =
      if uid ∈ uids then some port
      else (after.find? (fun report => uid ∈ report.2)).map Prod.fst := by
  rw [map_append, nodup_append', map_cons, nodup_cons] at distinct
  have absent : port ∉ before.map Prod.fst := by
    intro member
    exact distinct.2.2 member mem_cons_self
  rw [foldl_append, route_other absent, foldl_cons]
  by_cases reported : uid ∈ uids
  · have kept : route uid (some port) (port, uids) = some port := by simp [route, reported]
    rw [if_pos reported, kept, route_other distinct.2.1.1]
  · have free : route uid (some port) (port, uids) = none := by simp [route, reported]
    rw [if_neg reported, free, route_none distinct.2.1.2]

/-- The UID is with one of the ports that reported it, or it is gone because none did. -/
def Placed (reports : List (OutputPort × UIDSet)) (uid : UID) (target : Option OutputPort) : Prop :=
  (target.isSome = true ↔ ∃ report ∈ reports, uid ∈ report.2) ∧
    ∀ port, target = some port → ∃ uids, (port, uids) ∈ reports ∧ uid ∈ uids

/-- Every UID of the old map belongs to a port that reports, and if that port has lost
it, then no port before reports it, or one behind does. -/
def Settled (previous : AList (fun _ : UID => OutputPort))
    (reports : List (OutputPort × UIDSet)) : Prop :=
  ∀ uid port, previous.lookup uid = some port →
    ∃ before uids after, reports = before ++ (port, uids) :: after ∧
      (uid ∈ uids ∨ (∃ report ∈ after, uid ∈ report.2) ∨ ∀ report ∈ before, uid ∉ report.2)

theorem placed_find (reports : List (OutputPort × UIDSet)) :
    Placed reports uid ((reports.find? (fun report => uid ∈ report.2)).map Prod.fst) := by
  constructor
  · simp
  · intro port found
    rw [Option.map_eq_some_iff] at found
    obtain ⟨report, here, rfl⟩ := found
    have reported := List.find?_some here
    exact ⟨report.2, mem_of_find?_eq_some here, by simpa using reported⟩

/-- What becomes of a UID that a port of the old map has lost. -/
theorem placed_after {uids : UIDSet} (lost : uid ∉ uids) :
    Placed (before ++ (port, uids) :: after) uid
        ((after.find? (fun report => uid ∈ report.2)).map Prod.fst) ↔
      (∃ report ∈ after, uid ∈ report.2) ∨ ∀ report ∈ before, uid ∉ report.2 := by
  have later := @placed_find uid after
  constructor
  · intro placed
    by_cases early : ∃ report ∈ before, uid ∈ report.2
    · left
      obtain ⟨report, front, has⟩ := early
      exact later.1.mp (placed.1.mpr ⟨report, mem_append_left _ front, has⟩)
    · right
      intro report front has
      exact early ⟨report, front, has⟩
  · intro outcome
    constructor
    · rw [later.1]
      constructor
      · rintro ⟨report, behind, has⟩
        exact ⟨report, by simp [behind], has⟩
      · rintro ⟨report, member, has⟩
        rcases outcome with behind | front
        · exact behind
        · rcases mem_append.mp member with early | late
          · exact absurd has (front report early)
          · rcases mem_cons.mp late with rfl | behind
            · exact absurd has lost
            · exact ⟨report, behind, has⟩
    · intro other found
      obtain ⟨reported, member, has⟩ := later.2 other found
      exact ⟨reported, by simp [member], has⟩

theorem placed_kept {uids : UIDSet} (member : (port, uids) ∈ reports) (kept : uid ∈ uids) :
    Placed reports uid (some port) := by
  constructor
  · exact ⟨fun _ => ⟨(port, uids), member, kept⟩, fun _ => rfl⟩
  · intro other same
    cases same
    exact ⟨uids, member, kept⟩

/-- Each UID ends up with a port that reported it just when the old map allows it. -/
theorem placed_iff {current : Option OutputPort} (distinct : (reports.map Prod.fst).Nodup) :
    Placed reports uid (reports.foldl (route uid) current) ↔
      ∀ port, current = some port →
        ∃ before uids after, reports = before ++ (port, uids) :: after ∧
          (uid ∈ uids ∨ (∃ report ∈ after, uid ∈ report.2) ∨ ∀ report ∈ before, uid ∉ report.2) := by
  cases current with
  | none =>
    rw [route_none distinct]
    constructor
    · intro _ port absent
      cases absent
    · exact fun _ => placed_find reports
  | some port =>
    constructor
    · intro placed other same
      cases same
      by_cases asked : port ∈ reports.map Prod.fst
      · obtain ⟨⟨_, uids⟩, member, rfl⟩ := mem_map.mp asked
        obtain ⟨before, after, rfl⟩ := append_of_mem member
        rw [route_some distinct] at placed
        refine ⟨before, uids, after, rfl, ?_⟩
        by_cases kept : uid ∈ uids
        · exact Or.inl kept
        · rw [if_neg kept, placed_after kept] at placed
          exact Or.inr placed
      · rw [route_other asked] at placed
        obtain ⟨uids, member, _⟩ := placed.2 port rfl
        exact absurd (mem_map_of_mem member : (port, uids).1 ∈ _) asked
    · intro settled
      obtain ⟨before, uids, after, rfl, outcome⟩ := settled port rfl
      rw [route_some distinct]
      by_cases kept : uid ∈ uids
      · rw [if_pos kept]
        exact placed_kept (by simp) kept
      · rw [if_neg kept, placed_after kept]
        exact outcome.resolve_left kept

/-- The universe after some reports. -/
def reported (reports : List (OutputPort × UIDSet)) : Universe :=
  reports.foldl (fun state report => state.newUIDList report.1 report.2) state

theorem lookup_reported (reports : List (OutputPort × UIDSet)) (uid : UID) :
    (state.reported reports).outputUids.lookup uid =
      reports.foldl (route uid) (state.outputUids.lookup uid) := by
  unfold reported
  induction reports generalizing state with
  | nil => rfl
  | cons report rest ih => rw [foldl_cons, foldl_cons, ih, lookup_newUIDList]

def reportInputs (reports : List (OutputPort × UIDSet)) : List Input :=
  reports.map (fun report => .report 0 report.1 report.2)

theorem mem_getUIDs (uid : UID) :
    uid ∈ state.getUIDs ↔ (state.outputUids.lookup uid).isSome = true := by
  unfold getUIDs
  rw [mem_toFinset, AList.lookup_isSome, AList.mem_keys]

/-- The callback is run when the last port has reported, and not before. -/
theorem run_reports (some : reports ≠ []) {waiting : List OutputPort}
    (all : (reports.map Prod.fst).Perm waiting) (state : Universe) (count next : Nat) :
    run World.step
        ⟨state, [⟨0, true, count + reports.length, count, waiting⟩], next, []⟩ (reportInputs reports) =
      ⟨state.reported reports, [], next, [⟨0, (state.reported reports).getUIDs⟩]⟩ := by
  induction reports generalizing waiting state count with
  | nil => exact absurd rfl some
  | cons report rest ih =>
    have asked : report.1 ∈ waiting := all.mem_iff.mp mem_cons_self
    have left : (rest.map Prod.fst).Perm (waiting.erase report.1) :=
      (cons_perm_iff_perm_erase.mp all).2
    cases rest with
    | nil =>
      simp [reportInputs, World.step, World.report, World.portDiscoveryComplete,
        World.discoveryComplete, reported, asked]
    | cons second rest =>
      have step : World.step
          ⟨state, [⟨0, true, count + (report :: second :: rest).length, count, waiting⟩], next, []⟩
          (.report 0 report.1 report.2) =
          ⟨state.newUIDList report.1 report.2,
            [⟨0, true, count + 1 + (second :: rest).length, count + 1,
              waiting.erase report.1⟩], next, []⟩ := by
        have more : ¬ count + 1 = count + (report :: second :: rest).length := by
          simp only [length_cons]
          omega
        have length : count + (report :: second :: rest).length =
            count + 1 + (second :: rest).length := by
          simp only [length_cons]
          omega
        rw [← length]
        exact (if_pos asked).trans (if_neg more)
      rw [reportInputs, map_cons, run_cons, step]
      exact ih (cons_ne_nil _ _) left (state.newUIDList report.1 report.2) (count + 1)

/-- A discovery of all the ports of a universe, which report in some order. -/
def discovered (reports : List (OutputPort × UIDSet)) : World :=
  run World.step (.idle state) (.runRDMDiscovery true :: reportInputs reports)

theorem discovered_eq {reports : List (OutputPort × UIDSet)}
    (all : (reports.map Prod.fst).Perm state.outputPorts) :
    discovered state reports =
      ⟨state.reported reports, [], 1, [⟨0, (state.reported reports).getUIDs⟩]⟩ := by
  unfold discovered
  rw [run_cons]
  cases reports with
  | nil =>
    have none : state.outputPorts = [] := nil_perm.mp all
    simp [World.step, World.runRDMDiscovery, World.idle, World.discoveryComplete, none,
      reportInputs, reported]
  | cons report rest =>
    have length : state.outputPorts.length = 0 + (report :: rest).length := by
      rw [← all.length_eq, length_map, Nat.zero_add]
    have some : ¬ state.outputPorts.length = 0 := by
      rw [length, length_cons]
      omega
    have step : World.step (.idle state) (.runRDMDiscovery true) =
        ⟨state, [⟨0, true, 0 + (report :: rest).length, 0, state.outputPorts⟩], 1, []⟩ := by
      rw [← length]
      exact if_neg some
    rw [step]
    exact run_reports (cons_ne_nil _ _) all state 0 1

/-- The callback has been run once, with the UIDs that the ports reported, and each of
them is routed to a port that reported it. -/
def Faithful (reports : List (OutputPort × UIDSet)) (world : World) : Prop :=
  ∃ uids, world.completions = [⟨0, uids⟩] ∧
    (∀ uid, uid ∈ uids ↔ ∃ report ∈ reports, uid ∈ report.2) ∧
    ∀ uid port, world.state.outputUids.lookup uid = some port →
      ∃ uids, (port, uids) ∈ reports ∧ uid ∈ uids

/-- A discovery finds what the ports report if the old map is settled by the reports. -/
theorem discovery_faithful_iff (state : Universe) (reports : List (OutputPort × UIDSet))
    (all : (reports.map Prod.fst).Perm state.outputPorts) :
    Faithful reports (discovered state reports) ↔ Settled state.outputUids reports := by
  have distinct : (reports.map Prod.fst).Nodup := all.nodup_iff.mpr state.distinctOutputs
  have placed : Faithful reports (discovered state reports) ↔
      ∀ uid, Placed reports uid ((state.reported reports).outputUids.lookup uid) := by
    rw [discovered_eq state all]
    unfold Faithful Placed
    constructor
    · rintro ⟨uids, same, union, routed⟩ uid
      cases same
      rw [← mem_getUIDs]
      exact ⟨union uid, routed uid⟩
    · intro placed
      refine ⟨_, rfl, ?_, fun uid => (placed uid).2⟩
      intro uid
      rw [mem_getUIDs]
      exact (placed uid).1
  rw [placed]
  apply forall_congr'
  intro uid
  rw [lookup_reported]
  exact placed_iff distinct

/-- A UID that has moved from the first port to the second. -/
def movedUid : UID := ⟨0x7a70, 1⟩

def movedState : Universe :=
  { new 1 with
    outputPorts := [1, 2]
    outputUids := .singleton movedUid 1
    distinctOutputs := by decide }

theorem moved_uid_found :
    Faithful [(1, ∅), (2, {movedUid})] (discovered movedState [(1, ∅), (2, {movedUid})]) := by
  apply (discovery_faithful_iff movedState [(1, ∅), (2, {movedUid})] (List.Perm.refl _)).mpr
  intro uid port found
  have here : uid = movedUid ∧ port = 1 := by
    rw [← Option.mem_def, AList.mem_lookup_iff] at found
    simp [movedState] at found
    exact found
  obtain ⟨rfl, rfl⟩ := here
  exact ⟨[], ∅, [(2, {movedUid})], rfl, Or.inr (Or.inl ⟨_, List.mem_singleton.mpr rfl, by decide⟩)⟩

/-- When the second port reports first, the UID is lost. -/
theorem moved_uid_lost :
    movedUid ∉ (movedState.reported [(2, {movedUid}), (1, ∅)]).getUIDs ∧
      (discovered movedState [(2, {movedUid}), (1, ∅)]).completions =
        [⟨0, (movedState.reported [(2, {movedUid}), (1, ∅)]).getUIDs⟩] ∧
      ¬ Faithful [(2, {movedUid}), (1, ∅)] (discovered movedState [(2, {movedUid}), (1, ∅)]) := by
  have outcome := @discovered_eq movedState [(2, {movedUid}), (1, ∅)] (List.Perm.swap 1 2 [])
  have lost : movedUid ∉ (movedState.reported [(2, {movedUid}), (1, ∅)]).getUIDs := by
    rw [mem_getUIDs, lookup_reported]
    decide
  refine ⟨lost, by rw [outcome], ?_⟩
  rintro ⟨uids, same, union, _⟩
  cases same
  exact lost ((union movedUid).mpr ⟨(2, {movedUid}), List.mem_cons_self, by decide⟩)

end OpenLighting.Universe
