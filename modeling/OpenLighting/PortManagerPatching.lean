import OpenLighting.PortManager

namespace OpenLighting.PortManager

open TransitionSystem World

/-- A universe contains a port exactly when the port refers to it, and every universe
that a port refers to is in the store. -/
structure Agreed (world : World) : Prop where
  contained : ∀ universeId address, world.universeMap.lookup universeId = some address →
    ∀ direction port, port ∈ (world.memory address).ports direction ↔
      world.getUniverse direction port = some address
  kept : ∀ direction port address, world.getUniverse direction port = some address →
    ∃ universeId, world.universeMap.lookup universeId = some address

/-- The hook of a port does not refuse a change while the port is bound. -/
def Accepted (rig : Rig) (world : World) : Input → Prop
  | .call (.patchPort direction port universeId accepts) =>
    accepts = true ∨ world.getUniverse direction port = none ∨
      world.universeId direction port = some universeId ∨
      world.refused rig direction port universeId = true
  | .call (.unPatchPort direction port accepts) =>
    accepts = true ∨ world.getUniverse direction port = none
  | .garbageCollectUniverses => True

/-- The binding of one port changed. -/
def rebind (binding : Direction → Nat → Option Nat) (direction : Direction) (port : Nat)
    (target : Option Nat) : Direction → Nat → Option Nat :=
  fun side other => if side = direction ∧ other = port then target else binding side other

/-- The universes match a binding of the ports. Halfway through a change that is not yet
what the ports refer to. -/
structure Matches (world : World) (binding : Direction → Nat → Option Nat) : Prop where
  stored : ∀ universeId address, world.universeMap.lookup universeId = some address →
    (world.memory address).universeId = universeId ∧ address < world.next
  queued : ∀ address ∈ world.deletionCandidates,
    world.universeMap.lookup (world.memory address).universeId = some address
  contained : ∀ universeId address, world.universeMap.lookup universeId = some address →
    ∀ direction port, port ∈ (world.memory address).ports direction ↔
      binding direction port = some address
  referred : ∀ direction port address, binding direction port = some address →
    world.universeMap.lookup (world.memory address).universeId = some address

theorem Matches.agreed {world : World} (matching : Matches world world.getUniverse) :
    Agreed world := by
  constructor
  · exact matching.contained
  · intro direction port address bound
    exact ⟨_, matching.referred direction port address bound⟩

section Steps

variable {world : World} {binding : Direction → Nat → Option Nat}

theorem rebind_self (direction : Direction) (port : Nat) (target : Option Nat) :
    rebind binding direction port target direction port = target := if_pos ⟨rfl, rfl⟩

theorem rebind_rebind (direction : Direction) (port : Nat) (first second : Option Nat) :
    rebind (rebind binding direction port first) direction port second =
      rebind binding direction port second := by
  funext side other
  unfold rebind
  split <;> rfl

theorem rebind_same (direction : Direction) (port : Nat) :
    rebind binding direction port (binding direction port) = binding := by
  funext side other
  unfold rebind
  split
  · rw [(‹side = direction ∧ other = port›).1, (‹side = direction ∧ other = port›).2]
  · rfl

theorem Matches.brokerPorts (matching : Matches world binding) (ports : Finset (Direction × Nat)) :
    Matches { world with brokerPorts := ports } binding :=
  { matching with }

theorem Matches.getUniverse (matching : Matches world binding)
    (getUniverse : Direction → Nat → Option Nat) :
    Matches { world with getUniverse := getUniverse } binding :=
  { matching with }

variable {universeId address port newUniverseId : Nat} {direction : Direction} {after : World}

section

variable (matching : Matches world binding)
include matching

theorem Matches.queue (live : world.universeMap.lookup universeId = some address) :
    Matches (world.addUniverseGarbageCollection address) binding := by
  refine ⟨matching.stored, ?_, matching.contained, matching.referred⟩
  intro other member
  have known : other ∈ world.deletionCandidates ∨ other = address := by
    unfold addUniverseGarbageCollection at member
    split at member
    · exact Or.inl member
    · simpa using member
  rcases known with queued | rfl
  · exact matching.queued other queued
  · change world.universeMap.lookup (world.memory other).universeId = some other
    rw [(matching.stored universeId other live).1]
    exact live

/-- A universe of the store is replaced by one with the same id and one port more or
less. -/
theorem Matches.store (live : world.universeMap.lookup universeId = some address) {state : Universe}
    (same : state.universeId = (world.memory address).universeId) {target : Option Nat}
    (target_live : target = none ∨ target = some address)
    (free : binding direction port = none ∨ binding direction port = some address)
    (changed : ∀ side other, other ∈ state.ports side ↔
      rebind binding direction port target side other = some address) :
    Matches (world.store address state) (rebind binding direction port target) := by
  have ids : ∀ other, ((world.store address state).memory other).universeId =
      (world.memory other).universeId := by
    intro other
    unfold World.store
    dsimp only
    by_cases here : other = address
    · rw [here, Function.update_self, same]
    · rw [Function.update_of_ne here]
  constructor
  · intro id other stored
    rw [ids]
    exact matching.stored id other stored
  · intro other member
    rw [ids]
    exact matching.queued other member
  · intro id other stored side name
    by_cases here : other = address
    · subst here
      unfold store
      dsimp only
      rw [Function.update_self]
      exact changed side name
    · have before := matching.contained id other stored side name
      unfold World.store
      dsimp only
      rw [Function.update_of_ne here, before]
      unfold rebind
      split
      · rename_i moved
        rw [moved.1, moved.2]
        rcases free with none | bound <;> rcases target_live with rfl | rfl <;>
          simp [*, Ne.symm here]
      · rfl
  · intro side name other bound
    rw [ids]
    unfold rebind at bound
    split at bound
    · rcases target_live with rfl | rfl
      · cases bound
      · cases bound
        rw [(matching.stored universeId address live).1]
        exact live
    · exact matching.referred side name other bound

theorem Matches.removePort (bound : binding direction port = some address) :
    Matches (world.removePort address direction port) (rebind binding direction port none) := by
  have live := matching.referred direction port address bound
  have inside := (matching.contained _ address live direction port).mpr bound
  have stored : Matches (world.store address ((world.memory address).removePort direction port))
      (rebind binding direction port none) := by
    apply matching.store live (Universe.removePort_universeId _ _ _) (Or.inl rfl) (Or.inr bound)
    intro side other
    rw [Universe.mem_removePort, matching.contained _ address live side other]
    unfold rebind
    split
    · simp [*]
    · simp [*]
  unfold World.removePort
  dsimp only
  rw [if_pos inside]
  split
  · exact stored
  · exact stored.queue live

theorem Matches.addPort (free : binding direction port = none)
    (live : world.universeMap.lookup universeId = some address) :
    Matches (world.addPort address direction port) (rebind binding direction port (some address)) := by
  apply matching.store live (Universe.addPort_universeId _ _ _) (Or.inr rfl) (Or.inl free)
  intro side other
  rw [Universe.mem_addPort, matching.contained universeId address live side other]
  unfold rebind
  split
  · simp [*]
  · simp [*]

end

/-- The world with a new universe, for an id that is not in the store. -/
def create (world : World) (universeId : Nat) : World :=
  { world.store world.next (.new universeId) with
    universeMap := world.universeMap.insert universeId world.next
    next := world.next + 1 }

/-- Creating a universe keeps those that are there. -/
theorem lookup_create {other : Nat} (absent : world.universeMap.lookup universeId = none)
    (live : world.universeMap.lookup other = some address) :
    (create world universeId).universeMap.lookup other = some address := by
  have different : other ≠ universeId := by
    rintro rfl
    rw [absent] at live
    cases live
  exact (AList.lookup_insert_ne different).trans live

theorem Matches.memory_create (matching : Matches world binding) {other : Nat}
    (live : world.universeMap.lookup other = some address) :
    (create world universeId).memory address = world.memory address := by
  apply Function.update_of_ne
  have below := (matching.stored other address live).2
  omega

/-- A new universe has no ports, and no port refers to its address. -/
theorem Matches.create (matching : Matches world binding)
    (absent : world.universeMap.lookup universeId = none) :
    Matches (create world universeId) binding := by
  have found : ∀ id address, (PortManager.create world universeId).universeMap.lookup id =
      some address → (id = universeId ∧ address = world.next) ∨
        world.universeMap.lookup id = some address := by
    intro id address stored
    by_cases here : id = universeId
    · subst here
      left
      refine ⟨rfl, ?_⟩
      have added : (PortManager.create world id).universeMap.lookup id = some world.next :=
        AList.lookup_insert _
      rw [added, Option.some_inj] at stored
      omega
    · exact Or.inr ((AList.lookup_insert_ne here).symm.trans stored)
  have added : (PortManager.create world universeId).memory world.next = .new universeId :=
    Function.update_self _ _ _
  constructor
  · intro id address stored
    rcases found id address stored with ⟨rfl, rfl⟩ | live
    · rw [added]
      exact ⟨rfl, Nat.lt_succ_self _⟩
    · rw [matching.memory_create live]
      have before := matching.stored id address live
      exact ⟨before.1, Nat.lt_succ_of_lt before.2⟩
  · intro address member
    have live := matching.queued address member
    rw [matching.memory_create live]
    exact lookup_create absent live
  · intro id address stored side port
    rcases found id address stored with ⟨rfl, rfl⟩ | live
    · rw [added]
      constructor
      · intro member
        cases side <;> cases member
      · intro bound
        have below := (matching.stored _ _ (matching.referred side port _ bound)).2
        omega
    · rw [matching.memory_create live]
      exact matching.contained id address live side port
  · intro side port address bound
    have live := matching.referred side port address bound
    rw [matching.memory_create live]
    exact lookup_create absent live

theorem Matches.getUniverseOrCreate (matching : Matches world binding) (universeId : Nat) :
    Matches (world.getUniverseOrCreate universeId).1 binding ∧
      (world.getUniverseOrCreate universeId).1.universeMap.lookup universeId =
        some (world.getUniverseOrCreate universeId).2 ∧
      (∀ other address, world.universeMap.lookup other = some address →
        (world.getUniverseOrCreate universeId).1.universeMap.lookup other = some address) ∧
      (world.getUniverseOrCreate universeId).1.getUniverse = world.getUniverse := by
  unfold World.getUniverseOrCreate
  cases found : world.universeMap.lookup universeId with
  | some address => exact ⟨matching, found, fun _ _ live => live, rfl⟩
  | none =>
    exact ⟨matching.create found, AList.lookup_insert _, fun _ _ live => lookup_create found live, rfl⟩

/-- The store after the candidates that are not in use have been deleted. -/
theorem lookup_collected (candidates : List Nat) (universeMap : AList (fun _ : Nat => Nat))
    (id : Nat) :
    (candidates.foldl (fun universeMap address =>
        if (world.memory address).isActive then universeMap
        else universeMap.erase (world.memory address).universeId) universeMap).lookup id =
      if ∃ address ∈ candidates, (world.memory address).isActive = false ∧
          (world.memory address).universeId = id then none
      else universeMap.lookup id := by
  induction candidates generalizing universeMap with
  | nil => simp
  | cons address rest ih =>
    rw [List.foldl_cons, ih]
    by_cases later : ∃ other ∈ rest, (world.memory other).isActive = false ∧
        (world.memory other).universeId = id
    · obtain ⟨other, member, gone⟩ := later
      rw [if_pos ⟨other, member, gone⟩, if_pos ⟨other, List.mem_cons_of_mem address member, gone⟩]
    · rw [if_neg later]
      by_cases used : (world.memory address).isActive = true
      · rw [if_pos used, if_neg]
        rintro ⟨other, member, gone⟩
        rcases List.mem_cons.mp member with rfl | member
        · rw [used] at gone
          cases gone.1
        · exact later ⟨other, member, gone⟩
      · rw [if_neg used]
        by_cases here : id = (world.memory address).universeId
        · subst here
          rw [AList.lookup_erase, if_pos]
          exact ⟨address, List.mem_cons_self, Bool.eq_false_iff.mpr used, rfl⟩
        · rw [AList.lookup_erase_ne here, if_neg]
          rintro ⟨other, member, gone⟩
          rcases List.mem_cons.mp member with rfl | member
          · omega
          · exact later ⟨other, member, gone⟩

theorem Matches.garbageCollectUniverses (matching : Matches world binding) :
    Matches world.garbageCollectUniverses binding := by
  have lookup := @lookup_collected world world.deletionCandidates world.universeMap
  have live : ∀ id address, world.garbageCollectUniverses.universeMap.lookup id = some address →
      world.universeMap.lookup id = some address := by
    intro id address kept
    unfold World.garbageCollectUniverses at kept
    rw [lookup] at kept
    split at kept
    · cases kept
    · exact kept
  constructor
  · intro id address kept
    exact matching.stored id address (live id address kept)
  · intro address member
    cases member
  · intro id address kept
    exact matching.contained id address (live id address kept)
  · intro side port address bound
    have stored := matching.referred side port address bound
    unfold World.garbageCollectUniverses
    rw [lookup, if_neg]
    · exact stored
    rintro ⟨other, member, unused, same⟩
    have queued := matching.queued other member
    rw [same, stored, Option.some_inj] at queued
    subst queued
    have inside := (matching.contained _ address stored side port).mpr bound
    rw [Universe.ports_of_not_isActive unused side] at inside
    cases inside

theorem removePort_frame (world : World) (address : Nat) (direction : Direction) (port : Nat) :
    (world.removePort address direction port).getUniverse = world.getUniverse ∧
      (world.removePort address direction port).universeMap = world.universeMap := by
  unfold removePort
  dsimp only
  split
  · split <;> exact ⟨rfl, rfl⟩
  · exact ⟨rfl, rfl⟩

/-- Unpatching takes the port out of its universe and leaves it referring to it. -/
theorem Matches.unpatchIfRequired (matching : Matches world world.getUniverse)
    (direction : Direction) (port : Nat) :
    Matches (world.unpatchIfRequired direction port) (rebind world.getUniverse direction port none) ∧
      (world.unpatchIfRequired direction port).getUniverse = world.getUniverse ∧
      (world.unpatchIfRequired direction port).universeMap = world.universeMap := by
  unfold World.unpatchIfRequired
  cases bound : world.getUniverse direction port with
  | none =>
    have same : rebind world.getUniverse direction port none = world.getUniverse := by
      rw [← bound]
      exact rebind_same direction port
    rw [same]
    exact ⟨matching, rfl, rfl⟩
  | some address =>
    exact ⟨(matching.brokerPorts _).removePort bound, removePort_frame _ _ _ _⟩

section
variable (before : Matches world world.getUniverse)
  (other : world.universeId direction port ≠ some newUniverseId)
include before other

/-- A universe that the port refers to is the one it is to be patched to only if it has
that id. -/
theorem setUniverse_new
    (kept : ∀ id address, world.universeMap.lookup id = some address →
      after.universeMap.lookup id = some address) (matching : Matches after binding)
    (live : after.universeMap.lookup newUniverseId = some address) :
    world.getUniverse direction port ≠ some address := by
  intro bound
  apply other
  have stored := kept _ _ (before.referred direction port address bound)
  unfold universeId
  rw [bound, Option.map_some, ← (matching.stored _ _ stored).1, (matching.stored _ _ live).1]

section

variable (matching : Matches after (rebind world.getUniverse direction port none))
  (refers : after.getUniverse = world.getUniverse) (kept : after.universeMap = world.universeMap)
include matching refers kept

theorem bindPort_accepted :
    Matches (after.bindPort direction port newUniverseId true)
      (after.bindPort direction port newUniverseId true).getUniverse := by
  obtain ⟨created, live, keeps, same⟩ := matching.getUniverseOrCreate newUniverseId
  have change : (after.getUniverseOrCreate newUniverseId).1.getUniverse direction port ≠
      some (after.getUniverseOrCreate newUniverseId).2 := by
    rw [same, refers]
    exact setUniverse_new before other (fun id address stored => keeps id address (kept ▸ stored))
      created live
  have bound := ((created.getUniverse (rebind world.getUniverse direction port
    (some (after.getUniverseOrCreate newUniverseId).2))).brokerPorts
      (insert (direction, port) (after.getUniverseOrCreate newUniverseId).1.brokerPorts)).addPort
        (rebind_self direction port none) live
  rw [rebind_rebind] at bound
  unfold bindPort setUniverse
  dsimp only
  rw [if_neg change, if_pos rfl]
  rw [same, refers]
  exact bound

/-- When the hook refuses, the port still refers to its old universe. -/
theorem bindPort_refused :
    Matches (after.bindPort direction port newUniverseId false)
        (rebind world.getUniverse direction port none) ∧
      (after.bindPort direction port newUniverseId false).getUniverse = world.getUniverse ∧
      ∀ id address, world.universeMap.lookup id = some address →
        (after.bindPort direction port newUniverseId false).universeMap.lookup id = some address := by
  obtain ⟨created, live, keeps, same⟩ := matching.getUniverseOrCreate newUniverseId
  have keep : ∀ id address, world.universeMap.lookup id = some address →
      (after.getUniverseOrCreate newUniverseId).1.universeMap.lookup id = some address :=
    fun id address stored => keeps id address (kept ▸ stored)
  have change : (after.getUniverseOrCreate newUniverseId).1.getUniverse direction port ≠
      some (after.getUniverseOrCreate newUniverseId).2 := by
    rw [same, refers]
    exact setUniverse_new before other keep created live
  unfold bindPort setUniverse
  dsimp only
  rw [if_neg change, if_neg Bool.false_ne_true]
  dsimp only
  split
  · exact ⟨created, same.trans refers, keep⟩
  · exact ⟨created.queue live, same.trans refers, keep⟩

end

end

/-- A port that refers to a universe that does not contain it. -/
theorem not_agreed (before : Matches world world.getUniverse)
    (bound : world.getUniverse direction port = some address)
    (matching : Matches after (rebind world.getUniverse direction port none))
    (refers : after.getUniverse = world.getUniverse)
    (keep : ∀ id address, world.universeMap.lookup id = some address →
      after.universeMap.lookup id = some address) : ¬ Agreed after := by
  intro agreed
  have live := keep _ _ (before.referred direction port address bound)
  have outside := matching.contained _ address live direction port
  rw [rebind_self, agreed.contained _ address live direction port, refers, bound] at outside
  cases outside.mp rfl

section Patch

variable {rig : Rig} {direction : Direction} {port universeId : Nat} {accepts : Bool}

section
variable (matching : Matches world world.getUniverse)
include matching

/-- A patch that is made, or not even tried, keeps everything in step. -/
theorem Matches.patchPort
    (accepted : Accepted rig world (.call (.patchPort direction port universeId accepts))) :
    Matches (world.patchPort rig direction port universeId accepts).1
      (world.patchPort rig direction port universeId accepts).1.getUniverse := by
  unfold World.patchPort
  by_cases patched : world.universeId direction port = some universeId
  · rw [if_pos patched]
    exact matching
  · by_cases checked : world.refused rig direction port universeId = true
    · rw [if_neg patched, if_pos checked]
      exact matching
    · rw [if_neg patched, if_neg checked]
      obtain ⟨detached, refers, kept⟩ := matching.unpatchIfRequired direction port
      cases accepts with
      | true => exact bindPort_accepted matching patched detached refers kept
      | false =>
        have free : world.getUniverse direction port = none := by
          simpa [Accepted, patched, checked] using accepted
        have unchanged : rebind world.getUniverse direction port none = world.getUniverse := by
          rw [← free]
          exact rebind_same direction port
        obtain ⟨bound, same, _⟩ := bindPort_refused matching patched detached refers kept
        rw [same, ← unchanged]
        omega

theorem patchPort_not_agreed
    (refused : ¬ Accepted rig world (.call (.patchPort direction port universeId accepts))) :
    ¬ Agreed (world.patchPort rig direction port universeId accepts).1 := by
  unfold Accepted at refused
  push Not at refused
  obtain ⟨hook, bound, patched, checked⟩ := refused
  obtain ⟨address, bound⟩ := Option.ne_none_iff_exists'.mp bound
  obtain ⟨detached, refers, kept⟩ := matching.unpatchIfRequired direction port
  obtain ⟨bare, same, keep⟩ := bindPort_refused matching patched detached refers kept
  unfold patchPort
  rw [if_neg patched, if_neg checked, Bool.eq_false_iff.mpr hook]
  exact not_agreed matching bound bare same keep

theorem Matches.unPatchPort
    (accepted : Accepted rig world (.call (.unPatchPort direction port accepts))) :
    Matches (world.unPatchPort direction port accepts)
      (world.unPatchPort direction port accepts).getUniverse := by
  unfold World.unPatchPort
  cases bound : world.getUniverse direction port with
  | none => exact matching.brokerPorts _
  | some address =>
    have hook : accepts = true := by simpa [Accepted, bound] using accepted
    have removed := (matching.brokerPorts (world.brokerPorts.erase (direction, port))).removePort bound
    have frame := removePort_frame
      { world with brokerPorts := world.brokerPorts.erase (direction, port) } address direction port
    unfold setUniverse
    dsimp only
    rw [frame.1, bound, if_neg (Option.some_ne_none address), if_pos hook]
    exact removed.getUniverse _

theorem unPatchPort_not_agreed
    (refused : ¬ Accepted rig world (.call (.unPatchPort direction port accepts))) :
    ¬ Agreed (world.unPatchPort direction port accepts) := by
  unfold Accepted at refused
  push Not at refused
  obtain ⟨address, bound⟩ := Option.ne_none_iff_exists'.mp refused.2
  have removed := (matching.brokerPorts (world.brokerPorts.erase (direction, port))).removePort bound
  have frame := removePort_frame
    { world with brokerPorts := world.brokerPorts.erase (direction, port) } address direction port
  unfold unPatchPort setUniverse
  rw [bound]
  dsimp only
  rw [frame.1, bound, if_neg (Option.some_ne_none address), if_neg refused.1]
  apply not_agreed matching bound removed frame.1
  intro id other stored
  rw [frame.2]
  exact stored

end

end Patch

end Steps

/-- Ports and universes agree all along a run if no port refuses to leave its universe. -/
theorem agreed_iff_accepted (rig : Rig) (inputs : List Input) :
    (∀ count, Agreed (run (World.step rig) .initial (inputs.take count))) ↔
      Permitted (World.step rig) (Accepted rig) .initial inputs := by
  refine @always_iff_permitted _ _ _ _ (fun world => Matches world world.getUniverse) _
    (fun _ matching => matching.agreed) ?_ ?_ _ _ ?_
  · intro world input matching accepted
    match input with
    | .garbageCollectUniverses => exact matching.garbageCollectUniverses
    | .call (.patchPort _ _ _ _) => exact matching.patchPort accepted
    | .call (.unPatchPort _ _ _) => exact matching.unPatchPort accepted
  · intro world input matching refused
    match input with
    | .garbageCollectUniverses => exact absurd trivial refused
    | .call (.patchPort _ _ _ _) => exact patchPort_not_agreed matching refused
    | .call (.unPatchPort _ _ _) => exact unPatchPort_not_agreed matching refused
  · constructor
    · intro id address absent
      cases absent
    · intro address absent
      cases absent
    · intro id address absent
      cases absent
    · intro direction port address absent
      cases absent

/-- An input port without a device. -/
def loosePort : Rig where
  getDevice := fun _ _ => none
  devicePorts := fun _ _ => []
  allowLooping := fun _ => false
  allowMultiPortPatching := fun _ => false
  own := by simp

/-- The port is patched to one universe, and its hook then refuses another. -/
def refusedChange : List Input :=
  [.call (.patchPort .input 7 1 true), .call (.patchPort .input 7 2 false)]

/-- The port refers to the first universe, which does not contain it. -/
theorem refused_change_disagrees :
    ¬ ∀ count, Agreed (run (World.step loosePort) .initial (refusedChange.take count)) := by
  intro agreed
  have contained := (agreed 2).contained 1 0 rfl .input 7
  have outside : 7 ∉ ((run (World.step loosePort) .initial (refusedChange.take 2)).memory 0).ports
      .input := by decide
  exact outside (contained.mpr rfl)

end OpenLighting.PortManager
