import OpenLighting.PortManagerPatching

namespace OpenLighting.PortManager

open TransitionSystem World

/-- The port refers to the universe, or the universe contains the port. -/
def Patched (world : World) (direction : Direction) (port address : Nat) : Prop :=
  world.getUniverse direction port = some address ∨ port ∈ (world.memory address).ports direction

/-- What devices may forbid: an input and an output port on the same universe, and two
ports of one direction on the same universe. -/
structure Restricted (rig : Rig) (world : World) : Prop where
  looping : ∀ device, rig.allowLooping device = false →
    ∀ first ∈ rig.devicePorts device .input, ∀ second ∈ rig.devicePorts device .output,
      ∀ address, ¬ (Patched world .input first address ∧ Patched world .output second address)
  multiPort : ∀ device, rig.allowMultiPortPatching device = false → ∀ direction,
    ∀ first ∈ rig.devicePorts device direction, ∀ second ∈ rig.devicePorts device direction,
      first ≠ second →
      ∀ address, ¬ (Patched world direction first address ∧ Patched world direction second address)

/-- Two ports that must not be patched to the same universe. -/
def Conflict (rig : Rig) (side : Direction) (first : Nat) (direction : Direction) (second : Nat) :
    Prop :=
  ∃ device, first ∈ rig.devicePorts device side ∧ second ∈ rig.devicePorts device direction ∧
    ((side = direction.opposite ∧ rig.allowLooping device = false) ∨
      (side = direction ∧ first ≠ second ∧ rig.allowMultiPortPatching device = false))

/-- What is true of the universes even when a port has refused a change. -/
structure Sound (world : World) : Prop where
  stored : ∀ universeId address, world.universeMap.lookup universeId = some address →
    (world.memory address).universeId = universeId ∧ address < world.next
  known : ∀ direction port address, world.getUniverse direction port = some address →
    address < world.next
  contained : ∀ address direction port, port ∈ (world.memory address).ports direction →
    world.getUniverse direction port = some address

/-- Conflicting ports refer to universes with different ids. -/
def Apart (rig : Rig) (world : World) : Prop :=
  ∀ side first direction second, Conflict rig side first direction second →
    ∀ universeId, world.universeId side first = some universeId →
      world.universeId direction second ≠ some universeId

theorem Sound.patched {world : World} (sound : Sound world) {direction : Direction}
    {port address : Nat} (patched : Patched world direction port address) :
    world.getUniverse direction port = some address := by
  rcases patched with bound | inside
  · omega
  · exact sound.contained address direction port inside

variable {rig : Rig}

theorem Apart.restricted {world : World} (sound : Sound world) (apart : Apart rig world) :
    Restricted rig world := by
  have separate : ∀ side first direction second, Conflict rig side first direction second →
      ∀ address, ¬ (Patched world side first address ∧ Patched world direction second address) := by
    intro side first direction second conflict address both
    have left : world.universeId side first = some (world.memory address).universeId := by
      unfold universeId
      rw [sound.patched both.1, Option.map_some]
    have right : world.universeId direction second = some (world.memory address).universeId := by
      unfold universeId
      rw [sound.patched both.2, Option.map_some]
    exact apart side first direction second conflict _ left right
  constructor
  · intro device forbidden first input second output
    exact separate .input first .output second ⟨device, input, output, Or.inl ⟨rfl, forbidden⟩⟩
  · intro device forbidden direction first here second there different
    exact separate direction first direction second
      ⟨device, here, there, Or.inr ⟨rfl, different, forbidden⟩⟩

theorem Conflict.symm {side direction : Direction} {first second : Nat}
    (conflict : Conflict rig side first direction second) :
    Conflict rig direction second side first := by
  obtain ⟨device, here, there, reason⟩ := conflict
  refine ⟨device, there, here, ?_⟩
  rcases reason with ⟨rfl, forbidden⟩ | ⟨rfl, different, forbidden⟩
  · left
    refine ⟨?_, forbidden⟩
    cases direction <;> rfl
  · exact Or.inr ⟨rfl, different.symm, forbidden⟩

/-- The checks find every port that is in conflict with the one to be patched. -/
theorem Conflict.checked {world : World} {side direction : Direction}
    {first second universeId : Nat} (conflict : Conflict rig side first direction second)
    (passed : world.refused rig direction second universeId = false) :
    world.universeId side first ≠ some universeId := by
  obtain ⟨device, here, there, reason⟩ := conflict
  intro taken
  have owner := rig.own device direction second there
  have matched : ∀ ports, first ∈ ports →
      world.checkForPortMatchingUniverse side ports universeId = true := by
    intro ports member
    unfold checkForPortMatchingUniverse
    rw [List.any_eq_true]
    exact ⟨first, member, by rw [taken, beq_self_eq_true]⟩
  unfold refused at passed
  rw [owner] at passed
  rw [Bool.or_eq_false_iff] at passed
  rcases reason with ⟨rfl, forbidden⟩ | ⟨rfl, different, forbidden⟩
  · rw [forbidden, matched _ here] at passed
    cases passed.1
  · rw [forbidden, matched _ here] at passed
    cases passed.2

/-- The universes of one world are those of the other, with the same ids. -/
structure Extends (world after : World) : Prop where
  next : world.next ≤ after.next
  ids : ∀ address, address < world.next →
    (after.memory address).universeId = (world.memory address).universeId

section Steps

variable {world after : World} {direction : Direction} {port universeId : Nat}

theorem Extends.universeId_eq (extended : Extends world after) (sound : Sound world)
    {side : Direction} {other : Nat}
    (same : after.getUniverse side other = world.getUniverse side other) :
    after.universeId side other = world.universeId side other := by
  unfold universeId
  rw [same]
  cases bound : world.getUniverse side other with
  | none => rfl
  | some address =>
    rw [Option.map_some, Option.map_some, extended.ids address (sound.known side other address bound)]

theorem removePort_cases (world : World) (address : Nat) (direction : Direction) (port : Nat) :
    (world.removePort address direction port).next = world.next ∧
      (∀ other, ((world.removePort address direction port).memory other).universeId =
        (world.memory other).universeId) ∧
      ∀ other side name,
        name ∈ ((world.removePort address direction port).memory other).ports side →
          name ∈ (world.memory other).ports side ∧
            ¬ (other = address ∧ side = direction ∧ name = port) := by
  unfold removePort
  dsimp only
  by_cases inside : port ∈ (world.memory address).ports direction
  · rw [if_pos inside]
    have stored : ∀ other, (world.store address
        ((world.memory address).removePort direction port)).memory other =
          if other = address then (world.memory address).removePort direction port
          else world.memory other := by
      intro other
      unfold store
      dsimp only
      by_cases here : other = address
      · rw [here, Function.update_self, if_pos rfl]
      · rw [Function.update_of_ne here, if_neg here]
    have memory : (if ((world.memory address).removePort direction port).isActive = true
        then world.store address ((world.memory address).removePort direction port)
        else (world.store address ((world.memory address).removePort direction port)
          ).addUniverseGarbageCollection address).memory =
        (world.store address ((world.memory address).removePort direction port)).memory := by
      split <;> rfl
    refine ⟨by split <;> rfl, ?_, ?_⟩
    · intro other
      rw [memory, stored]
      split
      · rw [Universe.removePort_universeId, ‹other = address›]
      · rfl
    · intro other side name
      rw [memory, stored]
      split
      · intro member
        rw [Universe.mem_removePort] at member
        rw [‹other = address›]
        exact ⟨member.2, fun both => member.1 both.2⟩
      · intro member
        exact ⟨member, fun both => absurd both.1 ‹¬ other = address›⟩
  · rw [if_neg inside]
    refine ⟨rfl, fun _ => rfl, ?_⟩
    intro other side name member
    refine ⟨member, ?_⟩
    rintro ⟨rfl, rfl, rfl⟩
    exact inside member

theorem Sound.removePort (sound : Sound world) (address : Nat) (direction : Direction) (port : Nat) :
    Sound (world.removePort address direction port) ∧
      Extends world (world.removePort address direction port) := by
  obtain ⟨next, ids, shrinks⟩ := removePort_cases world address direction port
  have frame := removePort_frame world address direction port
  constructor
  · constructor
    · intro id other stored
      rw [frame.2] at stored
      rw [ids, next]
      exact sound.stored id other stored
    · intro side name other bound
      rw [frame.1] at bound
      rw [next]
      exact sound.known side name other bound
    · intro other side name member
      rw [frame.1]
      exact sound.contained other side name (shrinks other side name member).1
  · exact ⟨le_of_eq next.symm, fun other _ => ids other⟩

theorem Sound.unpatchIfRequired (sound : Sound world) (direction : Direction) (port : Nat) :
    Sound (world.unpatchIfRequired direction port) ∧
      Extends world (world.unpatchIfRequired direction port) ∧
      (world.unpatchIfRequired direction port).getUniverse = world.getUniverse ∧
      ∀ address, port ∉ ((world.unpatchIfRequired direction port).memory address).ports direction := by
  unfold World.unpatchIfRequired
  cases bound : world.getUniverse direction port with
  | none =>
    refine ⟨sound, ⟨le_refl _, fun _ _ => rfl⟩, rfl, ?_⟩
    intro address inside
    have refers := sound.contained address direction port inside
    rw [bound] at refers
    cases refers
  | some address =>
    have bare : Sound { world with brokerPorts := world.brokerPorts.erase (direction, port) } :=
      { sound with }
    obtain ⟨removed, extended⟩ := bare.removePort address direction port
    refine ⟨removed, ⟨extended.next, extended.ids⟩, (removePort_frame _ _ _ _).1, ?_⟩
    intro other inside
    have before := (removePort_cases _ address direction port).2.2 other direction port inside
    have refers := sound.contained other direction port before.1
    rw [bound, Option.some_inj] at refers
    exact before.2 ⟨refers.symm, rfl, rfl⟩

theorem Sound.getUniverseOrCreate (sound : Sound world) (universeId : Nat) :
    Sound (world.getUniverseOrCreate universeId).1 ∧
      Extends world (world.getUniverseOrCreate universeId).1 ∧
      (world.getUniverseOrCreate universeId).1.getUniverse = world.getUniverse ∧
      (world.getUniverseOrCreate universeId).2 < (world.getUniverseOrCreate universeId).1.next ∧
      ((world.getUniverseOrCreate universeId).1.memory
        (world.getUniverseOrCreate universeId).2).universeId = universeId ∧
      ∀ address side name,
        name ∈ ((world.getUniverseOrCreate universeId).1.memory address).ports side →
          name ∈ (world.memory address).ports side := by
  unfold World.getUniverseOrCreate
  cases found : world.universeMap.lookup universeId with
  | some address =>
    have stored := sound.stored universeId address found
    exact ⟨sound, ⟨le_refl _, fun _ _ => rfl⟩, rfl, stored.2, stored.1, fun _ _ _ member => member⟩
  | none =>
    have added : (create world universeId).memory world.next = .new universeId :=
      Function.update_self _ _ _
    have others : ∀ address, address ≠ world.next →
        (create world universeId).memory address = world.memory address :=
      fun address different => Function.update_of_ne different _ _
    have shrinks : ∀ address side name,
        name ∈ ((create world universeId).memory address).ports side →
          name ∈ (world.memory address).ports side := by
      intro address side name member
      by_cases here : address = world.next
      · subst here
        rw [added] at member
        cases side <;> cases member
      · rwa [others address here] at member
    have extended : Extends world (create world universeId) := by
      refine ⟨Nat.le_succ _, ?_⟩
      intro address below
      rw [others address (Nat.ne_of_lt below)]
    have created : Sound (create world universeId) := by
      constructor
      · intro id address stored
        by_cases here : id = universeId
        · subst here
          have same : (create world id).universeMap.lookup id = some world.next :=
            AList.lookup_insert _
          rw [same, Option.some_inj] at stored
          subst stored
          rw [added]
          exact ⟨rfl, Nat.lt_succ_self _⟩
        · have before := sound.stored id address ((AList.lookup_insert_ne here).symm.trans stored)
          rw [extended.ids address before.2]
          exact ⟨before.1, Nat.lt_succ_of_lt before.2⟩
      · intro side name address bound
        exact Nat.lt_succ_of_lt (sound.known side name address bound)
      · intro address side name member
        exact sound.contained address side name (shrinks address side name member)
    refine ⟨created, extended, rfl, Nat.lt_succ_self _, ?_, shrinks⟩
    change ((create world universeId).memory world.next).universeId = universeId
    rw [added]
    rfl

theorem setUniverse_cases (world : World) (direction : Direction) (port : Nat) (target : Option Nat)
    (accepts : Bool) :
    world.setUniverse direction port target accepts =
        ({ world with getUniverse := rebind world.getUniverse direction port target }, true) ∨
      world.setUniverse direction port target accepts = (world, false) := by
  unfold setUniverse
  by_cases same : world.getUniverse direction port = target
  · rw [if_pos same, ← same, rebind_same]
    exact Or.inl rfl
  · rw [if_neg same]
    cases accepts with
    | true => exact Or.inl rfl
    | false => exact Or.inr rfl

/-- The id of the universe that a port refers to, when another world has bound one port
anew. -/
theorem universeId_rebind {side : Direction} {other : Nat} (sound : Sound world)
    (extended : Extends world after) {target : Option Nat}
    (refers : after.getUniverse = rebind world.getUniverse direction port target) :
    after.universeId side other = world.universeId side other ∨
      (side = direction ∧ other = port ∧ after.universeId side other =
        target.map (fun address => (after.memory address).universeId)) := by
  by_cases here : side = direction ∧ other = port
  · right
    refine ⟨here.1, here.2, ?_⟩
    unfold universeId
    rw [refers, here.1, here.2, rebind_self]
  · left
    apply extended.universeId_eq sound
    rw [refers]
    exact if_neg here

/-- What a call can do to the universes that the ports refer to. -/
def Moves (rig : Rig) (world after : World) (call : Call) : Prop :=
  ∀ side other, after.universeId side other = world.universeId side other ∨
    after.universeId side other = none ∨
    ∃ universeId accepts, call = .patchPort side other universeId accepts ∧
      world.refused rig side other universeId = false ∧
      after.universeId side other = some universeId

theorem Sound.addPort {address : Nat} (sound : Sound world) (below : address < world.next)
    (detached : ∀ other, port ∉ (world.memory other).ports direction)
    (ports : Finset (Direction × Nat)) :
    Sound ({ world with
        getUniverse := rebind world.getUniverse direction port (some address)
        brokerPorts := ports }.addPort address direction port) ∧
      Extends world ({ world with
        getUniverse := rebind world.getUniverse direction port (some address)
        brokerPorts := ports }.addPort address direction port) := by
  set bound := { world with
    getUniverse := rebind world.getUniverse direction port (some address)
    brokerPorts := ports }.addPort address direction port
  have here : bound.memory address = (world.memory address).addPort direction port :=
    Function.update_self _ _ _
  have others : ∀ other, other ≠ address → bound.memory other = world.memory other :=
    fun other different => Function.update_of_ne different _ _
  have ids : ∀ other, (bound.memory other).universeId = (world.memory other).universeId := by
    intro other
    by_cases same : other = address
    · rw [same, here, Universe.addPort_universeId]
    · rw [others other same]
  have kept : ∀ other side name, name ∈ (world.memory other).ports side →
      rebind world.getUniverse direction port (some address) side name = some other := by
    intro other side name member
    have moved : ¬ (side = direction ∧ name = port) := by
      rintro ⟨rfl, rfl⟩
      exact detached other member
    unfold rebind
    rw [if_neg moved]
    exact sound.contained other side name member
  constructor
  · constructor
    · intro id other stored
      rw [ids]
      exact sound.stored id other stored
    · intro side name other refers
      change rebind world.getUniverse direction port (some address) side name = some other at refers
      unfold rebind at refers
      split at refers
      · cases refers
        exact below
      · exact sound.known side name other refers
    · intro other side name member
      by_cases same : other = address
      · subst same
        rw [here, Universe.mem_addPort] at member
        rcases member with ⟨rfl, rfl⟩ | member
        · exact rebind_self side name (some other)
        · exact kept other side name member
      · rw [others other same] at member
        exact kept other side name member
  · exact ⟨le_refl _, fun other _ => ids other⟩

theorem Extends.trans {middle : World} (first : Extends world middle)
    (second : Extends middle after) : Extends world after := by
  refine ⟨le_trans first.next second.next, ?_⟩
  intro address below
  rw [second.ids address (lt_of_lt_of_le below first.next), first.ids address below]

theorem Sound.queue (sound : Sound world) (address : Nat) :
    Sound (world.addUniverseGarbageCollection address) :=
  { sound with }

theorem Sound.patchPort (rig : Rig) (sound : Sound world) (direction : Direction)
    (port universeId : Nat) (accepts : Bool) :
    Sound (world.patchPort rig direction port universeId accepts).1 ∧
      Moves rig world (world.patchPort rig direction port universeId accepts).1
        (.patchPort direction port universeId accepts) := by
  unfold World.patchPort
  by_cases patched : world.universeId direction port = some universeId
  · rw [if_pos patched]
    exact ⟨sound, fun _ _ => Or.inl rfl⟩
  · by_cases checked : world.refused rig direction port universeId = true
    · rw [if_neg patched, if_pos checked]
      exact ⟨sound, fun _ _ => Or.inl rfl⟩
    · rw [if_neg patched, if_neg checked]
      obtain ⟨bare, early, refers, detached⟩ := sound.unpatchIfRequired direction port
      set unbound := world.unpatchIfRequired direction port
      obtain ⟨created, late, same, below, id, shrinks⟩ := bare.getUniverseOrCreate universeId
      unfold bindPort
      dsimp only
      set address := (unbound.getUniverseOrCreate universeId).2
      set middle := (unbound.getUniverseOrCreate universeId).1
      have outside : ∀ other, port ∉ (middle.memory other).ports direction :=
        fun other member => detached other (shrinks other direction port member)
      have extended : Extends world middle := early.trans late
      rcases setUniverse_cases middle direction port (some address) accepts with set | refused
      · rw [set]
        obtain ⟨bound, more⟩ := created.addPort below outside
          (insert (direction, port) middle.brokerPorts)
        refine ⟨bound, ?_⟩
        intro side other
        rcases @universeId_rebind world _ direction port side other sound (extended.trans more)
            (some address) (by rw [← refers, ← same]; rfl) with kept | ⟨rfl, rfl, moved⟩
        · exact Or.inl kept
        · refine Or.inr (Or.inr ⟨universeId, accepts, rfl, Bool.eq_false_iff.mpr checked, ?_⟩)
          rw [moved, Option.map_some, more.ids address below, id]
      · rw [refused]
        have unmoved : Moves rig world middle (.patchPort direction port universeId accepts) := by
          intro side other
          exact Or.inl (extended.universeId_eq sound (by rw [same, refers]))
        dsimp only
        split
        · exact ⟨created, unmoved⟩
        · exact ⟨created.queue address, unmoved⟩

theorem Sound.unbind (sound : Sound world)
    (detached : ∀ other, port ∉ (world.memory other).ports direction) :
    Sound { world with getUniverse := rebind world.getUniverse direction port none } := by
  refine ⟨sound.stored, ?_, ?_⟩
  · intro side name other refers
    change rebind world.getUniverse direction port none side name = some other at refers
    unfold rebind at refers
    split at refers
    · cases refers
    · exact sound.known side name other refers
  · intro other side name member
    have moved : ¬ (side = direction ∧ name = port) := by
      rintro ⟨rfl, rfl⟩
      exact detached other member
    change rebind world.getUniverse direction port none side name = some other
    unfold rebind
    rw [if_neg moved]
    exact sound.contained other side name member

theorem Sound.unPatchPort (rig : Rig) (sound : Sound world) (direction : Direction) (port : Nat)
    (accepts : Bool) :
    Sound (world.unPatchPort direction port accepts) ∧
      Moves rig world (world.unPatchPort direction port accepts)
        (.unPatchPort direction port accepts) := by
  obtain ⟨bare, extended, refers, detached⟩ := sound.unpatchIfRequired direction port
  unfold World.unPatchPort
  unfold World.unpatchIfRequired at bare extended refers detached
  cases bound : world.getUniverse direction port with
  | none => exact ⟨{ sound with }, fun _ _ => Or.inl rfl⟩
  | some address =>
    rw [bound] at bare extended refers detached
    dsimp only at bare extended refers detached ⊢
    set unbound := { world with
      brokerPorts := world.brokerPorts.erase (direction, port) }.removePort address direction port
    rcases setUniverse_cases unbound direction port none accepts with set | refused
    · rw [set]
      refine ⟨bare.unbind detached, ?_⟩
      intro side other
      rcases @universeId_rebind world { unbound with
          getUniverse := rebind unbound.getUniverse direction port none } direction port side other
          sound ⟨extended.next, extended.ids⟩ none (by rw [← refers]) with kept | ⟨_, _, moved⟩
      · exact Or.inl kept
      · exact Or.inr (Or.inl moved)
    · rw [refused]
      refine ⟨bare, ?_⟩
      intro side other
      exact Or.inl (extended.universeId_eq sound (by rw [refers]))

theorem Sound.call (rig : Rig) (sound : Sound world) (call : Call) :
    Sound (world.call rig call) ∧ Moves rig world (world.call rig call) call := by
  cases call with
  | patchPort direction port universeId accepts =>
    exact sound.patchPort rig direction port universeId accepts
  | unPatchPort direction port accepts => exact sound.unPatchPort rig direction port accepts

theorem Conflict.irrefl {side : Direction} {port : Nat} : ¬ Conflict rig side port side port := by
  rintro ⟨device, _, _, ⟨same, _⟩ | ⟨_, different, _⟩⟩
  · cases side <;> cases same
  · exact different rfl

/-- A port is patched only to a universe that no port in conflict with it refers to. -/
theorem Apart.moves {call : Call} (apart : Apart rig world) (moves : Moves rig world after call) :
    Apart rig after := by
  intro side first direction second conflict universeId left right
  rcases moves side first with stays | gone | ⟨id, accepts, made, passed, moved⟩
  · rw [stays] at left
    rcases moves direction second with stays | gone | ⟨id, accepts, made, passed, moved⟩
    · rw [stays] at right
      exact apart side first direction second conflict universeId left right
    · rw [gone] at right
      cases right
    · rw [moved, Option.some_inj] at right
      subst right
      exact conflict.checked passed left
  · rw [gone] at left
    cases left
  · rw [moved, Option.some_inj] at left
    subst left
    rcases moves direction second with stays | gone | ⟨other, again, twice, _, _⟩
    · rw [stays] at right
      exact conflict.symm.checked passed right
    · rw [gone] at right
      cases right
    · rw [made] at twice
      cases twice
      exact Conflict.irrefl conflict

theorem patchPort_unbound (rig : Rig) {world : World} (sound : Sound world) {direction : Direction}
    {port : Nat} (unbound : world.getUniverse direction port = none) (universeId : Nat)
    (accepts : Bool) :
    (∀ side other, ¬ (side = direction ∧ other = port) →
        (world.patchPort rig direction port universeId accepts).1.universeId side other =
          world.universeId side other) ∧
      (world.patchPort rig direction port universeId accepts).1.universeId direction port =
        if accepts = true ∧ world.refused rig direction port universeId = false
        then some universeId else none := by
  have nowhere : world.universeId direction port = none := by
    unfold World.universeId
    rw [unbound, Option.map_none]
  have bare : world.unpatchIfRequired direction port = world := by
    unfold unpatchIfRequired
    rw [unbound]
  unfold patchPort
  rw [if_neg (by rw [nowhere]; exact Option.some_ne_none universeId ∘ Eq.symm), bare]
  by_cases checked : world.refused rig direction port universeId = true
  · rw [if_pos checked, if_neg (by rw [checked]; simp)]
    exact ⟨fun _ _ _ => rfl, nowhere⟩
  · rw [if_neg checked]
    obtain ⟨created, extended, same, below, id, shrinks⟩ := sound.getUniverseOrCreate universeId
    unfold bindPort
    dsimp only
    set address := (world.getUniverseOrCreate universeId).2
    set middle := (world.getUniverseOrCreate universeId).1
    have apart : ¬ middle.getUniverse direction port = some address := by
      rw [same, unbound]
      exact Option.some_ne_none address ∘ Eq.symm
    cases accepts with
    | false =>
      have answer : middle.setUniverse direction port (some address) false = (middle, false) := by
        unfold setUniverse
        rw [if_neg apart]
        rfl
      rw [answer, if_neg (by simp)]
      have ids : ∀ side other, middle.universeId side other = world.universeId side other :=
        fun side other => extended.universeId_eq sound (by rw [same])
      dsimp only
      split
      · exact ⟨fun side other _ => ids side other, (ids direction port).trans nowhere⟩
      · exact ⟨fun side other _ => ids side other, (ids direction port).trans nowhere⟩
    | true =>
      have answer : middle.setUniverse direction port (some address) true =
          ({ middle with getUniverse := rebind middle.getUniverse direction port (some address) },
            true) := by
        unfold setUniverse
        rw [if_neg apart]
        rfl
      have outside : ∀ other, port ∉ (middle.memory other).ports direction := by
        intro other member
        have refers := created.contained other direction port member
        rw [same, unbound] at refers
        cases refers
      rw [answer, if_pos ⟨rfl, Bool.eq_false_iff.mpr checked⟩]
      obtain ⟨bound, more⟩ := created.addPort below outside
        (insert (direction, port) middle.brokerPorts)
      constructor
      · intro side other elsewhere
        apply (extended.trans more).universeId_eq sound
        change rebind middle.getUniverse direction port (some address) side other = _
        unfold rebind
        rw [if_neg elsewhere, same]
      · change (rebind middle.getUniverse direction port (some address) direction port).map _ = _
        rw [rebind_self, Option.map_some, Option.some_inj]
        exact (more.ids address below).trans id

end Steps

theorem sound_initial : Sound .initial := by
  constructor
  · intro id address absent
    cases absent
  · intro direction port address absent
    cases absent
  · intro address direction port absent
    cases direction <;> cases absent

theorem apart_initial (rig : Rig) : Apart rig .initial := by
  intro side first direction second _ universeId absent
  cases absent

/-- In every state that calls of `PortManager` lead to, the restrictions of the devices
are respected. -/
theorem calls_restricted (rig : Rig) (calls : List Call) :
    Restricted rig (run (World.call rig) .initial calls) := by
  have invariant : Sound (run (World.call rig) .initial calls) ∧
      Apart rig (run (World.call rig) .initial calls) := by
    refine @run_invariant _ _ _ _ (fun world => Sound world ∧ Apart rig world) ?_ _ _ ?_
      (permitted_true (World.call rig) .initial calls)
    · intro world call both _
      obtain ⟨sound, moves⟩ := both.1.call rig call
      exact ⟨sound, both.2.moves moves⟩
    · exact ⟨sound_initial, apart_initial rig⟩
  exact invariant.2.restricted invariant.1

end OpenLighting.PortManager
