import OpenLighting.DeviceManagerSaving
import OpenLighting.DeviceManagerAliases

namespace OpenLighting.DeviceManager

open PortManager (World Call Conflict)
open Preferences (PreferencesMap)
open StringUtils TransitionSystem PortPriority

section Values

theorem savedUniverseId_intToString {universeId : Nat} (bounded : universeId < 2 ^ 32) :
    savedUniverseId (intToString universeId) =
      if universeId < 2 ^ 31 then some universeId else none := by
  have value : clampLong universeId = universeId := by
    unfold clampLong minLong maxLong
    omega
  have exact : ¬ maxLong < (universeId : Int) := by
    unfold maxLong
    omega
  unfold savedUniverseId
  simp only [strtol_intToString, value, exact, decide_false, Bool.false_eq_true, and_false,
    false_or]
  by_cases small : universeId < 2 ^ 31
  · have kept : (universeId : Int).bmod 0x100000000 = universeId :=
      Int.bmod_eq_of_le (by omega) (by omega)
    rw [kept, if_neg (by omega), if_pos small, Int.toNat_natCast]
  · have wrapped : (universeId : Int).bmod 0x100000000 = universeId - 0x100000000 := by
      rw [← Int.sub_bmod_right]
      exact Int.bmod_eq_of_le (by omega) (by omega)
    rw [wrapped, if_pos (by omega), if_neg small]

variable (setting : PortPriority) {capability : Capability}

theorem setPriorityOverride_eq (capable : capability ≠ .none) {value : Nat}
    (bounded : value ≤ sourcePriorityMax) :
    setting.setPriorityOverride capability value =
      ⟨value, if capability = .full then .override else setting.mode, bounded⟩ := by
  have kept : ¬ value > sourcePriorityMax := Nat.not_lt.mpr bounded
  unfold setPriorityOverride
  rw [if_neg capable]
  dsimp only
  rw [if_neg kept]
  set adjusted := if capability = .full ∧ setting.mode ≠ .override then
    setting.setPriorityMode .override else setting with adjust
  have mode : adjusted.mode = if capability = .full then .override else setting.mode := by
    rw [adjust]
    by_cases full : capability = .full
    · by_cases same : setting.mode = .override
      · rw [if_neg (fun both => both.2 same), if_pos full, same]
      · rw [if_pos ⟨full, same⟩, if_pos full]
        rfl
    · rw [if_neg (fun both => full both.1), if_neg full]
  apply PortPriority.ext
  · split
    · unfold PortPriority.setPriority
      rw [dif_pos bounded]
    · rename_i same
      exact not_not.mp same
  · rw [← mode]
    split
    · unfold setPriority
      rw [dif_pos bounded]
    · rfl

theorem setPriorityInherit_priority :
    (setting.setPriorityInherit capability).priority = setting.priority := by
  unfold setPriorityInherit setPriorityMode
  split
  · rfl
  · split <;> rfl

theorem setPriorityInherit_mode : (setting.setPriorityInherit .full).mode = .inherit := by
  unfold setPriorityInherit setPriorityMode
  rw [if_neg (by decide)]
  split
  · rfl
  · rename_i same
    simpa using same

end Values

section Ports

variable {rig : Rig} {preferences : PreferencesMap} {accepts : Direction → Nat → Nat → Bool}
  {device : Nat} {state : State} {direction : Direction} {port : Nat}

def restoredUniverse (rig : Rig) (preferences : PreferencesMap)
    (accepts : Direction → Nat → Nat → Bool) (direction : Direction) (port : Nat) : Option Nat :=
  let value := preferences.getValue (rig.portUniqueId direction port)
  if value.isEmpty then none
  else
    match savedUniverseId value with
    | none => none
    | some universeId => if accepts direction port universeId then some universeId else none

def restoredPriority (rig : Rig) (preferences : PreferencesMap) (direction : Direction)
    (port : Nat) (setting : PortPriority) : PortPriority :=
  (restorePortPriority rig preferences direction
    { State.initial none with priorities := fun _ _ => setting } port).priorities direction port

theorem restorePortPriority_eq (rig : Rig) (preferences : PreferencesMap) (direction : Direction)
    (state : State) (port : Nat) :
    restorePortPriority rig preferences direction state port =
      state.adjust direction port (restoredPriority rig preferences direction port) := by
  have same : state.adjust direction port (fun setting => setting) = state := by
    have priorities : (fun side other => if side = direction ∧ other = port then
        state.priorities direction port else state.priorities side other) = state.priorities := by
      funext side other
      split
      · rename_i here
        rw [here.1, here.2]
      · rfl
    unfold State.adjust
    rw [priorities]
  unfold restoredPriority restorePortPriority
  dsimp only
  split
  · exact same.symm
  · congr 1
    funext setting
    unfold State.adjust
    dsimp only
    rw [if_pos ⟨rfl, rfl⟩]

/-- Behind a round of the loop. -/
theorem restorePort_cases (rig : Rig) (preferences : PreferencesMap)
    (accepts : Direction → Nat → Nat → Bool) (state : State) {device : Nat} {direction : Direction}
    {port : Nat} (member : port ∈ rig.devicePorts device direction) :
    (restorePort rig preferences accepts direction state port).priorities =
        (state.adjust direction port (restoredPriority rig preferences direction port)).priorities ∧
      (((restorePort rig preferences accepts direction state port).world = state.world ∧
          restoredUniverse rig preferences accepts direction port = none) ∨
        ∃ universeId,
          (restorePort rig preferences accepts direction state port).world =
            (state.world.patchPort rig.toRig direction port universeId
              (accepts direction port universeId)).1 ∧
          restoredUniverse rig preferences accepts direction port =
            if accepts direction port universeId then some universeId else none) := by
  unfold restorePort restoredUniverse
  rw [restorePortPriority_eq]
  dsimp only
  rw [if_neg (by simpa using portUniqueId_ne_nil member)]
  split
  · exact ⟨rfl, Or.inl ⟨rfl, rfl⟩⟩
  · cases savedUniverseId (preferences.getValue (rig.portUniqueId direction port)) with
    | none => exact ⟨rfl, Or.inl ⟨rfl, rfl⟩⟩
    | some universeId => exact ⟨rfl, Or.inr ⟨universeId, rfl, rfl⟩⟩

/-- Some ports of the device have been restored, the others are as they were made. -/
structure Restoring (rig : Rig) (preferences : PreferencesMap)
    (accepts : Direction → Nat → Nat → Bool) (device : Nat) (restored : Direction → Nat → Prop)
    (state : State) : Prop where
  sound : PortManager.Sound state.world
  done : ∀ direction, ∀ port ∈ rig.devicePorts device direction, restored direction port →
    state.world.universeId direction port =
        restoredUniverse rig preferences accepts direction port ∧
      state.priorities direction port =
        restoredPriority rig preferences direction port .initial
  waiting : ∀ direction, ∀ port ∈ rig.devicePorts device direction, ¬ restored direction port →
    state.world.getUniverse direction port = none ∧
      state.priorities direction port = .initial

/-- Ports that must not share a universe are restored to different ones. -/
def Separate (rig : Rig) (preferences : PreferencesMap)
    (accepts : Direction → Nat → Nat → Bool) (device : Nat) : Prop :=
  ∀ side first direction second, first ∈ rig.devicePorts device side →
    second ∈ rig.devicePorts device direction → Conflict rig.toRig side first direction second →
      ∀ universeId, restoredUniverse rig preferences accepts side first = some universeId →
        restoredUniverse rig preferences accepts direction second ≠ some universeId

theorem universeId_of_unbound {world : World} (unbound : world.getUniverse direction port = none) :
    world.universeId direction port = none := by
  unfold World.universeId
  rw [unbound, Option.map_none]

variable {restored : Direction → Nat → Prop}

/-- A port of the device that refers to a universe has been restored to it. -/
theorem Restoring.bound (restoring : Restoring rig preferences accepts device restored state)
    (member : port ∈ rig.devicePorts device direction) {universeId : Nat}
    (found : state.world.universeId direction port = some universeId) :
    restored direction port ∧
      restoredUniverse rig preferences accepts direction port = some universeId := by
  by_cases finished : restored direction port
  · rw [(restoring.done direction port member finished).1] at found
    exact ⟨finished, found⟩
  · rw [universeId_of_unbound (restoring.waiting direction port member finished).1] at found
    cases found

/-- The checks of `PatchPort` let the port through. -/
theorem Restoring.not_refused (restoring : Restoring rig preferences accepts device restored state)
    (separate : Separate rig preferences accepts device)
    (member : port ∈ rig.devicePorts device direction) (waits : ¬ restored direction port)
    {universeId : Nat}
    (expected : restoredUniverse rig preferences accepts direction port = some universeId) :
    state.world.refused rig.toRig direction port universeId = false := by
  have unmatched : ∀ side, (∀ other ∈ rig.devicePorts device side,
      restored side other → Conflict rig.toRig side other direction port) →
      state.world.checkForPortMatchingUniverse side (rig.devicePorts device side) universeId =
        false := by
    intro side conflicts
    unfold World.checkForPortMatchingUniverse
    rw [List.any_eq_false]
    intro other there matched
    obtain ⟨finished, same⟩ := restoring.bound there (beq_iff_eq.mp matched)
    exact separate side other direction port there member (conflicts other there finished)
      universeId same expected
  unfold World.refused
  rw [rig.own device direction port member]
  rw [Bool.or_eq_false_iff]
  constructor
  · cases looping : rig.allowLooping device with
    | true => rfl
    | false =>
      apply unmatched
      intro other there _
      exact ⟨device, there, member, Or.inl ⟨rfl, looping⟩⟩
  · cases multiple : rig.allowMultiPortPatching device with
    | true => rfl
    | false =>
      apply unmatched
      intro other there finished
      refine ⟨device, there, member, Or.inr ⟨rfl, ?_, multiple⟩⟩
      rintro rfl
      exact waits finished

theorem adjust_self (state : State) (direction : Direction) (port : Nat)
    (change : PortPriority → PortPriority) :
    (state.adjust direction port change).priorities direction port =
      change (state.priorities direction port) := if_pos ⟨rfl, rfl⟩

theorem adjust_of_ne (state : State) {direction side : Direction} {port other : Nat}
    (elsewhere : ¬ (side = direction ∧ other = port)) (change : PortPriority → PortPriority) :
    (state.adjust direction port change).priorities side other = state.priorities side other :=
  if_neg elsewhere

theorem Restoring.step (restoring : Restoring rig preferences accepts device restored state)
    (separate : Separate rig preferences accepts device)
    (member : port ∈ rig.devicePorts device direction) (waits : ¬ restored direction port) :
    Restoring rig preferences accepts device
      (fun side other => restored side other ∨ (side = direction ∧ other = port))
      (restorePort rig preferences accepts direction state port) := by
  obtain ⟨priorities, worlds⟩ := restorePort_cases rig preferences accepts state member
  have unbound := (restoring.waiting direction port member waits).1
  set after := restorePort rig preferences accepts direction state port
  have world : PortManager.Sound after.world ∧
      (∀ side other, ¬ (side = direction ∧ other = port) →
        after.world.universeId side other = state.world.universeId side other) ∧
      after.world.universeId direction port =
        restoredUniverse rig preferences accepts direction port := by
    rcases worlds with ⟨same, nothing⟩ | ⟨universeId, patched, expected⟩
    · rw [same, nothing]
      exact ⟨restoring.sound, fun _ _ _ => rfl, universeId_of_unbound unbound⟩
    · obtain ⟨others, self⟩ := PortManager.patchPort_unbound rig.toRig restoring.sound unbound
        universeId (accepts direction port universeId)
      rw [patched]
      refine ⟨(restoring.sound.patchPort rig.toRig _ _ _ _).1, others, ?_⟩
      rw [self]
      by_cases accepted : accepts direction port universeId = true
      · rw [if_pos accepted] at expected
        rw [if_pos ⟨accepted, restoring.not_refused separate member waits expected⟩, expected]
      · rw [if_neg accepted] at expected
        rw [if_neg (fun both => accepted both.1), expected]
  constructor
  · exact world.1
  · intro side other there finished
    by_cases here : side = direction ∧ other = port
    · obtain ⟨rfl, rfl⟩ := here
      rw [priorities, adjust_self, (restoring.waiting side other member waits).2]
      exact ⟨world.2.2, rfl⟩
    · rw [world.2.1 side other here, priorities, adjust_of_ne state here]
      exact restoring.done side other there (finished.resolve_right here)
  · intro side other there remaining
    have elsewhere : ¬ (side = direction ∧ other = port) := fun here => remaining (Or.inr here)
    have before := restoring.waiting side other there (fun finished => remaining (Or.inl finished))
    rw [priorities, adjust_of_ne state elsewhere]
    refine ⟨?_, before.2⟩
    have same := (world.2.1 side other elsewhere).trans (universeId_of_unbound before.1)
    exact Option.map_eq_none_iff.mp same

/-- The loop over the ports of one direction. -/
theorem Restoring.loop (separate : Separate rig preferences accepts device) {ports : List Nat}
    (members : ∀ port ∈ ports, port ∈ rig.devicePorts device direction) (distinct : ports.Nodup)
    (restoring : Restoring rig preferences accepts device restored state)
    (waits : ∀ port ∈ ports, ¬ restored direction port) :
    Restoring rig preferences accepts device
      (fun side other => restored side other ∨ (side = direction ∧ other ∈ ports))
      (ports.foldl (restorePort rig preferences accepts direction) state) := by
  induction ports generalizing state restored with
  | nil =>
    have same : (fun side other => restored side other ∨ (side = direction ∧ other ∈ ([] : List Nat)))
        = restored := by
      funext side other
      simp
    rw [same]
    exact restoring
  | cons port ports ih =>
    rw [List.nodup_cons] at distinct
    have first := restoring.step separate (members port List.mem_cons_self)
      (waits port List.mem_cons_self)
    have rest := ih (fun other inside => members other (List.mem_cons_of_mem port inside))
      distinct.2 first (by
        rintro other inside (finished | ⟨_, rfl⟩)
        · exact waits other (List.mem_cons_of_mem port inside) finished
        · exact distinct.1 inside)
    have same : (fun side other => restored side other ∨ (side = direction ∧ other ∈ port :: ports))
        = fun side other => (restored side other ∨ (side = direction ∧ other = port)) ∨
          (side = direction ∧ other ∈ ports) := by
      funext side other
      simp only [List.mem_cons, eq_iff_iff]
      tauto
    rw [same]
    exact rest

end Ports

section Devices

variable {rig : Rig} {state : State}

/-- The ports of a device that has just been made. -/
def Fresh (rig : Rig) (state : State) (device : Nat) : Prop :=
  ∀ direction, ∀ port ∈ rig.devicePorts device direction,
    state.world.getUniverse direction port = none ∧ state.priorities direction port = .initial

/-- Every port of a device that is installed gets what was saved for it. -/
theorem install_restored {preferences : PreferencesMap} {accepts : Direction → Nat → Nat → Bool}
    {device : Nat} (saved : state.portPreferences = some preferences)
    (sound : PortManager.Sound state.world) (fresh : Fresh rig state device)
    (separate : Separate rig preferences accepts device) (deviceAlias : UInt32)
    {direction : Direction} {port : Nat} (member : port ∈ rig.devicePorts device direction) :
    (state.install rig deviceAlias device accepts).world.universeId direction port =
        restoredUniverse rig preferences accepts direction port ∧
      (state.install rig deviceAlias device accepts).priorities direction port =
        restoredPriority rig preferences direction port .initial := by
  unfold State.install
  dsimp only
  set mapped := { state with aliasMap := state.aliasMap.insert deviceAlias device }
  have start : Restoring rig preferences accepts device (fun _ _ => False) mapped := by
    refine ⟨sound, ?_, ?_⟩
    · intro side other _ impossible
      exact impossible.elim
    · intro side other there _
      exact fresh side other there
  have inputs := Restoring.loop separate (fun _ inside => inside)
    (devicePorts_nodup rig device .input) start (fun _ _ => id)
  have outputs := Restoring.loop separate (fun _ inside => inside)
    (devicePorts_nodup rig device .output) inputs (by
      rintro other _ (impossible | ⟨side, _⟩)
      · exact impossible
      · cases side)
  have first : restorePortSettings rig accepts .input mapped (rig.devicePorts device .input) =
      (rig.devicePorts device .input).foldl (restorePort rig preferences accepts .input) mapped := by
    unfold restorePortSettings
    rw [show mapped.portPreferences = some preferences from saved]
  have second : ∀ middle : State, middle.portPreferences = some preferences →
      restorePortSettings rig accepts .output middle (rig.devicePorts device .output) =
        (rig.devicePorts device .output).foldl (restorePort rig preferences accepts .output)
          middle := by
    intro middle kept
    unfold restorePortSettings
    rw [kept]
  rw [second _ ((restorePortSettings_sameRegistry rig accepts .input mapped _).portPreferences.trans
    saved), first]
  apply outputs.done direction port member
  cases direction with
  | input => exact Or.inl (Or.inr ⟨rfl, member⟩)
  | output => exact Or.inr ⟨rfl, member⟩

/-- What holds in every state of a run, with preferences. -/
structure Ready (rig : Rig) (state : State) : Prop where
  sound : PortManager.Sound state.world
  apart : PortManager.Apart rig.toRig state.world
  plain : ∀ direction port, rig.priorityCapability direction port = .none →
    state.priorities direction port = .initial
  named : state.devices.lookup [] = none
  preferences : state.portPreferences ≠ none

theorem Ready.call (ready : Ready rig state) (call : Call) :
    Ready rig { state with world := state.world.call rig.toRig call } := by
  obtain ⟨sound, moves⟩ := ready.sound.call rig.toRig call
  exact ⟨sound, ready.apart.moves moves, ready.plain, ready.named, ready.preferences⟩

theorem Ready.adjust (ready : Ready rig state) {direction : Direction} {port : Nat}
    {change : PortPriority → PortPriority}
    (still : rig.priorityCapability direction port = .none → change .initial = .initial) :
    Ready rig (state.adjust direction port change) := by
  refine { ready with plain := ?_ }
  intro side other incapable
  by_cases here : side = direction ∧ other = port
  · obtain ⟨rfl, rfl⟩ := here
    rw [adjust_self, ready.plain side other incapable, still incapable]
  · rw [adjust_of_ne state here, ready.plain side other incapable]

theorem restoredPriority_none (preferences : PreferencesMap) {direction : Direction} {port : Nat}
    (incapable : rig.priorityCapability direction port = .none) (setting : PortPriority) :
    restoredPriority rig preferences direction port setting = setting := by
  unfold restoredPriority restorePortPriority
  rw [if_pos (Or.inl incapable)]

theorem Ready.restorePort (ready : Ready rig state) (preferences : PreferencesMap)
    (accepts : Direction → Nat → Nat → Bool) (direction : Direction) (port : Nat) :
    Ready rig (restorePort rig preferences accepts direction state port) := by
  have adjusted : Ready rig (state.adjust direction port
      (restoredPriority rig preferences direction port)) :=
    ready.adjust (fun incapable => restoredPriority_none preferences incapable .initial)
  unfold DeviceManager.restorePort
  rw [restorePortPriority_eq]
  dsimp only
  split
  · exact adjusted
  · split
    · exact adjusted
    · split
      · exact adjusted
      · rename_i universeId _
        exact adjusted.call (.patchPort direction port universeId (accepts direction port universeId))

theorem Ready.restorePortSettings (ready : Ready rig state)
    (accepts : Direction → Nat → Nat → Bool) (direction : Direction) (ports : List Nat) :
    Ready rig (restorePortSettings rig accepts direction state ports) := by
  unfold DeviceManager.restorePortSettings
  cases state.portPreferences with
  | none => exact ready
  | some preferences =>
    induction ports generalizing state with
    | nil => exact ready
    | cons port ports ih => exact ih (ready.restorePort preferences accepts direction port)

theorem Ready.install (ready : Ready rig state) (deviceAlias : UInt32) (device : Nat)
    (accepts : Direction → Nat → Nat → Bool) :
    Ready rig (state.install rig deviceAlias device accepts) := by
  have mapped : Ready rig { state with aliasMap := state.aliasMap.insert deviceAlias device } :=
    { ready with }
  have restored := (mapped.restorePortSettings accepts .input
    (rig.devicePorts device .input)).restorePortSettings accepts .output
      (rig.devicePorts device .output)
  exact { restored with }

theorem Ready.enter (ready : Ready rig state) {deviceId : List UInt8} (named : deviceId ≠ [])
    (pair : DeviceAliasPair) (next : UInt32) :
    Ready rig { state with
      devices := state.devices.insert deviceId pair
      nextDeviceAlias := next } :=
  { ready with named := (AList.lookup_insert_ne (Ne.symm named)).trans ready.named }

theorem Ready.registerDevice (ready : Ready rig state) (device : Option Nat)
    (accepts : Direction → Nat → Nat → Bool) :
    Ready rig (state.registerDevice rig device accepts).1 := by
  unfold State.registerDevice
  cases device with
  | none => exact ready
  | some device =>
    dsimp only
    split
    · exact ready
    · rename_i named
      have named : rig.uniqueId device ≠ [] := by simpa using named
      split
      · exact ready
      · exact (ready.enter named _ state.nextDeviceAlias).install _ device accepts
      · exact (ready.enter named _ (state.nextDeviceAlias + 1)).install _ device accepts

theorem Ready.releaseEntry (ready : Ready rig state) (deviceId : List UInt8) :
    Ready rig (state.releaseEntry rig deviceId) := by
  have preferences : (state.releaseEntry rig deviceId).portPreferences ≠ none ∧
      (state.releaseEntry rig deviceId).world = state.world ∧
      (state.releaseEntry rig deviceId).priorities = state.priorities := by
    unfold State.releaseEntry State.releaseDevice
    cases saved : state.portPreferences with
    | none => exact absurd saved ready.preferences
    | some preferences =>
      split
      · exact ⟨Option.some_ne_none _, rfl, rfl⟩
      · exact ⟨ready.preferences, rfl, rfl⟩
  obtain ⟨saved, world, priorities⟩ := preferences
  refine ⟨by rw [world]; exact ready.sound, by rw [world]; exact ready.apart,
    by rw [priorities]; exact ready.plain, ?_, saved⟩
  rcases releaseEntry_lookup rig state deviceId [] with same | ⟨rfl, _, _, found, _⟩
  · rw [same, ready.named]
  · rw [ready.named] at found
    cases found

theorem Ready.unregisterDeviceId (ready : Ready rig state) (deviceId : List UInt8) :
    Ready rig (state.unregisterDeviceId rig deviceId).1 := by
  have released := ready.releaseEntry deviceId
  unfold State.unregisterDeviceId
  split
  · exact { released with }
  · exact ready

theorem Ready.step (ready : Ready rig state) (input : Input) : Ready rig (state.step rig input) := by
  cases input with
  | registerDevice device accepts => exact ready.registerDevice device accepts
  | unregisterDeviceId deviceId => exact ready.unregisterDeviceId deviceId
  | unregisterDevice device =>
    change Ready rig (state.unregisterDevice rig device).1
    unfold State.unregisterDevice
    cases device with
    | none => exact ready
    | some device =>
      dsimp only
      split
      · exact ready
      · exact ready.unregisterDeviceId _
  | unregisterAllDevices =>
    have released : Ready rig (state.deviceIds.foldl (State.releaseEntry rig) state) := by
      induction state.deviceIds generalizing state with
      | nil => exact ready
      | cons deviceId deviceIds ih => exact ih (ready.releaseEntry deviceId)
    exact { released with }
  | call call => exact ready.call call
  | setPriorityInherit direction port =>
    rw [State.step]
    apply ready.adjust
    intro incapable
    unfold setPriorityInherit
    rw [if_pos incapable]
  | setPriorityOverride direction port value =>
    rw [State.step]
    apply ready.adjust
    intro incapable
    unfold setPriorityOverride
    rw [if_pos incapable]

theorem initial_ready (rig : Rig) (preferences : PreferencesMap) :
    Ready rig (.initial (some preferences)) :=
  ⟨PortManager.sound_initial, PortManager.apart_initial rig.toRig, fun _ _ _ => rfl, rfl,
    Option.some_ne_none preferences⟩

theorem Ready.run (ready : Ready rig state) (inputs : List Input) :
    Ready rig (run (State.step rig) state inputs) :=
  run_invariant (fun _ input ready _ => ready.step input) ready (permitted_true _ _ _)

end Devices

section Again

variable {rig : Rig} {old fresh : Nat}

/-- Two devices with the same ids and capabilities. -/
structure Twin (rig : Rig) (old fresh : Nat) : Prop where
  uniqueId : rig.uniqueId fresh = rig.uniqueId old
  ports : ∀ direction,
    (rig.devicePorts fresh direction).map
        (fun port => (rig.portId direction port, rig.supportsPriorities direction port)) =
      (rig.devicePorts old direction).map
        (fun port => (rig.portId direction port, rig.supportsPriorities direction port))
  allowLooping : rig.allowLooping fresh = rig.allowLooping old
  allowMultiPortPatching : rig.allowMultiPortPatching fresh = rig.allowMultiPortPatching old

/-- The ports with the same id. -/
structure Partners (rig : Rig) (old fresh : Nat) (direction : Direction) (port other : Nat) :
    Prop where
  left : port ∈ rig.devicePorts old direction
  right : other ∈ rig.devicePorts fresh direction
  portId : rig.portId direction port = rig.portId direction other

/-- The new port has the settings of the old one. -/
structure Restored (rig : Rig) (before after : State) (direction : Direction) (port other : Nat) :
    Prop where
  patching : after.world.universeId direction other = before.world.universeId direction port
  priority : (after.priorities direction other).priority =
    (before.priorities direction port).priority
  mode : rig.priorityCapability direction port = .full →
    (after.priorities direction other).mode = (before.priorities direction port).mode

variable {direction : Direction} {other port : Nat} {before : State} {preferences : PreferencesMap}

theorem Twin.partner (twin : Twin rig old fresh) (member : other ∈ rig.devicePorts fresh direction) :
    ∃ port, Partners rig old fresh direction port other ∧
      rig.supportsPriorities direction port = rig.supportsPriorities direction other := by
  have image : (rig.portId direction other, rig.supportsPriorities direction other) ∈
      (rig.devicePorts old direction).map
        (fun port => (rig.portId direction port, rig.supportsPriorities direction port)) := by
    rw [← twin.ports direction]
    exact List.mem_map_of_mem member
  obtain ⟨port, there, same⟩ := List.mem_map.mp image
  exact ⟨port, ⟨there, member, (Prod.mk.inj same).1⟩, (Prod.mk.inj same).2⟩

theorem Partners.capability (twin : Twin rig old fresh)
    (partners : Partners rig old fresh direction port other) :
    rig.priorityCapability direction other = rig.priorityCapability direction port := by
  obtain ⟨found, pairing, same⟩ := twin.partner partners.right
  have equal := port_eq_of_portId pairing.left partners.left
    (pairing.portId.trans partners.portId.symm)
  unfold Rig.priorityCapability
  rw [← equal, same]

theorem Partners.portUniqueId (twin : Twin rig old fresh)
    (partners : Partners rig old fresh direction port other) :
    rig.portUniqueId direction other = rig.portUniqueId direction port := by
  rw [portUniqueId_eq partners.left, portUniqueId_eq partners.right, twin.uniqueId,
    partners.portId]

/-- Ports of the new device are in conflict as those of the old one are. -/
theorem Partners.conflict {side : Direction} {first second : Nat} (twin : Twin rig old fresh)
    (one : Partners rig old fresh side first port)
    (two : Partners rig old fresh direction second other)
    (conflict : Conflict rig.toRig side port direction other) :
    Conflict rig.toRig side first direction second := by
  obtain ⟨device, here, there, reason⟩ := conflict
  have owner : device = fresh := by
    have left := rig.own device side port here
    rw [rig.own fresh side port one.right, Option.some_inj] at left
    omega
  subst owner
  refine ⟨old, one.left, two.left, ?_⟩
  rcases reason with ⟨opposite, forbidden⟩ | ⟨rfl, different, forbidden⟩
  · exact Or.inl ⟨opposite, by rw [← twin.allowLooping, forbidden]⟩
  · refine Or.inr ⟨rfl, ?_, by rw [← twin.allowMultiPortPatching, forbidden]⟩
    rintro rfl
    exact different (port_eq_of_portId here there (one.portId.symm.trans two.portId))

section Saved

variable {before : State} {preferences : PreferencesMap}
  {accepts : Direction → Nat → Nat → Bool} {direction : Direction} {port other : Nat}

/-- The universe that the saved preferences give back to a port. -/
theorem restoredUniverse_saveDevice (twin : Twin rig old fresh)
    (partners : Partners rig old fresh direction port other)
    (bounded : ∀ universeId, before.world.universeId direction port = some universeId →
      universeId < 2 ^ 32) :
    restoredUniverse rig (saveDevice rig before preferences old) accepts direction other =
      (before.world.universeId direction port).bind (fun universeId =>
        if universeId < 2 ^ 31 ∧ accepts direction other universeId = true then some universeId
        else none) := by
  unfold restoredUniverse
  rw [partners.portUniqueId twin, saveDevice_patching before preferences partners.left]
  unfold patchingValue
  cases found : before.world.universeId direction port with
  | none => rfl
  | some universeId =>
    rw [if_neg (by simpa using intToString_ne_nil universeId),
      savedUniverseId_intToString (bounded universeId found), Option.bind_some]
    by_cases small : universeId < 2 ^ 31
    · rw [if_pos small]
      simp only [small, true_and]
    · rw [if_neg small, if_neg (fun both => small both.1)]

/-- The priority that the saved preferences give back to a port. -/
theorem restoredPriority_saveDevice (ready : Ready rig before) (twin : Twin rig old fresh)
    (partners : Partners rig old fresh direction port other) :
    (restoredPriority rig (saveDevice rig before preferences old) direction other .initial).priority =
        (before.priorities direction port).priority ∧
      (rig.priorityCapability direction port = .full →
        (restoredPriority rig (saveDevice rig before preferences old) direction other .initial).mode =
          (before.priorities direction port).mode) := by
  by_cases incapable : rig.priorityCapability direction port = .none
  · rw [restoredPriority_none _ ((partners.capability twin).trans incapable),
      ready.plain direction port incapable]
    exact ⟨rfl, fun _ => rfl⟩
  · have bounded := (before.priorities direction port).bounded
    have value : stringToUInt8 (intToString (before.priorities direction port).priority) =
        some (before.priorities direction port).priority := by
      apply stringToUInt8_intToString
      unfold sourcePriorityMax at bounded
      omega
    unfold restoredPriority restorePortPriority
    dsimp only
    rw [partners.portUniqueId twin, partners.capability twin,
      saveDevice_value before preferences partners.left incapable, value, if_neg, adjust_self]
    · dsimp only
      rw [setPriorityOverride_eq .initial incapable bounded]
      constructor
      · split
        · split
          · rw [setPriorityInherit_priority]
          · rfl
        · rfl
      · intro full
        rw [saveDevice_mode before preferences partners.left full, full]
        have mode : stringToUInt8 (intToString (before.priorities direction port).mode.toNat) =
            some (before.priorities direction port).mode.toNat := by
          apply stringToUInt8_intToString
          cases (before.priorities direction port).mode <;> decide
        rw [mode]
        cases (before.priorities direction port).mode with
        | inherit =>
          dsimp only
          rw [if_pos rfl, setPriorityInherit_mode]
        | override => rfl
    · rintro (absent | empty | ⟨empty, _⟩)
      · exact incapable absent
      · exact portUniqueId_ne_nil partners.left (by simpa using empty)
      · exact intToString_ne_nil _ (by simpa using empty)

end Saved

/-- The universe of every port fits in an `int`, and the new port accepts it. -/
def Restorable (rig : Rig) (before : State) (accepts : Direction → Nat → Nat → Bool)
    (old fresh : Nat) : Prop :=
  ∀ direction port other, Partners rig old fresh direction port other →
    ∀ universeId, before.world.universeId direction port = some universeId →
      universeId < 2 ^ 31 ∧ accepts direction other universeId = true

theorem run_calls_sameRegistry (rig : Rig) (state : State) (calls : List Call) :
    SameRegistry state (run (State.step rig) state (calls.map .call)) := by
  induction calls generalizing state with
  | nil => exact .refl state
  | cons call calls ih =>
    have first : SameRegistry state (state.step rig (.call call)) := ⟨rfl, rfl, rfl, rfl, rfl⟩
    exact first.trans (ih _)

theorem unregisterDeviceId_saved {deviceAlias : UInt32}
    (saved : before.portPreferences = some preferences)
    (registered : before.devices.lookup (rig.uniqueId old) = some ⟨deviceAlias, some old⟩) :
    (before.unregisterDeviceId rig (rig.uniqueId old)).1.portPreferences =
        some (saveDevice rig before preferences old) ∧
      (before.unregisterDeviceId rig (rig.uniqueId old)).1.devices.lookup (rig.uniqueId old) =
        some ⟨deviceAlias, none⟩ := by
  rw [unregisterDeviceId_found rig registered]
  unfold State.releaseEntry State.releaseDevice
  rw [registered, saved]
  exact ⟨rfl, AList.lookup_insert _⟩

section
variable (ready : Ready rig before) (twin : Twin rig old fresh)
  (bounded : ∀ direction, ∀ port ∈ rig.devicePorts old direction, ∀ universeId,
    before.world.universeId direction port = some universeId → universeId < 2 ^ 32)
include ready twin bounded

theorem separate_saveDevice {accepts : Direction → Nat → Nat → Bool} :
    Separate rig (saveDevice rig before preferences old) accepts fresh := by
  have same : ∀ direction other port universeId, Partners rig old fresh direction port other →
      restoredUniverse rig (saveDevice rig before preferences old) accepts direction other =
        some universeId → before.world.universeId direction port = some universeId := by
    intro direction other port universeId partners restored
    rw [restoredUniverse_saveDevice twin partners (bounded direction port partners.left)] at restored
    obtain ⟨found, there, kept⟩ := Option.bind_eq_some_iff.mp restored
    split at kept
    · cases kept
      exact there
    · cases kept
  intro side first direction second one two conflict universeId left right
  obtain ⟨port, partners, _⟩ := twin.partner one
  obtain ⟨other, pairing, _⟩ := twin.partner two
  exact ready.apart side port direction other (partners.conflict twin pairing conflict) universeId
    (same side first port universeId partners left)
    (same direction second other universeId pairing right)

theorem registerDevice_restored_iff {later : State} {accepts : Direction → Nat → Nat → Bool}
    {deviceAlias : UInt32}
    (kept : later.portPreferences = some (saveDevice rig before preferences old))
    (named : rig.uniqueId fresh ≠ [])
    (idle : later.devices.lookup (rig.uniqueId fresh) = some ⟨deviceAlias, none⟩)
    (sound : PortManager.Sound later.world) (unused : Fresh rig later fresh)
    (partners : Partners rig old fresh direction port other) :
    Restored rig before (later.registerDevice rig (some fresh) accepts).1 direction port other ↔
      ∀ universeId, before.world.universeId direction port = some universeId →
        universeId < 2 ^ 31 ∧ accepts direction other universeId = true := by
  have installed : (later.registerDevice rig (some fresh) accepts).1 =
      { later with
        devices := later.devices.insert (rig.uniqueId fresh) ⟨deviceAlias, some fresh⟩ }.install
          rig deviceAlias fresh accepts := by
    unfold State.registerDevice
    dsimp only
    rw [if_neg (by simpa using named), idle]
  obtain ⟨patching, setting⟩ := @install_restored rig
    { later with
      devices := later.devices.insert (rig.uniqueId fresh) ⟨deviceAlias, some fresh⟩ }
    (saveDevice rig before preferences old) accepts fresh kept sound unused
    (separate_saveDevice ready twin bounded) deviceAlias direction other partners.right
  obtain ⟨priority, mode⟩ :=
    @restoredPriority_saveDevice rig old fresh before preferences direction port other ready twin
      partners
  rw [restoredUniverse_saveDevice twin partners (bounded direction port partners.left)] at patching
  rw [installed]
  constructor
  · intro restored universeId found
    have same := restored.patching
    rw [patching, found, Option.bind_some] at same
    by_cases fine : universeId < 2 ^ 31 ∧ accepts direction other universeId = true
    · exact fine
    · rw [if_neg fine] at same
      cases same
  · intro fine
    refine ⟨?_, by rw [setting, priority], fun full => by rw [setting, mode full]⟩
    rw [patching]
    cases found : before.world.universeId direction port with
    | none => rfl
    | some universeId => rw [Option.bind_some, if_pos (fine universeId found)]

end

/-- A device that is registered again has its settings back if and only if the universes
of its ports can be restored. -/
theorem settings_restored_iff (rig : Rig) (preferences : PreferencesMap) (inputs : List Input)
    {old fresh : Nat} {deviceAlias : UInt32} (twin : Twin rig old fresh)
    (registered : (run (State.step rig) (.initial (some preferences)) inputs).devices.lookup
      (rig.uniqueId old) = some ⟨deviceAlias, some old⟩)
    (bounded : ∀ direction, ∀ port ∈ rig.devicePorts old direction, ∀ universeId,
      (run (State.step rig) (.initial (some preferences)) inputs).world.universeId direction port =
        some universeId → universeId < 2 ^ 32)
    (calls : List Call)
    (unused : Fresh rig (run (State.step rig) (.initial (some preferences))
      (inputs ++ .unregisterDeviceId (rig.uniqueId old) :: calls.map .call)) fresh)
    (accepts : Direction → Nat → Nat → Bool) :
    (∀ direction port other, Partners rig old fresh direction port other →
      Restored rig (run (State.step rig) (.initial (some preferences)) inputs)
        (run (State.step rig) (.initial (some preferences))
          (inputs ++ .unregisterDeviceId (rig.uniqueId old) :: calls.map .call ++
            [.registerDevice (some fresh) accepts]))
        direction port other) ↔
      Restorable rig (run (State.step rig) (.initial (some preferences)) inputs) accepts old fresh := by
  rw [run_append _ _ (inputs ++ _), run_cons, run_nil]
  set before := run (State.step rig) (.initial (some preferences)) inputs with reached
  set later := run (State.step rig) (.initial (some preferences))
    (inputs ++ .unregisterDeviceId (rig.uniqueId old) :: calls.map .call) with gone
  have ready : Ready rig before := (initial_ready rig preferences).run inputs
  have sound : Ready rig later := (initial_ready rig preferences).run _
  obtain ⟨current, saved⟩ := Option.ne_none_iff_exists'.mp ready.preferences
  have left := unregisterDeviceId_saved saved registered
  have calm : SameRegistry (before.unregisterDeviceId rig (rig.uniqueId old)).1 later := by
    rw [gone, run_append, ← reached, run_cons]
    exact run_calls_sameRegistry rig _ calls
  have kept : later.portPreferences = some (saveDevice rig before current old) :=
    calm.portPreferences.trans left.1
  have idle : later.devices.lookup (rig.uniqueId fresh) = some ⟨deviceAlias, none⟩ := by
    rw [calm.devices, twin.uniqueId]
    exact left.2
  have named : rig.uniqueId fresh ≠ [] := by
    intro empty
    rw [← twin.uniqueId, empty, ready.named] at registered
    cases registered
  have given : ∀ direction port other, Partners rig old fresh direction port other →
      (Restored rig before (later.step rig (.registerDevice (some fresh) accepts)) direction port
        other ↔ ∀ universeId, before.world.universeId direction port = some universeId →
          universeId < 2 ^ 31 ∧ accepts direction other universeId = true) := by
    intro direction port other partners
    exact registerDevice_restored_iff ready twin bounded kept named idle sound.sound unused partners
  constructor
  · intro all direction port other partners
    exact (given direction port other partners).mp (all direction port other partners)
  · intro all direction port other partners
    exact (given direction port other partners).mpr (all direction port other partners)

/-- Two devices with the same id, each with one input port. -/
def twinRig : Rig where
  getDevice := fun direction port =>
    if direction = .input ∧ (port = 1 ∨ port = 2) then some port else none
  devicePorts := fun device direction =>
    if direction = .input ∧ (device = 1 ∨ device = 2) then [device] else []
  allowLooping := fun _ => false
  allowMultiPortPatching := fun _ => false
  own := by
    intro device direction port member
    split at member
    · rename_i here
      rw [List.mem_singleton.mp member, if_pos here]
    · cases member
  uniqueId := fun _ => [50, 45, 49]
  portId := fun _ _ => 1
  supportsPriorities := fun _ _ => true
  supportsTimeCode := fun _ => false
  ordered := by
    intro device direction
    split
    · exact List.pairwise_singleton _ _
    · exact .nil

/-- The first device is registered, its port is patched and gets a priority. -/
def twinInputs (universeId : Nat) : List Input :=
  [.registerDevice (some 1) (fun _ _ _ => true), .call (.patchPort .input 1 universeId true),
    .setPriorityOverride .input 1 150]

/-- The second device takes its place. -/
def twinAgain (universeId : Nat) : List Input :=
  twinInputs universeId ++ [.unregisterDeviceId [50, 45, 49]] ++
    [.registerDevice (some 2) (fun _ _ _ => true)]

theorem twinRig_twin : Twin twinRig 1 2 := by
  refine ⟨rfl, ?_, rfl, rfl⟩
  intro direction
  cases direction <;> rfl

theorem universe_seven_restored :
    Restored twinRig (run (State.step twinRig) (.initial (some .empty)) (twinInputs 7))
      (run (State.step twinRig) (.initial (some .empty)) (twinAgain 7)) .input 1 2 := by
  have patched : (run (State.step twinRig) (.initial (some .empty)) (twinInputs 7)).world.universeId
      .input 1 = some 7 := by decide +kernel
  have only : ∀ direction, ∀ port ∈ twinRig.devicePorts 1 direction,
      direction = .input ∧ port = 1 := by
    intro direction port member
    cases direction with
    | input => exact ⟨rfl, List.mem_singleton.mp member⟩
    | output => cases member
  refine (@settings_restored_iff twinRig .empty (twinInputs 7) 1 2 1 twinRig_twin ?_ ?_
    [] ?_ (fun _ _ _ => true)).mpr ?_ .input 1 2 ?_
  · decide +kernel
  · intro direction port member universeId found
    obtain ⟨rfl, rfl⟩ := only direction port member
    cases found
    decide
  · intro direction port member
    cases direction with
    | input =>
      rw [List.mem_singleton.mp member]
      decide +kernel
    | output => cases member
  · intro direction port other partners universeId found
    obtain ⟨rfl, rfl⟩ := only direction port partners.left
    rw [patched] at found
    cases found
    exact ⟨by decide, rfl⟩
  · exact ⟨List.mem_singleton_self 1, List.mem_singleton_self 2, rfl⟩

/-- A universe id that does not fit in an `int` is lost. -/
theorem large_universe_not_restored :
    Partners twinRig 1 2 .input 1 2 ∧
      ¬ Restored twinRig (run (State.step twinRig) (.initial (some .empty)) (twinInputs 0x80000000))
        (run (State.step twinRig) (.initial (some .empty)) (twinAgain 0x80000000)) .input 1 2 := by
  refine ⟨⟨List.mem_singleton_self 1, List.mem_singleton_self 2, rfl⟩, ?_⟩
  intro restored
  exact absurd restored.patching (by decide +kernel)

end Again

end OpenLighting.DeviceManager
