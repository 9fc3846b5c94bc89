import OpenLighting.DeviceManager
import OpenLighting.FiniteMap

namespace OpenLighting.DeviceManager

open TransitionSystem FiniteMap

/-- The map of the aliases, the aliases themselves and the time code ports agree with the
devices that are registered. -/
structure Consistent (rig : Rig) (state : State) : Prop where
  exact : ∀ deviceAlias device, state.aliasMap.lookup deviceAlias = some device ↔
    ∃ deviceId, state.devices.lookup deviceId = some ⟨deviceAlias, some device⟩
  distinct : ∀ first second pair other, state.devices.lookup first = some pair →
    state.devices.lookup second = some other → pair.deviceAlias = other.deviceAlias →
    first = second
  timecode : ∀ port ∈ state.timecodePorts, ∃ deviceId deviceAlias device,
    state.devices.lookup deviceId = some ⟨deviceAlias, some device⟩ ∧
      port ∈ rig.devicePorts device .output

/-- A device with time code ports is released only if there are preferences, and a new id
is registered only while there is an alias that no id has. -/
def Sustainable (rig : Rig) (state : State) : Input → Prop
  | .registerDevice (some device) _ =>
    rig.uniqueId device ≠ [] → rig.uniqueId device ∉ state.devices →
      state.devices.keys.length < 2 ^ 32
  | .unregisterDeviceId deviceId =>
    state.portPreferences = none → ∀ deviceAlias device,
      state.devices.lookup deviceId = some ⟨deviceAlias, some device⟩ →
        rig.timecodePorts device = []
  | .unregisterDevice (some device) =>
    state.portPreferences = none → rig.uniqueId device ≠ [] → ∀ deviceAlias registered,
      state.devices.lookup (rig.uniqueId device) = some ⟨deviceAlias, some registered⟩ →
        rig.timecodePorts registered = []
  | .unregisterAllDevices =>
    state.portPreferences = none → ∀ deviceId deviceAlias device,
      state.devices.lookup deviceId = some ⟨deviceAlias, some device⟩ →
        rig.timecodePorts device = []
  | _ => True

section Aliases

variable {devices : AList (fun _ : List UInt8 => DeviceAliasPair)} {next : UInt32}

/-- The aliases are those that were handed out one after the other. -/
structure Numbered (devices : AList (fun _ : List UInt8 => DeviceAliasPair)) (next : UInt32) :
    Prop where
  next : next = UInt32.ofNat (devices.keys.length + 1)
  known : ∀ deviceId pair, devices.lookup deviceId = some pair →
    ∃ index < devices.keys.length, pair.deviceAlias = UInt32.ofNat (index + 1)
  used : ∀ index < devices.keys.length,
    ∃ deviceId pair, devices.lookup deviceId = some pair ∧
      pair.deviceAlias = UInt32.ofNat (index + 1)
  distinct : ∀ first second pair other, devices.lookup first = some pair →
    devices.lookup second = some other → pair.deviceAlias = other.deviceAlias → first = second

/-- An entry gets or loses its device. -/
theorem Numbered.update (numbered : Numbered devices next) {deviceId : List UInt8}
    {pair : DeviceAliasPair} (found : devices.lookup deviceId = some pair) (device : Option Nat) :
    Numbered (devices.insert deviceId ⟨pair.deviceAlias, device⟩) next := by
  have length := length_keys_insert_of_mem (mem_of_lookup found)
    (⟨pair.deviceAlias, device⟩ : DeviceAliasPair)
  have before : ∀ other entry,
      (devices.insert deviceId ⟨pair.deviceAlias, device⟩).lookup other = some entry →
        ∃ old, devices.lookup other = some old ∧ old.deviceAlias = entry.deviceAlias := by
    intro other entry present
    rw [lookup_insert_eq] at present
    split at present
    · rename_i same
      cases present
      exact ⟨pair, by rw [same, found], rfl⟩
    · exact ⟨entry, present, rfl⟩
  constructor
  · rw [length]
    exact numbered.next
  · intro other entry present
    obtain ⟨old, there, same⟩ := before other entry present
    rw [length, ← same]
    exact numbered.known other old there
  · intro index below
    rw [length] at below
    obtain ⟨other, entry, there, same⟩ := numbered.used index below
    by_cases here : other = deviceId
    · rw [here, found, Option.some_inj] at there
      refine ⟨deviceId, ⟨pair.deviceAlias, device⟩, AList.lookup_insert _, ?_⟩
      rw [there]
      exact same
    · exact ⟨other, entry, (AList.lookup_insert_ne here).trans there, same⟩
  · intro first second entry other one two shared
    obtain ⟨early, there, same⟩ := before first entry one
    obtain ⟨late, also, equal⟩ := before second other two
    exact numbered.distinct first second early late there also (by rw [same, equal, shared])

variable {deviceId : List UInt8}

/-- A new id gets an alias that no other id has. -/
theorem Numbered.add (numbered : Numbered devices next) (absent : deviceId ∉ devices)
    (few : devices.keys.length < 2 ^ 32) (device : Option Nat) :
    Numbered (devices.insert deviceId ⟨next, device⟩) (next + 1) := by
  have length := length_keys_insert_of_notMem absent
    (⟨next, device⟩ : DeviceAliasPair)
  have unused : ∀ other entry, devices.lookup other = some entry → entry.deviceAlias ≠ next := by
    intro other entry present same
    obtain ⟨index, below, number⟩ := numbered.known other entry present
    rw [same, numbered.next] at number
    have equal := congrArg UInt32.toNat number
    rw [UInt32.toNat_ofNat', UInt32.toNat_ofNat'] at equal
    omega
  constructor
  · rw [length, numbered.next]
    exact (UInt32.ofNat_add _ 1).symm
  · intro other entry present
    rw [lookup_insert_eq] at present
    rw [length]
    split at present
    · cases present
      exact ⟨devices.keys.length, by omega, numbered.next⟩
    · obtain ⟨index, below, number⟩ := numbered.known other entry present
      exact ⟨index, by omega, number⟩
  · intro index below
    rw [length] at below
    by_cases last : index = devices.keys.length
    · subst last
      exact ⟨deviceId, ⟨next, device⟩, AList.lookup_insert _, numbered.next⟩
    · obtain ⟨other, entry, there, same⟩ := numbered.used index (by omega)
      have different : other ≠ deviceId := by
        rintro rfl
        exact absent (mem_of_lookup there)
      exact ⟨other, entry, (AList.lookup_insert_ne different).trans there, same⟩
  · intro first second entry other one two shared
    rw [lookup_insert_eq] at one two
    split at one <;> split at two
    · rw [‹first = deviceId›, ‹second = deviceId›]
    · cases one
      exact absurd shared.symm (unused second other two)
    · cases two
      exact absurd shared (unused first entry one)
    · exact numbered.distinct first second entry other one two shared

/-- When all aliases are in use, the next one belongs to an id. -/
theorem Numbered.exhausted (numbered : Numbered devices next)
    (many : 2 ^ 32 ≤ devices.keys.length) :
    ∃ deviceId pair, devices.lookup deviceId = some pair ∧ pair.deviceAlias = next := by
  obtain ⟨deviceId, pair, found, number⟩ :=
    numbered.used (devices.keys.length - 2 ^ 32) (by omega)
  refine ⟨deviceId, pair, found, ?_⟩
  rw [number, numbered.next]
  apply UInt32.toNat_inj.mp
  rw [UInt32.toNat_ofNat', UInt32.toNat_ofNat']
  omega

/-- The map of the aliases has the devices that are registered. -/
def Exact (devices : AList (fun _ : List UInt8 => DeviceAliasPair))
    (aliasMap : AList (fun _ : UInt32 => Nat)) : Prop :=
  ∀ deviceAlias device, aliasMap.lookup deviceAlias = some device ↔
    ∃ deviceId, devices.lookup deviceId = some ⟨deviceAlias, some device⟩

variable {aliasMap : AList (fun _ : UInt32 => Nat)}

theorem Exact.install (exact : Exact devices aliasMap) {deviceAlias : UInt32} {device : Nat}
    (idle : ∀ other registered, devices.lookup deviceId ≠ some ⟨other, some registered⟩)
    (numbered : Numbered (devices.insert deviceId ⟨deviceAlias, some device⟩) next) :
    Exact (devices.insert deviceId ⟨deviceAlias, some device⟩)
      (aliasMap.insert deviceAlias device) := by
  have self : (devices.insert deviceId ⟨deviceAlias, some device⟩).lookup deviceId =
      some ⟨deviceAlias, some device⟩ := AList.lookup_insert _
  intro other registered
  rw [lookup_insert_eq]
  by_cases same : other = deviceAlias
  · subst same
    rw [if_pos rfl, Option.some_inj]
    constructor
    · rintro rfl
      exact ⟨deviceId, self⟩
    · rintro ⟨holder, found⟩
      have here := numbered.distinct holder deviceId _ _ found self rfl
      rw [here, self] at found
      cases found
      rfl
  · rw [if_neg same, exact other registered]
    constructor
    · rintro ⟨holder, found⟩
      refine ⟨holder, ?_⟩
      rw [lookup_insert_eq, if_neg, found]
      rintro rfl
      exact idle other registered found
    · rintro ⟨holder, found⟩
      rw [lookup_insert_eq] at found
      split at found
      · cases found
        exact absurd rfl same
      · exact ⟨holder, found⟩

theorem Exact.remove (exact : Exact devices aliasMap) (numbered : Numbered devices next)
    {deviceAlias : UInt32} {device : Nat}
    (found : devices.lookup deviceId = some ⟨deviceAlias, some device⟩) :
    Exact (devices.insert deviceId ⟨deviceAlias, none⟩) (aliasMap.erase deviceAlias) := by
  intro other registered
  rw [lookup_erase_eq]
  constructor
  · intro kept
    split at kept
    · cases kept
    · rename_i different
      obtain ⟨holder, there⟩ := (exact other registered).mp kept
      refine ⟨holder, ?_⟩
      rw [lookup_insert_eq, if_neg, there]
      rintro rfl
      rw [found] at there
      cases there
      exact different rfl
  · rintro ⟨holder, there⟩
    rw [lookup_insert_eq] at there
    split at there
    · cases there
    · rename_i elsewhere
      rw [if_neg, (exact other registered).mpr ⟨holder, there⟩]
      rintro rfl
      exact elsewhere (numbered.distinct holder deviceId _ _ there found rfl)

end Aliases

section Frames

/-- Two states that differ at most in the universes and the priorities of the ports. -/
structure SameRegistry (state after : State) : Prop where
  portPreferences : after.portPreferences = state.portPreferences
  devices : after.devices = state.devices
  aliasMap : after.aliasMap = state.aliasMap
  nextDeviceAlias : after.nextDeviceAlias = state.nextDeviceAlias
  timecodePorts : after.timecodePorts = state.timecodePorts

theorem SameRegistry.refl (state : State) : SameRegistry state state := ⟨rfl, rfl, rfl, rfl, rfl⟩

variable {state : State}

theorem SameRegistry.trans {middle after : State} (first : SameRegistry state middle)
    (second : SameRegistry middle after) : SameRegistry state after :=
  ⟨second.portPreferences.trans first.portPreferences, second.devices.trans first.devices,
    second.aliasMap.trans first.aliasMap, second.nextDeviceAlias.trans first.nextDeviceAlias,
    second.timecodePorts.trans first.timecodePorts⟩

variable (rig : Rig)

theorem restorePort_sameRegistry (preferences : Preferences.PreferencesMap)
    (accepts : Direction → Nat → Nat → Bool) (direction : Direction) (state : State) (port : Nat) :
    SameRegistry state (restorePort rig preferences accepts direction state port) := by
  have priority : SameRegistry state
      (restorePortPriority rig preferences direction state port) := by
    unfold restorePortPriority
    dsimp only
    split
    · exact .refl state
    · exact ⟨rfl, rfl, rfl, rfl, rfl⟩
  unfold restorePort
  dsimp only
  split
  · exact priority
  · split
    · exact priority
    · split
      · exact priority
      · exact priority.trans ⟨rfl, rfl, rfl, rfl, rfl⟩

theorem restorePortSettings_sameRegistry (accepts : Direction → Nat → Nat → Bool)
    (direction : Direction) (state : State) (ports : List Nat) :
    SameRegistry state (restorePortSettings rig accepts direction state ports) := by
  unfold restorePortSettings
  cases state.portPreferences with
  | none => exact .refl state
  | some preferences =>
    induction ports generalizing state with
    | nil => exact .refl state
    | cons port ports ih =>
      exact (restorePort_sameRegistry rig preferences accepts direction state port).trans (ih _)

theorem install_registry (rig : Rig) (state : State) (deviceAlias : UInt32) (device : Nat)
    (accepts : Direction → Nat → Nat → Bool) :
    SameRegistry
      { state with
        aliasMap := state.aliasMap.insert deviceAlias device
        timecodePorts := state.timecodePorts ∪ (rig.timecodePorts device).toFinset }
      (state.install rig deviceAlias device accepts) := by
  set mapped := { state with aliasMap := state.aliasMap.insert deviceAlias device }
  have inputs := restorePortSettings_sameRegistry rig accepts .input mapped
    (rig.devicePorts device .input)
  have both := inputs.trans (restorePortSettings_sameRegistry rig accepts .output _
    (rig.devicePorts device .output))
  refine { both with timecodePorts := ?_ }
  change _ ∪ _ = _ ∪ _
  rw [both.timecodePorts]

theorem releaseEntry_found {deviceId : List UInt8} {deviceAlias : UInt32} {device : Nat}
    (found : state.devices.lookup deviceId = some ⟨deviceAlias, some device⟩) :
    (state.releaseEntry rig deviceId).devices =
        state.devices.insert deviceId ⟨deviceAlias, none⟩ ∧
      (state.releaseEntry rig deviceId).nextDeviceAlias = state.nextDeviceAlias ∧
      (state.releaseEntry rig deviceId).aliasMap = state.aliasMap ∧
      ((state.releaseEntry rig deviceId).portPreferences = none ↔ state.portPreferences = none) ∧
      (state.releaseEntry rig deviceId).timecodePorts =
        if state.portPreferences = none then state.timecodePorts
        else state.timecodePorts \ (rig.devicePorts device .output).toFinset := by
  unfold State.releaseEntry
  rw [found]
  unfold State.releaseDevice
  cases preferences : state.portPreferences with
  | none => exact ⟨rfl, rfl, rfl, by simp [preferences], by simp⟩
  | some preferences => exact ⟨rfl, rfl, rfl, by simp, by simp⟩

theorem releaseEntry_idle {deviceId : List UInt8}
    (idle : ∀ deviceAlias device, state.devices.lookup deviceId ≠ some ⟨deviceAlias, some device⟩) :
    state.releaseEntry rig deviceId = state := by
  unfold State.releaseEntry
  split
  · rename_i found
    exact absurd found (idle _ _)
  · rfl

end Frames

variable {accepts : Direction → Nat → Nat → Bool}

section Invariant

variable {rig : Rig} {state : State}

/-- Devices are registered under their own id, and the time code ports are theirs. -/
structure Registered (rig : Rig) (state : State) : Prop where
  numbered : Numbered state.devices state.nextDeviceAlias
  keyed : ∀ deviceId deviceAlias device,
    state.devices.lookup deviceId = some ⟨deviceAlias, some device⟩ →
      rig.uniqueId device = deviceId
  timecode : ∀ port, port ∈ state.timecodePorts ↔ ∃ deviceId deviceAlias device,
    state.devices.lookup deviceId = some ⟨deviceAlias, some device⟩ ∧
      port ∈ rig.timecodePorts device

theorem owner_unique {first second port : Nat} (one : port ∈ rig.devicePorts first .output)
    (two : port ∈ rig.timecodePorts second) : first = second := by
  have left := rig.own first .output port one
  have right := rig.own second .output port (List.mem_of_mem_filter two)
  rw [left, Option.some_inj] at right
  exact right

theorem Registered.sameRegistry {after : State} (registered : Registered rig state)
    (same : SameRegistry state after) : Registered rig after := by
  constructor
  · rw [same.devices, same.nextDeviceAlias]
    exact registered.numbered
  · rw [same.devices]
    exact registered.keyed
  · rw [same.devices, same.timecodePorts]
    exact registered.timecode

theorem Registered.meets (registered : Registered rig state)
    (exact : Exact state.devices state.aliasMap) : Consistent rig state := by
  refine ⟨exact, registered.numbered.distinct, ?_⟩
  intro port member
  obtain ⟨deviceId, deviceAlias, device, found, port⟩ := (registered.timecode port).mp member
  exact ⟨deviceId, deviceAlias, device, found, List.mem_of_mem_filter port⟩

/-- A device is entered under its id, which had none. -/
theorem Registered.enter (registered : Registered rig state) {device : Nat} {deviceAlias next : UInt32}
    (idle : ∀ other present, state.devices.lookup (rig.uniqueId device) ≠ some ⟨other, some present⟩)
    (numbered : Numbered (state.devices.insert (rig.uniqueId device) ⟨deviceAlias, some device⟩)
      next) :
    Registered rig
      { state with
        devices := state.devices.insert (rig.uniqueId device) ⟨deviceAlias, some device⟩
        nextDeviceAlias := next
        timecodePorts := state.timecodePorts ∪ (rig.timecodePorts device).toFinset } := by
  refine ⟨numbered, ?_, ?_⟩
  · intro deviceId other present found
    rw [lookup_insert_eq] at found
    split at found
    · cases found
      exact Eq.symm ‹_›
    · exact registered.keyed deviceId other present found
  · intro port
    rw [Finset.mem_union, registered.timecode port, List.mem_toFinset]
    constructor
    · rintro (⟨deviceId, other, present, found, member⟩ | member)
      · refine ⟨deviceId, other, present, ?_, member⟩
        rw [lookup_insert_eq, if_neg, found]
        rintro rfl
        exact idle other present found
      · exact ⟨rig.uniqueId device, deviceAlias, device, AList.lookup_insert _, member⟩
    · rintro ⟨deviceId, other, present, found, member⟩
      rw [lookup_insert_eq] at found
      split at found
      · cases found
        exact Or.inr member
      · exact Or.inl ⟨deviceId, other, present, found, member⟩

theorem releaseEntry_lookup (rig : Rig) (state : State) (deviceId other : List UInt8) :
    (state.releaseEntry rig deviceId).devices.lookup other = state.devices.lookup other ∨
      other = deviceId ∧ ∃ deviceAlias device,
        state.devices.lookup deviceId = some ⟨deviceAlias, some device⟩ ∧
          (state.releaseEntry rig deviceId).devices.lookup deviceId = some ⟨deviceAlias, none⟩ := by
  by_cases present : ∃ deviceAlias device,
      state.devices.lookup deviceId = some ⟨deviceAlias, some device⟩
  · obtain ⟨deviceAlias, device, found⟩ := present
    have after := (releaseEntry_found rig found).1
    by_cases here : other = deviceId
    · right
      exact ⟨here, deviceAlias, device, found, by rw [after, AList.lookup_insert]⟩
    · left
      rw [after]
      exact AList.lookup_insert_ne here
  · push Not at present
    left
    rw [releaseEntry_idle rig present]

variable {deviceId : List UInt8} {deviceAlias : UInt32} {device : Nat}

theorem releaseEntry_registered (rig : Rig) {state : State} {other : List UInt8}
    (after : (state.releaseEntry rig deviceId).devices.lookup other =
      some ⟨deviceAlias, some device⟩) :
    other ≠ deviceId ∧ state.devices.lookup other = some ⟨deviceAlias, some device⟩ := by
  rcases releaseEntry_lookup rig state deviceId other with same | ⟨rfl, _, _, _, released⟩
  · rw [same] at after
    refine ⟨?_, after⟩
    rintro rfl
    have gone : (state.releaseEntry rig other).devices.lookup other =
        some ⟨deviceAlias, none⟩ := by
      rw [(releaseEntry_found rig after).1, AList.lookup_insert]
    rw [same, after] at gone
    cases gone
  · rw [released] at after
    cases after

theorem Registered.releaseEntry (registered : Registered rig state)
    (safe : state.portPreferences = none → ∀ deviceAlias device,
      state.devices.lookup deviceId = some ⟨deviceAlias, some device⟩ →
        rig.timecodePorts device = []) :
    Registered rig (state.releaseEntry rig deviceId) := by
  by_cases present : ∃ deviceAlias device,
      state.devices.lookup deviceId = some ⟨deviceAlias, some device⟩
  · obtain ⟨deviceAlias, device, found⟩ := present
    obtain ⟨devices, next, _, _, timecode⟩ := releaseEntry_found rig found
    constructor
    · rw [devices, next]
      exact registered.numbered.update found none
    · intro other entry owner after
      exact registered.keyed other entry owner (releaseEntry_registered rig after).2
    · intro port
      have left : port ∈ (state.releaseEntry rig deviceId).timecodePorts ↔
          port ∈ state.timecodePorts ∧ port ∉ rig.timecodePorts device := by
        rw [timecode]
        split
        · rename_i preferences
          rw [safe preferences deviceAlias device found]
          simp
        · rw [Finset.mem_sdiff, List.mem_toFinset]
          constructor
          · intro both
            exact ⟨both.1, fun member => both.2 (List.mem_of_mem_filter member)⟩
          · intro both
            refine ⟨both.1, fun member => both.2 ?_⟩
            obtain ⟨_, _, owner, _, port⟩ := (registered.timecode port).mp both.1
            rwa [owner_unique member port]
      rw [left, registered.timecode port]
      constructor
      · rintro ⟨⟨other, entry, owner, there, member⟩, foreign⟩
        refine ⟨other, entry, owner, ?_, member⟩
        rw [devices, lookup_insert_eq, if_neg, there]
        rintro rfl
        rw [found] at there
        cases there
        exact foreign member
      · rintro ⟨other, entry, owner, after, member⟩
        obtain ⟨elsewhere, there⟩ := releaseEntry_registered rig after
        refine ⟨⟨other, entry, owner, there, member⟩, ?_⟩
        intro shared
        have same := owner_unique (List.mem_of_mem_filter shared) member
        subst same
        apply elsewhere
        rw [← registered.keyed other entry device there,
          registered.keyed deviceId deviceAlias device found]
  · push Not at present
    rw [releaseEntry_idle rig present]
    exact registered

/-- The loop of `UnregisterAllDevices`. -/
theorem Registered.releaseEntries (registered : Registered rig state) (deviceIds : List (List UInt8))
    (safe : state.portPreferences = none → ∀ deviceId deviceAlias device,
      state.devices.lookup deviceId = some ⟨deviceAlias, some device⟩ →
        rig.timecodePorts device = []) :
    Registered rig (deviceIds.foldl (State.releaseEntry rig) state) := by
  induction deviceIds generalizing state with
  | nil => exact registered
  | cons deviceId deviceIds ih =>
    apply ih (registered.releaseEntry (fun missing => safe missing deviceId))
    intro missing other deviceAlias device after
    have before := (releaseEntry_registered rig after).2
    refine safe ?_ other deviceAlias device before
    by_cases present : ∃ deviceAlias device,
        state.devices.lookup deviceId = some ⟨deviceAlias, some device⟩
    · obtain ⟨deviceAlias, device, found⟩ := present
      exact (releaseEntry_found rig found).2.2.2.1.mp missing
    · push Not at present
      rwa [releaseEntry_idle rig present] at missing

/-- Behind the loop no device of its list is registered. -/
theorem releaseEntries_registered (rig : Rig) {state : State} {deviceIds : List (List UInt8)}
    (after : (deviceIds.foldl (State.releaseEntry rig) state).devices.lookup deviceId =
      some ⟨deviceAlias, some device⟩) :
    deviceId ∉ deviceIds ∧ state.devices.lookup deviceId = some ⟨deviceAlias, some device⟩ := by
  induction deviceIds generalizing state with
  | nil => exact ⟨List.not_mem_nil, after⟩
  | cons first deviceIds ih =>
    obtain ⟨outside, before⟩ := ih after
    obtain ⟨different, earlier⟩ := releaseEntry_registered rig before
    exact ⟨List.not_mem_cons_of_ne_of_not_mem different outside, earlier⟩

theorem unregisterAllDevices_none (rig : Rig) (state : State) (deviceId : List UInt8)
    (deviceAlias : UInt32) (device : Nat) :
    (state.unregisterAllDevices rig).devices.lookup deviceId ≠
      some ⟨deviceAlias, some device⟩ := by
  intro after
  obtain ⟨outside, before⟩ := releaseEntries_registered rig after
  apply outside
  unfold State.deviceIds
  rw [List.mem_insertionSort]
  exact AList.mem_keys.mp (mem_of_lookup before)

theorem unregisterDeviceId_found (rig : Rig)
    (found : state.devices.lookup deviceId = some ⟨deviceAlias, some device⟩) :
    (state.unregisterDeviceId rig deviceId).1 =
      { state.releaseEntry rig deviceId with aliasMap := state.aliasMap.erase deviceAlias } := by
  unfold State.unregisterDeviceId
  rw [found]

theorem unregisterDeviceId_idle (rig : Rig)
    (idle : ∀ deviceAlias device, state.devices.lookup deviceId ≠ some ⟨deviceAlias, some device⟩) :
    (state.unregisterDeviceId rig deviceId).1 = state := by
  unfold State.unregisterDeviceId
  split
  · rename_i found
    exact absurd found (idle _ _)
  · rfl

/-- What holds in every state that a sustainable run reaches. -/
def Sound (rig : Rig) (state : State) : Prop :=
  Registered rig state ∧ Exact state.devices state.aliasMap

theorem Sound.unregisterDeviceId (sound : Sound rig state)
    (safe : state.portPreferences = none → ∀ deviceAlias device,
      state.devices.lookup deviceId = some ⟨deviceAlias, some device⟩ →
        rig.timecodePorts device = []) :
    Sound rig (state.unregisterDeviceId rig deviceId).1 := by
  by_cases present : ∃ deviceAlias device,
      state.devices.lookup deviceId = some ⟨deviceAlias, some device⟩
  · obtain ⟨deviceAlias, device, found⟩ := present
    have released := sound.1.releaseEntry safe
    rw [unregisterDeviceId_found rig found]
    refine ⟨{ released with }, ?_⟩
    rw [(releaseEntry_found rig found).1]
    exact sound.2.remove sound.1.numbered found
  · push Not at present
    rw [unregisterDeviceId_idle rig present]
    exact sound

theorem Sound.unregisterAllDevices (sound : Sound rig state)
    (safe : state.portPreferences = none → ∀ deviceId deviceAlias device,
      state.devices.lookup deviceId = some ⟨deviceAlias, some device⟩ →
        rig.timecodePorts device = []) :
    Sound rig (state.unregisterAllDevices rig) := by
  have released := sound.1.releaseEntries state.deviceIds safe
  refine ⟨{ released with }, ?_⟩
  intro deviceAlias device
  constructor
  · intro absent
    change (∅ : AList (fun _ : UInt32 => Nat)).lookup deviceAlias = some device at absent
    cases absent
  · rintro ⟨deviceId, found⟩
    exact absurd found (unregisterAllDevices_none rig state deviceId deviceAlias device)

/-- What `RegisterDevice` does: nothing, or it enters the device under its old alias, or
under a new one. -/
theorem registerDevice_cases (rig : Rig) (state : State) (device : Option Nat)
    (accepts : Direction → Nat → Nat → Bool) :
    (state.registerDevice rig device accepts).1 = state ∨
      ∃ added deviceAlias next, device = some added ∧ rig.uniqueId added ≠ [] ∧
        (∀ other present, state.devices.lookup (rig.uniqueId added) ≠
          some ⟨other, some present⟩) ∧
        SameRegistry
          { state with
            devices := state.devices.insert (rig.uniqueId added) ⟨deviceAlias, some added⟩
            aliasMap := state.aliasMap.insert deviceAlias added
            nextDeviceAlias := next
            timecodePorts := state.timecodePorts ∪ (rig.timecodePorts added).toFinset }
          (state.registerDevice rig device accepts).1 ∧
        ((state.devices.lookup (rig.uniqueId added) = some ⟨deviceAlias, none⟩ ∧
            next = state.nextDeviceAlias) ∨
          (state.devices.lookup (rig.uniqueId added) = none ∧
            deviceAlias = state.nextDeviceAlias ∧ next = state.nextDeviceAlias + 1)) := by
  unfold State.registerDevice
  cases device with
  | none => exact Or.inl rfl
  | some device =>
    dsimp only
    by_cases unnamed : (rig.uniqueId device).isEmpty = true
    · rw [if_pos unnamed]
      exact Or.inl rfl
    · rw [if_neg unnamed]
      have named : rig.uniqueId device ≠ [] := by simpa using unnamed
      cases found : state.devices.lookup (rig.uniqueId device) with
      | none =>
        refine Or.inr ⟨device, state.nextDeviceAlias, state.nextDeviceAlias + 1, rfl, named,
          ?_, ?_, Or.inr ⟨found, rfl, rfl⟩⟩
        · intro other present same
          rw [found] at same
          cases same
        · exact install_registry rig
            { state with
              devices := state.devices.insert (rig.uniqueId device)
                ⟨state.nextDeviceAlias, some device⟩
              nextDeviceAlias := state.nextDeviceAlias + 1 }
            state.nextDeviceAlias device accepts
      | some pair =>
        obtain ⟨deviceAlias, registered⟩ := pair
        cases registered with
        | some present => exact Or.inl rfl
        | none =>
          refine Or.inr ⟨device, deviceAlias, state.nextDeviceAlias, rfl, named,
            ?_, ?_, Or.inl ⟨found, rfl⟩⟩
          · intro other present same
            rw [found] at same
            cases same
          · exact install_registry rig
              { state with
                devices := state.devices.insert (rig.uniqueId device)
                  ⟨deviceAlias, some device⟩ }
              deviceAlias device accepts

theorem Sound.registerDevice (sound : Sound rig state) {device : Option Nat}
    (few : Sustainable rig state (.registerDevice device accepts)) :
    Sound rig (state.registerDevice rig device accepts).1 := by
  rcases registerDevice_cases rig state device accepts with
    same | ⟨added, deviceAlias, next, rfl, named, idle, registry, kind⟩
  · rw [same]
    exact sound
  · have numbered : Numbered (state.devices.insert (rig.uniqueId added)
        ⟨deviceAlias, some added⟩) next := by
      rcases kind with ⟨found, rfl⟩ | ⟨found, rfl, rfl⟩
      · exact sound.1.numbered.update found (some added)
      · have absent := AList.lookup_eq_none.mp found
        exact sound.1.numbered.add absent (few named absent) (some added)
    have entered := sound.1.enter idle numbered
    constructor
    · apply Registered.sameRegistry _ registry
      exact { entered with }
    · rw [registry.devices, registry.aliasMap]
      exact sound.2.install idle numbered

theorem Sound.step (sound : Sound rig state) {input : Input}
    (allowed : Sustainable rig state input) : Sound rig (state.step rig input) := by
  cases input with
  | registerDevice device accepts => exact sound.registerDevice allowed
  | unregisterDeviceId deviceId => exact sound.unregisterDeviceId allowed
  | unregisterDevice device =>
    cases device with
    | none => exact sound
    | some device =>
      change Sound rig (state.unregisterDevice rig (some device)).1
      unfold State.unregisterDevice
      dsimp only
      by_cases unnamed : (rig.uniqueId device).isEmpty = true
      · rw [if_pos unnamed]
        exact sound
      · rw [if_neg unnamed]
        apply sound.unregisterDeviceId
        intro missing
        exact allowed missing (by simpa using unnamed)
  | unregisterAllDevices => exact sound.unregisterAllDevices allowed
  | call call | setPriorityInherit direction port | setPriorityOverride direction port value =>
    exact ⟨sound.1.sameRegistry ⟨rfl, rfl, rfl, rfl, rfl⟩, sound.2⟩

end Invariant

section Spoiled

variable {rig : Rig} {state : State}

/-- Without preferences nothing is taken from the time code ports. -/
theorem releaseEntries_timecode (rig : Rig) {state : State}
    (missing : state.portPreferences = none) (deviceIds : List (List UInt8)) :
    (deviceIds.foldl (State.releaseEntry rig) state).timecodePorts = state.timecodePorts := by
  induction deviceIds generalizing state with
  | nil => rfl
  | cons deviceId deviceIds ih =>
    rw [List.foldl_cons]
    by_cases present : ∃ deviceAlias device,
        state.devices.lookup deviceId = some ⟨deviceAlias, some device⟩
    · obtain ⟨deviceAlias, device, found⟩ := present
      obtain ⟨_, _, _, preferences, timecode⟩ := releaseEntry_found rig found
      rw [ih (preferences.mpr missing), timecode, if_pos missing]
    · push Not at present
      rw [releaseEntry_idle rig present, ih missing]

variable {device : Nat}

section
variable {deviceId : List UInt8} {deviceAlias : UInt32} (registered : Registered rig state)
  (missing : state.portPreferences = none)
  (found : state.devices.lookup deviceId = some ⟨deviceAlias, some device⟩)
  (busy : rig.timecodePorts device ≠ [])
include registered missing found busy

/-- The time code ports of a device that is no longer registered are still written to. -/
theorem Registered.unregisterDeviceId_spoiled :
    ¬ Consistent rig (state.unregisterDeviceId rig deviceId).1 := by
  intro consistent
  obtain ⟨port, member⟩ := List.exists_mem_of_ne_nil _ busy
  have kept : port ∈ (state.unregisterDeviceId rig deviceId).1.timecodePorts := by
    rw [unregisterDeviceId_found rig found]
    rw [(releaseEntry_found rig found).2.2.2.2, if_pos missing, registered.timecode]
    exact ⟨deviceId, deviceAlias, device, found, member⟩
  obtain ⟨other, entry, owner, after, port⟩ := consistent.timecode port kept
  rw [unregisterDeviceId_found rig found] at after
  obtain ⟨elsewhere, before⟩ := releaseEntry_registered rig after
  have same := owner_unique port member
  subst same
  apply elsewhere
  rw [← registered.keyed other entry owner before,
    registered.keyed deviceId deviceAlias owner found]

theorem Registered.unregisterAllDevices_spoiled :
    ¬ Consistent rig (state.unregisterAllDevices rig) := by
  intro consistent
  obtain ⟨port, member⟩ := List.exists_mem_of_ne_nil _ busy
  have kept : port ∈ (state.unregisterAllDevices rig).timecodePorts := by
    change port ∈ (state.deviceIds.foldl (State.releaseEntry rig) state).timecodePorts
    rw [releaseEntries_timecode rig missing, registered.timecode]
    exact ⟨deviceId, deviceAlias, device, found, member⟩
  obtain ⟨other, entry, owner, after, _⟩ := consistent.timecode port kept
  exact unregisterAllDevices_none rig state other entry owner after

end

/-- When the aliases have run out, a new id shares one. -/
theorem Registered.registerDevice_spoiled (registered : Registered rig state)
    (named : rig.uniqueId device ≠ []) (absent : rig.uniqueId device ∉ state.devices)
    (many : 2 ^ 32 ≤ state.devices.keys.length) :
    ¬ Consistent rig (state.registerDevice rig (some device) accepts).1 := by
  intro consistent
  have found := AList.lookup_eq_none.mpr absent
  obtain ⟨holder, pair, present, same⟩ := registered.numbered.exhausted many
  have after : (state.registerDevice rig (some device) accepts).1.devices =
      state.devices.insert (rig.uniqueId device) ⟨state.nextDeviceAlias, some device⟩ := by
    unfold State.registerDevice
    dsimp only
    rw [if_neg (by simpa using named), found]
    exact (install_registry rig
      { state with
        devices := state.devices.insert (rig.uniqueId device) ⟨state.nextDeviceAlias, some device⟩
        nextDeviceAlias := state.nextDeviceAlias + 1 }
      state.nextDeviceAlias device accepts).devices
  have different : holder ≠ rig.uniqueId device := by
    rintro rfl
    rw [found] at present
    cases present
  apply different
  apply consistent.distinct holder (rig.uniqueId device) pair ⟨state.nextDeviceAlias, some device⟩
  · rw [after]
    exact (AList.lookup_insert_ne different).trans present
  · rw [after, AList.lookup_insert]
  · exact same

theorem Registered.step_spoiled (registered : Registered rig state) {input : Input}
    (refused : ¬ Sustainable rig state input) : ¬ Consistent rig (state.step rig input) := by
  cases input with
  | registerDevice device accepts =>
    cases device with
    | none => exact absurd trivial refused
    | some device =>
      unfold Sustainable at refused
      push Not at refused
      obtain ⟨named, absent, many⟩ := refused
      exact registered.registerDevice_spoiled named absent many
  | unregisterDeviceId deviceId =>
    unfold Sustainable at refused
    push Not at refused
    obtain ⟨missing, deviceAlias, device, found, busy⟩ := refused
    exact registered.unregisterDeviceId_spoiled missing found busy
  | unregisterDevice device =>
    cases device with
    | none => exact absurd trivial refused
    | some device =>
      unfold Sustainable at refused
      push Not at refused
      obtain ⟨missing, named, deviceAlias, present, found, busy⟩ := refused
      change ¬ Consistent rig (state.unregisterDevice rig (some device)).1
      unfold State.unregisterDevice
      dsimp only
      rw [if_neg (by simpa using named)]
      exact registered.unregisterDeviceId_spoiled missing found busy
  | unregisterAllDevices =>
    unfold Sustainable at refused
    push Not at refused
    obtain ⟨missing, deviceId, deviceAlias, device, found, busy⟩ := refused
    exact registered.unregisterAllDevices_spoiled missing found busy
  | call call | setPriorityInherit direction port | setPriorityOverride direction port value =>
    exact absurd trivial refused

end Spoiled

/-- Every id has the alias that it had before. -/
def AliasesKept (state after : State) : Prop :=
  ∀ deviceId pair, state.devices.lookup deviceId = some pair →
    ∃ device, after.devices.lookup deviceId = some ⟨pair.deviceAlias, device⟩

theorem AliasesKept.refl (state : State) : AliasesKept state state :=
  fun _ pair found => ⟨pair.device, found⟩

theorem AliasesKept.trans {state middle after : State} (first : AliasesKept state middle)
    (second : AliasesKept middle after) : AliasesKept state after := by
  intro deviceId pair found
  obtain ⟨device, between⟩ := first deviceId pair found
  exact second deviceId ⟨pair.deviceAlias, device⟩ between

theorem releaseEntry_aliasesKept (rig : Rig) (state : State) (deviceId : List UInt8) :
    AliasesKept state (state.releaseEntry rig deviceId) := by
  intro other pair found
  rcases releaseEntry_lookup rig state deviceId other with
    same | ⟨rfl, deviceAlias, device, before, after⟩
  · exact ⟨pair.device, by rw [same, found]⟩
  · rw [found, Option.some_inj] at before
    exact ⟨none, by rw [after, before]⟩

theorem unregisterDeviceId_aliasesKept (rig : Rig) (state : State) (deviceId : List UInt8) :
    AliasesKept state (state.unregisterDeviceId rig deviceId).1 := by
  by_cases present : ∃ deviceAlias device,
      state.devices.lookup deviceId = some ⟨deviceAlias, some device⟩
  · obtain ⟨deviceAlias, device, found⟩ := present
    rw [unregisterDeviceId_found rig found]
    exact releaseEntry_aliasesKept rig state deviceId
  · push Not at present
    rw [unregisterDeviceId_idle rig present]
    exact .refl state

theorem step_aliasesKept (rig : Rig) (state : State) (input : Input) :
    AliasesKept state (state.step rig input) := by
  cases input with
  | registerDevice device accepts =>
    change AliasesKept state (state.registerDevice rig device accepts).1
    rcases registerDevice_cases rig state device accepts with
      same | ⟨added, deviceAlias, next, _, _, _, registry, kind⟩
    · rw [same]
      exact .refl state
    · intro deviceId pair found
      rw [registry.devices]
      by_cases here : deviceId = rig.uniqueId added
      · subst here
        refine ⟨some added, ?_⟩
        rw [AList.lookup_insert]
        rcases kind with ⟨before, _⟩ | ⟨absent, _⟩
        · rw [found, Option.some_inj] at before
          rw [before]
        · rw [found] at absent
          cases absent
      · exact ⟨pair.device, (AList.lookup_insert_ne here).trans found⟩
  | unregisterDeviceId deviceId => exact unregisterDeviceId_aliasesKept rig state deviceId
  | unregisterDevice device =>
    change AliasesKept state (state.unregisterDevice rig device).1
    unfold State.unregisterDevice
    cases device with
    | none => exact .refl state
    | some device =>
      dsimp only
      split
      · exact .refl state
      · exact unregisterDeviceId_aliasesKept rig state _
  | unregisterAllDevices =>
    change AliasesKept state (state.deviceIds.foldl (State.releaseEntry rig) state)
    induction state.deviceIds generalizing state with
    | nil => exact .refl state
    | cons deviceId deviceIds ih =>
      exact (releaseEntry_aliasesKept rig state deviceId).trans (ih _)
  | call call | setPriorityInherit direction port | setPriorityOverride direction port value =>
    exact .refl state

theorem run_aliasesKept (rig : Rig) (state : State) (inputs : List Input) :
    AliasesKept state (run (State.step rig) state inputs) := by
  induction inputs generalizing state with
  | nil => exact .refl state
  | cons input inputs ih => exact (step_aliasesKept rig state input).trans (ih _)

theorem initial_sound (rig : Rig) (preferences : Option Preferences.PreferencesMap) :
    Sound rig (.initial preferences) := by
  refine ⟨⟨⟨rfl, ?_, ?_, ?_⟩, ?_, ?_⟩, ?_⟩
  · intro deviceId pair absent
    cases absent
  · intro index below
    cases below
  · intro first second pair other absent
    cases absent
  · intro deviceId deviceAlias device absent
    cases absent
  · intro port
    constructor
    · intro member
      exact absurd member (Finset.notMem_empty port)
    · rintro ⟨_, _, _, absent, _⟩
      cases absent
  · intro deviceAlias device
    constructor
    · intro absent
      cases absent
    · rintro ⟨_, absent⟩
      cases absent

/-- Aliases and time code ports agree with the registered devices in every state of a run,
and every id keeps its alias, if and only if all steps are sustainable. -/
theorem always_consistent_iff (rig : Rig) (preferences : Option Preferences.PreferencesMap)
    (inputs : List Input) :
    ((∀ count, Consistent rig (run (State.step rig) (.initial preferences) (inputs.take count))) ∧
      ∀ count more, AliasesKept
        (run (State.step rig) (.initial preferences) (inputs.take count))
        (run (State.step rig) (.initial preferences) (inputs.take (count + more)))) ↔
      Permitted (State.step rig) (Sustainable rig) (.initial preferences) inputs := by
  rw [← always_iff_permitted (fun state (sound : Sound rig state) => sound.1.meets sound.2)
    (fun state input sound allowed => Sound.step sound allowed)
    (fun state input sound refused => sound.1.step_spoiled refused)
    (initial_sound rig preferences)]
  constructor
  · exact And.left
  · intro always
    refine ⟨always, ?_⟩
    intro count more
    rw [List.take_add, run_append]
    exact run_aliasesKept rig _ _

/-- One device, whose only port is an output port that supports time code. -/
def timecodeRig : Rig where
  getDevice := fun direction port => if direction = .output ∧ port = 1 then some 1 else none
  devicePorts := fun device direction => if device = 1 ∧ direction = .output then [1] else []
  allowLooping := fun _ => false
  allowMultiPortPatching := fun _ => false
  own := by
    intro device direction port member
    split at member
    · rename_i here
      rw [List.mem_singleton.mp member, here.1, here.2]
      rfl
    · cases member
  uniqueId := fun _ => [50, 45, 49]
  portId := fun _ port => port
  supportsPriorities := fun _ _ => false
  supportsTimeCode := fun _ => true
  ordered := by
    intro device direction
    split
    · exact List.pairwise_singleton _ _
    · exact .nil

/-- A manager without preferences leaves the port of the device in the set. -/
theorem timecode_port_outlives_device :
    ¬ Consistent timecodeRig
      (run (State.step timecodeRig) (.initial none)
        [.registerDevice (some 1) (fun _ _ _ => true), .unregisterDeviceId [50, 45, 49]]) := by
  rw [run_cons, run_cons, run_nil]
  have installed : Sound timecodeRig (State.step timecodeRig (.initial none)
      (.registerDevice (some 1) (fun _ _ _ => true))) := by
    apply (initial_sound timecodeRig none).step
    intro _ _
    decide
  apply installed.1.step_spoiled
  intro sustainable
  have idle := sustainable rfl 1 1 (by decide)
  exact absurd idle (by decide)

end OpenLighting.DeviceManager
