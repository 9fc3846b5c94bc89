import OpenLighting.DeviceManager

namespace OpenLighting.DeviceManager

open PortManager (World)
open Preferences (PreferencesMap)
open StringUtils

/-- The preferences that are kept for a port. -/
inductive Entry where
  | patching
  | priorityValue
  | priorityMode
  deriving DecidableEq

def Entry.suffix : Entry → List UInt8
  | .patching => []
  | .priorityValue => priorityValueSuffix
  | .priorityMode => priorityModeSuffix

def Rig.key (rig : Rig) (direction : Direction) (port : Nat) (entry : Entry) : List UInt8 :=
  rig.portUniqueId direction port ++ entry.suffix

section Keys

variable {rig : Rig} {device : Nat}

theorem key_patching (rig : Rig) (direction : Direction) (port : Nat) :
    rig.key direction port .patching = rig.portUniqueId direction port := List.append_nil _

variable {direction : Direction} {first second : Nat}

theorem portUniqueId_eq {port : Nat} (member : port ∈ rig.devicePorts device direction) :
    rig.portUniqueId direction port = rig.uniqueId device ++
      (Rig.separator direction ++ intToString (rig.portId direction port)) := by
  unfold Rig.portUniqueId
  rw [rig.own device direction port member]

theorem portUniqueId_ne_nil {port : Nat} (member : port ∈ rig.devicePorts device direction) :
    rig.portUniqueId direction port ≠ [] := by
  rw [portUniqueId_eq member]
  intro empty
  have digits := (List.append_eq_nil_iff.mp (List.append_eq_nil_iff.mp empty).2).2
  exact intToString_ne_nil _ digits

/-- A number and what stands behind it can be told apart. -/
theorem number_suffix_injective {entry other : Entry}
    (same : intToString first ++ entry.suffix = intToString second ++ other.suffix) :
    first = second ∧ entry = other := by
  have digits : ∀ (number : Nat) (entry : Entry),
      (intToString number ++ entry.suffix).takeWhile isDigit = intToString number := by
    intro number entry
    rw [List.takeWhile_append_of_pos (isDigit_intToString number)]
    have stop : entry.suffix.takeWhile isDigit = [] := by cases entry <;> decide
    rw [stop, List.append_nil]
  have equal : intToString first = intToString second := by
    rw [← digits first entry, same, digits]
  refine ⟨intToString_injective equal, ?_⟩
  rw [equal] at same
  have suffixes := List.append_cancel_left same
  revert suffixes
  cases entry <;> cases other <;> decide

theorem port_eq_of_portId (one : first ∈ rig.devicePorts device direction)
    (two : second ∈ rig.devicePorts device direction)
    (same : rig.portId direction first = rig.portId direction second) : first = second := by
  have distinct : ((rig.devicePorts device direction).map (rig.portId direction)).Nodup :=
    (rig.ordered device direction).imp Nat.ne_of_lt
  exact List.inj_on_of_nodup_map distinct one two same

theorem devicePorts_nodup (rig : Rig) (device : Nat) (direction : Direction) :
    (rig.devicePorts device direction).Nodup :=
  List.Nodup.of_map _ ((rig.ordered device direction).imp Nat.ne_of_lt)

/-- The ports of a device do not share a key. -/
theorem key_injective {side : Direction} {entry other : Entry}
    (one : first ∈ rig.devicePorts device side) (two : second ∈ rig.devicePorts device direction)
    (same : rig.key side first entry = rig.key direction second other) :
    side = direction ∧ first = second ∧ entry = other := by
  unfold Rig.key at same
  rw [portUniqueId_eq one, portUniqueId_eq two] at same
  simp only [List.append_assoc] at same
  have tails := List.append_cancel_left same
  have lengths : (Rig.separator side).length = (Rig.separator direction).length := by
    cases side <;> cases direction <;> rfl
  obtain ⟨separators, numbers⟩ := List.append_inj tails lengths
  have sides : side = direction := by
    revert separators
    cases side <;> cases direction <;> decide
  subst sides
  obtain ⟨ids, entries⟩ := number_suffix_injective numbers
  exact ⟨rfl, port_eq_of_portId one two ids, entries⟩

end Keys

section Saved

variable {rig : Rig} {device : Nat}

/-- What is saved of the universe of a port. -/
def patchingValue (world : World) (direction : Direction) (port : Nat) : List UInt8 :=
  match world.universeId direction port with
  | some universeId => intToString universeId
  | none => []

/-- The write of one port by `SavePortPatchings`. -/
def savePatching (rig : Rig) (world : World) (direction : Direction) (preferences : PreferencesMap)
    (port : Nat) : PreferencesMap :=
  match world.universeId direction port with
  | some universeId => preferences.setValue (rig.portUniqueId direction port) (intToString universeId)
  | none => preferences.removeValue (rig.portUniqueId direction port)

theorem savePatching_self (rig : Rig) (world : World) (direction : Direction)
    (preferences : PreferencesMap) (port : Nat) :
    (savePatching rig world direction preferences port).getValue (rig.portUniqueId direction port) =
      patchingValue world direction port := by
  unfold savePatching patchingValue
  cases world.universeId direction port with
  | some universeId => exact preferences.getValue_setValue_self _ _
  | none => exact preferences.getValue_removeValue_self _

variable {key : List UInt8} {ports : List Nat} {direction : Direction} {port : Nat} {entry : Entry}

theorem savePatching_of_ne (rig : Rig) (world : World) (direction : Direction)
    (preferences : PreferencesMap) (port : Nat) (different : key ≠ rig.portUniqueId direction port) :
    (savePatching rig world direction preferences port).getValue key = preferences.getValue key := by
  unfold savePatching
  cases world.universeId direction port with
  | some universeId => exact preferences.getValue_setValue_of_ne different _
  | none => exact preferences.getValue_removeValue_of_ne different

theorem savePortPatchings_eq_foldl (world : World) (direction : Direction)
    (preferences : PreferencesMap)
    (members : ∀ port ∈ ports, port ∈ rig.devicePorts device direction) :
    savePortPatchings rig world direction preferences ports =
      ports.foldl (savePatching rig world direction) preferences := by
  induction ports generalizing preferences with
  | nil => rfl
  | cons port ports ih =>
    rw [savePortPatchings, if_neg, List.foldl_cons]
    · exact ih _ (fun other member => members other (List.mem_cons_of_mem port member))
    · simpa using portUniqueId_ne_nil (members port List.mem_cons_self)

variable {write : PreferencesMap → Nat → PreferencesMap}

theorem foldl_untouched
    (others : ∀ preferences, ∀ port ∈ ports,
      (write preferences port).getValue key = preferences.getValue key)
    (preferences : PreferencesMap) :
    (ports.foldl write preferences).getValue key = preferences.getValue key := by
  induction ports generalizing preferences with
  | nil => rfl
  | cons port ports ih =>
    rw [List.foldl_cons, ih (fun preferences other member =>
      others preferences other (List.mem_cons_of_mem port member))]
    exact others preferences port List.mem_cons_self

/-- A key to which only one of the ports writes. -/
theorem foldl_written {value : List UInt8} {owner : Nat} (member : owner ∈ ports)
    (self : ∀ preferences, (write preferences owner).getValue key = value)
    (others : ∀ preferences, ∀ port ∈ ports, port ≠ owner →
      (write preferences port).getValue key = preferences.getValue key)
    (preferences : PreferencesMap) : (ports.foldl write preferences).getValue key = value := by
  induction ports generalizing preferences with
  | nil => cases member
  | cons port ports ih =>
    have rest : ∀ preferences, ∀ other ∈ ports, other ≠ owner →
        (write preferences other).getValue key = preferences.getValue key :=
      fun preferences other inside => others preferences other (List.mem_cons_of_mem port inside)
    rw [List.foldl_cons]
    by_cases later : owner ∈ ports
    · exact ih later rest _
    · have here : owner = port := (List.mem_cons.mp member).resolve_right later
      rw [foldl_untouched]
      · rw [← here, self]
      · intro preferences other inside
        apply rest preferences other inside
        rintro rfl
        exact later inside

theorem savePatching_frame (world : World) {side : Direction} {other : Nat}
    (member : port ∈ rig.devicePorts device direction)
    (writer : other ∈ rig.devicePorts device side)
    (different : ¬ (side = direction ∧ other = port ∧ entry = .patching))
    (preferences : PreferencesMap) :
    (savePatching rig world side preferences other).getValue (rig.key direction port entry) =
      preferences.getValue (rig.key direction port entry) := by
  apply savePatching_of_ne
  intro same
  rw [← key_patching] at same
  obtain ⟨sides, ports, entries⟩ := key_injective member writer same
  exact different ⟨sides.symm, ports.symm, entries⟩

section
variable (priorities : Direction → Nat → PortPriority)
  (member : port ∈ rig.devicePorts device direction)
include priorities member

theorem savePortPriority_frame {side : Direction} {other : Nat}
    (writer : other ∈ rig.devicePorts device side)
    (different : entry = .patching ∨ ¬ (side = direction ∧ other = port))
    (preferences : PreferencesMap) :
    (savePortPriority rig priorities side preferences other).getValue
        (rig.key direction port entry) =
      preferences.getValue (rig.key direction port entry) := by
  have distinct : ∀ written : Entry, written ≠ .patching →
      rig.key direction port entry ≠ rig.portUniqueId side other ++ written.suffix := by
    intro written priority same
    obtain ⟨sides, ports, entries⟩ := key_injective member writer same
    rcases different with patching | elsewhere
    · exact priority (entries.symm.trans patching)
    · exact elsewhere ⟨sides.symm, ports.symm⟩
  have value := distinct .priorityValue (by decide)
  have mode := distinct .priorityMode (by decide)
  unfold savePortPriority
  dsimp only
  split
  · rfl
  · split
    · rfl
    · split
      · exact ((PreferencesMap.getValue_setValue_of_ne _ mode _).trans
          (PreferencesMap.getValue_setValue_of_ne _ value _))
      · exact PreferencesMap.getValue_setValue_of_ne _ value _

theorem savePortPriority_value (capable : rig.priorityCapability direction port ≠ .none)
    (preferences : PreferencesMap) :
    (savePortPriority rig priorities direction preferences port).getValue
        (rig.key direction port .priorityValue) =
      intToString (priorities direction port).priority := by
  have distinct : rig.key direction port .priorityValue ≠
      rig.portUniqueId direction port ++ priorityModeSuffix := by
    intro same
    change rig.key direction port .priorityValue = rig.key direction port .priorityMode at same
    have entries := (key_injective member member same).2.2
    cases entries
  unfold savePortPriority
  rw [if_neg capable, if_neg (by simpa using portUniqueId_ne_nil member)]
  split
  · rw [PreferencesMap.getValue_setValue_of_ne _ distinct]
    exact PreferencesMap.getValue_setValue_self _ _ _
  · exact PreferencesMap.getValue_setValue_self _ _ _

theorem savePortPriority_mode (full : rig.priorityCapability direction port = .full)
    (preferences : PreferencesMap) :
    (savePortPriority rig priorities direction preferences port).getValue
        (rig.key direction port .priorityMode) =
      intToString (priorities direction port).mode.toNat := by
  unfold savePortPriority
  rw [if_neg (by rw [full]; decide), if_neg (by simpa using portUniqueId_ne_nil member),
    if_pos full]
  exact PreferencesMap.getValue_setValue_self _ _ _

end

variable {direction : Direction} {port : Nat}

theorem saveDevice_eq (rig : Rig) (state : State) (preferences : PreferencesMap) (device : Nat) :
    saveDevice rig state preferences device =
      (rig.devicePorts device .output).foldl (savePortPriority rig state.priorities .output)
        ((rig.devicePorts device .input).foldl (savePortPriority rig state.priorities .input)
          ((rig.devicePorts device .output).foldl (savePatching rig state.world .output)
            ((rig.devicePorts device .input).foldl (savePatching rig state.world .input)
              preferences))) := by
  unfold saveDevice
  dsimp only
  rw [savePortPatchings_eq_foldl state.world .output _ (fun _ member => member),
    savePortPatchings_eq_foldl state.world .input _ (fun _ member => member)]

section
variable (state : State) (preferences : PreferencesMap)
  (member : port ∈ rig.devicePorts device direction)
include state preferences member

/-- The universe of every port is saved. -/
theorem saveDevice_patching :
    (saveDevice rig state preferences device).getValue (rig.portUniqueId direction port) =
      patchingValue state.world direction port := by
  have written : ∀ preferences, (((rig.devicePorts device direction).foldl
      (savePatching rig state.world direction) preferences).getValue
        (rig.key direction port .patching)) = patchingValue state.world direction port := by
    apply foldl_written member
    · intro preferences
      rw [key_patching, savePatching_self]
    · intro preferences other writer elsewhere
      exact savePatching_frame state.world member writer (fun same => elsewhere same.2.1) preferences
  rw [← key_patching, saveDevice_eq, foldl_untouched, foldl_untouched]
  · cases direction with
    | input =>
      rw [foldl_untouched]
      · exact written preferences
      · intro preferences other writer
        apply savePatching_frame state.world member writer
        rintro ⟨sides, _⟩
        cases sides
    | output => exact written _
  · intro preferences other writer
    exact savePortPriority_frame state.priorities member writer (Or.inl rfl) preferences
  · intro preferences other writer
    exact savePortPriority_frame state.priorities member writer (Or.inl rfl) preferences

/-- What the writes of the priority of a port leave is what is saved of it. -/
theorem saveDevice_priority {value : List UInt8}
    (self : ∀ preferences, (savePortPriority rig state.priorities direction preferences port).getValue
      (rig.key direction port entry) = value) :
    (saveDevice rig state preferences device).getValue (rig.key direction port entry) = value := by
  have written : ∀ preferences, (((rig.devicePorts device direction).foldl
      (savePortPriority rig state.priorities direction) preferences).getValue
        (rig.key direction port entry)) = value := by
    apply foldl_written member self
    intro preferences other writer elsewhere
    exact savePortPriority_frame state.priorities member writer
      (Or.inr (fun same => elsewhere same.2)) preferences
  rw [saveDevice_eq]
  cases direction with
  | output => exact written _
  | input =>
    rw [foldl_untouched]
    · exact written _
    · intro preferences other writer
      apply savePortPriority_frame state.priorities member writer
      right
      rintro ⟨sides, _⟩
      cases sides

theorem saveDevice_value (capable : rig.priorityCapability direction port ≠ .none) :
    (saveDevice rig state preferences device).getValue
        (rig.portUniqueId direction port ++ priorityValueSuffix) =
      intToString (state.priorities direction port).priority :=
  saveDevice_priority state preferences member
    (savePortPriority_value state.priorities member capable)

theorem saveDevice_mode (full : rig.priorityCapability direction port = .full) :
    (saveDevice rig state preferences device).getValue
        (rig.portUniqueId direction port ++ priorityModeSuffix) =
      intToString (state.priorities direction port).mode.toNat :=
  saveDevice_priority state preferences member (savePortPriority_mode state.priorities member full)

end

end Saved

end OpenLighting.DeviceManager
