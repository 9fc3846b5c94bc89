import OpenLighting.BoundedReads
import OpenLighting.ResponderHelper
import OpenLighting.TransitionSystem

/- The settings of a responder: `SettingCollection` and `SettingManager`. -/
namespace OpenLighting.Rdm

open BoundedReads

/-- `SettingInterface`: what `GenerateDescriptionResponse` puts out for an index. -/
class SettingInterface (τ : Type) where
  generateDescriptionResponse : τ → UInt8 → List UInt8

/-- `BasicSetting`. A description ends within its field, which `strlen` relies on. -/
structure BasicSetting where
  description : List UInt8
  short : description.length < 32

structure FrequencyModulationSetting where
  frequency : UInt32
  description : List UInt8
  short : description.length < 32

instance : SettingInterface BasicSetting where
  generateDescriptionResponse setting index := index :: setting.description

instance : SettingInterface FrequencyModulationSetting where
  generateDescriptionResponse setting index :=
    [index, UInt8.ofNat (setting.frequency.toNat / 2 ^ 24),
      UInt8.ofNat (setting.frequency.toNat / 2 ^ 16), UInt8.ofNat (setting.frequency.toNat / 2 ^ 8),
      UInt8.ofNat setting.frequency.toNat] ++ setting.description

structure SettingCollection (τ : Type) where
  settings : List τ
  zeroOffset : Bool

namespace SettingCollection
variable {τ : Type} (collection : SettingCollection τ)

/-- `Count`, in 8 bits. -/
def count : UInt8 := UInt8.ofNat collection.settings.length

def offset : Nat := if collection.zeroOffset then 0 else 1

/-- `Lookup`. Only an index above the size gives NULL. -/
def lookup (index : UInt8) : Except Fault (Option τ) :=
  if collection.settings.length < index.toNat then .ok none
  else some <$> elementAt collection.settings index.toNat

end SettingCollection

/-- `SettingManager`, with `m_current_setting`, an index. -/
structure SettingManager (τ : Type) where
  settings : SettingCollection τ
  currentSetting : UInt8

namespace SettingManager
variable {τ : Type}

/-- The constructor. -/
def new (settings : SettingCollection τ) : SettingManager τ :=
  ⟨settings, UInt8.ofNat settings.offset⟩

variable (manager : SettingManager τ)

/-- `data` of `Get`: the current setting and the number of settings. -/
def getValue : UInt16 :=
  let data := UInt16.ofNat
    ((manager.currentSetting.toNat + manager.settings.offset) <<< 8 |||
      manager.settings.count.toNat)
  -- The state at index 0 is not counted.
  if manager.settings.offset = 0 then data - 1 else data

variable (request : Command)

def get : Option Command :=
  getUInt16Value request manager.getValue 0

def outOfRange (arg : UInt8) : Prop :=
  arg.toNat < manager.settings.offset ∨
    manager.settings.count.toNat + manager.settings.offset ≤ arg.toNat

instance (manager : SettingManager τ) (arg : UInt8) : Decidable (manager.outOfRange arg) :=
  inferInstanceAs (Decidable (_ ∨ _))

def set : SettingManager τ × Option Command :=
  match extractUInt8 request with
  | none => (manager, nack request .formatError 0)
  | some arg =>
    if manager.outOfRange arg then (manager, nack request .dataOutOfRange 0)
    else
      ({ manager with currentSetting := UInt8.ofNat (arg.toNat - manager.settings.offset) },
        emptySetResponse request 0)

/-- The checks of `GetDescription`, which never replies for the first setting of a collection with
zero offset. -/
def describes : Except NackReason UInt8 :=
  match extractUInt8 request with
  | none => .error .formatError
  | some arg =>
    if arg = 0 ∨ manager.settings.count.toNat + manager.settings.offset ≤ arg.toNat then
      .error .dataOutOfRange
    else .ok arg

/-- The index that `GetDescription` looks up. -/
def describedIndex (arg : UInt8) : UInt8 :=
  UInt8.ofNat (arg.toNat - manager.settings.offset)

/-- `GetDescription`. What was looked up is not compared with NULL. -/
def getDescription [SettingInterface τ] (manager : SettingManager τ) (request : Command) :
    Except Fault (Option Command) :=
  match manager.describes request with
  | .error reason => .ok (nack request reason 0)
  | .ok arg => do
    match ← manager.settings.lookup (manager.describedIndex arg) with
    | none => .error .outside
    | some setting =>
      .ok (getResponseFromData request
        (SettingInterface.generateDescriptionResponse setting arg) rdmAck 0)

def changeSetting (newSetting : UInt8) : SettingManager τ × Bool :=
  if manager.outOfRange newSetting then (manager, false)
  else
    ({ manager with currentSetting := UInt8.ofNat (newSetting.toNat - manager.settings.offset) },
      true)

end SettingManager

/-- What may change the current setting. -/
inductive SettingOperation where
  | set (request : Command)
  | changeSetting (newSetting : UInt8)

namespace SettingOperation
variable {τ : Type}

def step (manager : SettingManager τ) : SettingOperation → SettingManager τ
  | .set request => (manager.set request).1
  | .changeSetting newSetting => (manager.changeSetting newSetting).1

def Changes (manager : SettingManager τ) (setting : UInt8) : SettingOperation → Prop
  | .set request => Acknowledged (manager.set request).2 ∧ extractUInt8 request = some setting
  | .changeSetting newSetting => (manager.changeSetting newSetting).2 = true ∧ newSetting = setting

end SettingOperation

namespace SettingManager
variable {τ : Type}

def reported (manager : SettingManager τ) : UInt8 := UInt8.ofNat (manager.getValue.toNat / 2 ^ 8)

/-- What `Get` reports is a setting that there is, for `Set` and for `GetDescription`, and
`GetDescription` looks up settings that there are. -/
structure Consistent [SettingInterface τ] (manager : SettingManager τ) : Prop where
  reports : ∀ request : Command, request.commandClass = .getCommand → request.paramData = [] →
    ∃ command total, manager.get request = some command ∧ command.portId = rdmAck ∧
      command.paramData = [manager.reported, total]
  inRange : manager.settings.offset ≤ manager.reported.toNat ∧
    manager.reported.toNat < manager.settings.settings.length + manager.settings.offset
  accepted : ∀ request, extractUInt8 request = some manager.reported →
    Acknowledged (manager.set request).2
  described : manager.reported ≠ 0 → ∀ request : Command, request.commandClass = .getCommand →
    extractUInt8 request = some manager.reported →
      ∃ response, manager.getDescription request = .ok response ∧ Acknowledged response
  looksUp : ∀ request arg, manager.describes request = .ok arg →
    (manager.describedIndex arg).toNat < manager.settings.settings.length

end SettingManager

open TransitionSystem in
/-- The setting is consistent all the way, and what it was changed to is reported until it is
changed again. -/
structure Settled {τ : Type} [SettingInterface τ] (settings : SettingCollection τ)
    (operations : List SettingOperation) : Prop where
  consistent : ∀ past future, operations = past ++ future →
    (run SettingOperation.step (.new settings) past).Consistent
  remembers : ∀ past operation quiet future setting,
    operations = past ++ operation :: quiet ++ future →
      operation.Changes (run SettingOperation.step (.new settings) past) setting →
        Permitted SettingOperation.step (fun manager other => ∀ next, ¬ other.Changes manager next)
          (run SettingOperation.step (.new settings) (past ++ [operation])) quiet →
          (run SettingOperation.step (.new settings) (past ++ operation :: quiet)).reported = setting

section Operations
variable {τ : Type} {manager : SettingManager τ}

def SettingManager.changed (manager : SettingManager τ) (setting : UInt8) : SettingManager τ :=
  { manager with currentSetting := UInt8.ofNat (setting.toNat - manager.settings.offset) }

/-- An operation changes the setting to one that is in range, or it is not acknowledged and nothing
happens. -/
theorem step_cases (manager : SettingManager τ) (operation : SettingOperation) :
    (∃ setting, ¬ manager.outOfRange setting ∧
      (∀ other, operation.Changes manager other ↔ other = setting) ∧
        operation.step manager = manager.changed setting) ∨
    ((∀ setting, ¬ operation.Changes manager setting) ∧ operation.step manager = manager) := by
  cases operation with
  | set request =>
    cases extracted : extractUInt8 request with
    | none =>
      refine .inr ⟨?_, ?_⟩
      · rintro setting ⟨_, found⟩
        rw [extracted] at found
        cases found
      · simp [SettingOperation.step, SettingManager.set, extracted]
    | some arg =>
      by_cases outside : manager.outOfRange arg
      · have refused : manager.set request = (manager, nack request .dataOutOfRange 0) := by
          simp [SettingManager.set, extracted, outside]
        refine .inr ⟨?_, congrArg Prod.fst refused⟩
        rintro setting ⟨acknowledged, _⟩
        rw [refused] at acknowledged
        exact not_acknowledged_nack _ _ _ acknowledged
      · have done : manager.set request = (manager.changed arg, emptySetResponse request 0) := by
          simp [SettingManager.set, extracted, outside, SettingManager.changed]
        refine .inl ⟨arg, outside, fun other => ?_, congrArg Prod.fst done⟩
        rw [SettingOperation.Changes, done, extracted, Option.some.injEq]
        exact ⟨fun changes => changes.2.symm,
          fun same => ⟨acknowledged_emptySet _ _, same.symm⟩⟩
  | changeSetting setting =>
    by_cases outside : manager.outOfRange setting
    · have refused : manager.changeSetting setting = (manager, false) := if_pos outside
      refine .inr ⟨?_, congrArg Prod.fst refused⟩
      rintro other ⟨acknowledged, _⟩
      rw [refused] at acknowledged
      cases acknowledged
    · have done : manager.changeSetting setting = (manager.changed setting, true) := if_neg outside
      refine .inl ⟨setting, outside, fun other => ?_, congrArg Prod.fst done⟩
      rw [SettingOperation.Changes, done]
      exact ⟨fun changes => changes.2.symm, fun same => ⟨rfl, same.symm⟩⟩

end Operations

section Values
variable {τ : Type} {manager : SettingManager τ}

/-- The collection has settings, as few as can be counted, and the current one can be reported. -/
structure SettingManager.Fits (manager : SettingManager τ) : Prop where
  nonempty : 1 ≤ manager.settings.settings.length
  few : manager.settings.settings.length ≤ 254
  current : manager.currentSetting.toNat ≤ 253

theorem offset_le (settings : SettingCollection τ) : settings.offset ≤ 1 := by
  unfold SettingCollection.offset
  split <;> omega

theorem SettingManager.Fits.count (fits : manager.Fits) :
    manager.settings.count.toNat = manager.settings.settings.length := by
  have few := fits.few
  rw [SettingCollection.count, UInt8.toNat_ofNat']
  omega

theorem SettingManager.Fits.getValue (fits : manager.Fits) :
    manager.getValue.toNat = (manager.currentSetting.toNat + manager.settings.offset) * 256 +
      (manager.settings.settings.length + manager.settings.offset - 1) := by
  have some := fits.nonempty
  have few := fits.few
  have current := fits.current
  have packed : (manager.currentSetting.toNat + manager.settings.offset) <<< 8 |||
      manager.settings.count.toNat =
        (manager.currentSetting.toNat + manager.settings.offset) * 256 +
          manager.settings.settings.length := by
    rw [← Nat.shiftLeft_add_eq_or_of_lt manager.settings.count.toNat_lt, Nat.shiftLeft_eq,
      fits.count]
  unfold SettingManager.getValue
  rw [packed]
  rcases Nat.le_one_iff_eq_zero_or_eq_one.mp (offset_le manager.settings) with zero | one
  · rw [if_pos zero, zero]
    have positive : (1 : UInt16) ≤ UInt16.ofNat
        ((manager.currentSetting.toNat + 0) * 256 + manager.settings.settings.length) := by
      rw [UInt16.le_iff_toNat_le, UInt16.toNat_ofNat']
      change 1 ≤ _
      omega
    rw [UInt16.toNat_sub_of_le _ _ positive, UInt16.toNat_ofNat']
    change _ - 1 = _
    omega
  · rw [if_neg (by omega), one, UInt16.toNat_ofNat']
    omega

theorem SettingManager.Fits.reported (fits : manager.Fits) :
    manager.reported.toNat = manager.currentSetting.toNat + manager.settings.offset := by
  have few := fits.few
  have current := fits.current
  have offset := offset_le manager.settings
  have high (value rest : Nat) (low : rest < 256) : (value * 256 + rest) / 2 ^ 8 = value := by omega
  rw [SettingManager.reported, UInt8.toNat_ofNat', fits.getValue, high _ _ (by omega)]
  omega

theorem SettingManager.Fits.changed (fits : manager.Fits) {setting : UInt8}
    (inside : ¬ manager.outOfRange setting) :
    (manager.changed setting).Fits ∧ (manager.changed setting).reported = setting ∧
      (manager.changed setting).currentSetting.toNat < manager.settings.settings.length := by
  have few := fits.few
  rw [SettingManager.outOfRange, fits.count, not_or] at inside
  have current : (manager.changed setting).currentSetting.toNat =
      setting.toNat - manager.settings.offset := by
    change (UInt8.ofNat _).toNat = _
    rw [UInt8.toNat_ofNat']
    omega
  have kept : (manager.changed setting).Fits := ⟨fits.nonempty, few, by omega⟩
  refine ⟨kept, ?_, by omega⟩
  apply UInt8.toNat_inj.mp
  rw [kept.reported, current]
  change _ + manager.settings.offset = _
  omega

theorem new_fits {settings : SettingCollection τ} (some : 1 ≤ settings.settings.length)
    (few : settings.settings.length ≤ 254) : (SettingManager.new settings).Fits := by
  have offset := offset_le settings
  refine ⟨some, few, ?_⟩
  rw [SettingManager.new, UInt8.toNat_ofNat']
  omega

variable {request : Command}

theorem get_reports (manager : SettingManager τ) (get : request.commandClass = .getCommand)
    (empty : request.paramData = []) :
    ∃ command total, manager.get request = some command ∧ command.portId = rdmAck ∧
      command.paramData = [manager.reported, total] := by
  refine ⟨respond request .getCommandResponse request.paramId (wordBytes manager.getValue) rdmAck 0,
    UInt8.ofNat manager.getValue.toNat, ?_, rfl, rfl⟩
  simp [SettingManager.get, getUInt16Value, getData, empty, getResponseFromData,
    getResponseWithPid, get]

theorem describes_iff (manager : SettingManager τ) (request : Command) (arg : UInt8) :
    manager.describes request = .ok arg ↔ extractUInt8 request = some arg ∧ arg ≠ 0 ∧
      arg.toNat < manager.settings.count.toNat + manager.settings.offset := by
  unfold SettingManager.describes
  cases extractUInt8 request with
  | none => simp
  | some found =>
    dsimp only
    by_cases refused :
        found = 0 ∨ manager.settings.count.toNat + manager.settings.offset ≤ found.toNat
    · rw [if_pos refused]
      refine iff_of_false (fun equal => by cases equal) ?_
      rintro ⟨same, some, low⟩
      cases same
      rcases refused with zero | high
      · exact some zero
      · omega
    · rw [if_neg refused]
      rw [not_or] at refused
      constructor
      · intro same
        cases same
        exact ⟨rfl, refused.1, by omega⟩
      · rintro ⟨same, _⟩
        cases same
        rfl

theorem SettingManager.Fits.describedIndex (fits : manager.Fits) {arg : UInt8}
    (describes : manager.describes request = .ok arg) :
    (manager.describedIndex arg).toNat < manager.settings.settings.length := by
  obtain ⟨_, some, low⟩ := (describes_iff manager request arg).mp describes
  have offset := offset_le manager.settings
  have positive : arg.toNat ≠ 0 := fun zero => some (UInt8.toNat_inj.mp zero)
  rw [fits.count] at low
  rw [SettingManager.describedIndex, UInt8.toNat_ofNat']
  omega

theorem SettingManager.Fits.getDescription [SettingInterface τ] (fits : manager.Fits)
    (get : request.commandClass = .getCommand) {arg : UInt8}
    (describes : manager.describes request = .ok arg) :
    ∃ response, manager.getDescription request = .ok response ∧ Acknowledged response := by
  have inside := fits.describedIndex describes
  have looked : manager.settings.lookup (manager.describedIndex arg) =
      .ok (some (manager.settings.settings[(manager.describedIndex arg).toNat])) := by
    rw [SettingCollection.lookup, if_neg (Nat.not_lt.mpr inside.le), elementAt_inside inside]
    rfl
  unfold SettingManager.getDescription
  rw [describes]
  dsimp only
  rw [looked]
  exact ⟨_, rfl, acknowledged_getResponse 0 get _⟩

theorem SettingManager.Fits.consistent_iff [SettingInterface τ] (fits : manager.Fits) :
    manager.Consistent ↔ manager.currentSetting.toNat < manager.settings.settings.length := by
  have reported := fits.reported
  have count := fits.count
  constructor
  · intro consistent
    have range := consistent.inRange
    omega
  · intro inside
    have within : ¬ manager.outOfRange manager.reported := by
      rw [SettingManager.outOfRange, count]
      omega
    refine ⟨fun request => get_reports manager, by omega, ?_, ?_, fun request arg =>
      fits.describedIndex⟩
    · intro request extracted
      rw [SettingManager.set, extracted]
      dsimp only
      rw [if_neg within]
      exact acknowledged_emptySet request 0
    · intro nonzero request get extracted
      exact fits.getDescription get
        ((describes_iff manager request _).mpr ⟨extracted, nonzero, by omega⟩)

end Values

section Runs
open TransitionSystem
variable {τ : Type} {manager : SettingManager τ}

theorem fits_step (fits : manager.Fits) (operation : SettingOperation) :
    (operation.step manager).Fits ∧
      (operation.step manager).settings = manager.settings := by
  rcases step_cases manager operation with ⟨setting, inside, _, moved⟩ | ⟨_, stays⟩
  · rw [moved]
    exact ⟨(fits.changed inside).1, rfl⟩
  · rw [stays]
    exact ⟨fits, rfl⟩

/-- What is known of every state of a run over some settings. -/
structure SettingManager.Manages (manager : SettingManager τ) (settings : SettingCollection τ) :
    Prop where
  fits : manager.Fits
  same : manager.settings = settings
  current : 2 ≤ settings.settings.length ∨ settings.zeroOffset = true →
    manager.currentSetting.toNat < settings.settings.length

theorem manages_run {settings : SettingCollection τ} (some : 1 ≤ settings.settings.length)
    (few : settings.settings.length ≤ 254) (operations : List SettingOperation) :
    (run SettingOperation.step (.new settings) operations).Manages settings := by
  have preserved (manager : SettingManager τ) (operation : SettingOperation)
      (manages : manager.Manages settings) (_ : True) :
      (operation.step manager).Manages settings := by
    have next := fits_step manages.fits operation
    refine ⟨next.1, next.2.trans manages.same, fun enough => ?_⟩
    rcases step_cases manager operation with ⟨setting, inside, _, moved⟩ | ⟨_, stays⟩
    · rw [moved, ← manages.same]
      exact (manages.fits.changed inside).2.2
    · rw [stays]
      exact manages.current enough
  have start : (SettingManager.new settings).Manages settings := by
    refine ⟨new_fits some few, rfl, fun enough => ?_⟩
    have offset := offset_le settings
    have zero : settings.zeroOffset = true → settings.offset = 0 := fun zero => if_pos zero
    rw [SettingManager.new, UInt8.toNat_ofNat']
    rcases enough with two | none
    · omega
    · rw [zero none]
      omega
  exact run_invariant preserved start (permitted_true SettingOperation.step _ operations)

/-- As long as nothing is changed the manager stays as it is. -/
theorem run_quiet (quiet : List SettingOperation)
    (nothing : Permitted SettingOperation.step
      (fun manager other => ∀ next, ¬ other.Changes manager next) manager quiet) :
    run SettingOperation.step manager quiet = manager := by
  induction quiet with
  | nil => rfl
  | cons operation quiet ih =>
    have stays : operation.step manager = manager := by
      rcases step_cases manager operation with ⟨setting, _, changes, _⟩ | ⟨_, stays⟩
      · exact absurd ((changes setting).mpr rfl) (nothing.1 setting)
      · exact stays
    have rest := nothing.2
    rw [stays] at rest
    rw [run_cons, stays]
    exact ih rest

/-- The first setting of a collection whose only setting has number 1 is not reported: it would be
number 2. -/
theorem settled_iff [SettingInterface τ] (settings : SettingCollection τ)
    (operations : List SettingOperation) (some : 1 ≤ settings.settings.length)
    (few : settings.settings.length ≤ 254) :
    Settled settings operations ↔ settings.zeroOffset = true ∨ 2 ≤ settings.settings.length := by
  constructor
  · intro settled
    have start := (new_fits some few).consistent_iff.mp (settled.consistent [] operations rfl)
    by_contra neither
    rw [not_or] at neither
    have one : settings.offset = 1 := if_neg neither.1
    rw [SettingManager.new, one] at start
    have index : (UInt8.ofNat 1).toNat = 1 := rfl
    dsimp only at start
    omega
  · intro enough
    constructor
    · intro past future _
      have manages := manages_run some few past
      rw [manages.fits.consistent_iff, manages.same]
      exact manages.current enough.symm
    · intro past operation quiet future setting _ changes nothing
      have manages := manages_run some few past
      have split : past ++ operation :: quiet = (past ++ [operation]) ++ quiet := by simp
      rw [split, run_append, run_quiet quiet nothing, run_append, run_cons, run_nil]
      rcases step_cases (run SettingOperation.step (.new settings) past) operation with
        ⟨next, inside, only, moved⟩ | ⟨none, _⟩
      · rw [(only setting).mp changes, moved]
        exact (manages.fits.changed inside).2.1
      · exact absurd changes (none setting)

def twoSettings : SettingCollection BasicSetting :=
  ⟨[⟨[79, 110], by decide⟩, ⟨[79, 102, 102], by decide⟩], false⟩

theorem settled_two : Settled twoSettings [.changeSetting 1] :=
  (settled_iff twoSettings [.changeSetting 1] (by decide) (by decide)).mpr (.inr (by decide))

/-- The only setting has number 1, and the manager starts with number 2. -/
theorem not_forall_settled : ¬ ∀ (settings : SettingCollection BasicSetting)
    (operations : List SettingOperation), 1 ≤ settings.settings.length →
      settings.settings.length ≤ 254 → Settled settings operations := by
  intro all
  have settled := all ⟨[⟨[79, 110], by decide⟩], false⟩ [] (by decide) (by decide)
  exact absurd (settled.consistent [] [] rfl).inRange.2 (by decide)

end Runs

end OpenLighting.Rdm
