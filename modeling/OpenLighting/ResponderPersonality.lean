import OpenLighting.DmxBuffer
import OpenLighting.ResponderHelper
import OpenLighting.TransitionSystem

/- Personalities and start addresses of RDM responders. -/
namespace OpenLighting.Rdm

/-- `Personality`, without its slots. -/
structure Personality where
  footprint : UInt16
  description : List UInt8

/-- `PersonalityManager` with the list of its `PersonalityCollection`. -/
structure PersonalityManager where
  personalities : List Personality
  activePersonality : UInt8

/-- `end_address`, in 16 bits. -/
def endAddress (footprint : UInt16) : UInt16 := 1 + 512 - footprint

variable (manager : PersonalityManager) (personality : UInt8)

namespace PersonalityManager

/-- `PersonalityCount`, in 8 bits. -/
def personalityCount : UInt8 :=
  UInt8.ofNat manager.personalities.length

/-- `Lookup`. Personalities are numbers from 1. -/
def lookup : Option Personality :=
  if personality = 0 ∨ manager.personalities.length < personality.toNat then none
  else manager.personalities[personality.toNat - 1]?

def setActivePersonality : PersonalityManager × Bool :=
  if personality = 0 ∨ manager.personalityCount < personality then (manager, false)
  else ({ manager with activePersonality := personality }, true)

def activePersonalityFootprint : UInt16 :=
  match manager.lookup manager.activePersonality with
  | none => 0
  | some personality => personality.footprint

/-- `SetActivePersonality` of the manager of an `SPIOutput`, whose count is the size. -/
def setActiveOutputPersonality : PersonalityManager × Bool :=
  if personality = 0 ∨ manager.personalities.length < personality.toNat then (manager, false)
  else ({ manager with activePersonality := personality }, true)

end PersonalityManager

variable (startAddress : UInt16)

/-- A personality ends behind the universe. -/
def tooLong (personality : Personality) : Prop :=
  (dmxUniverseSize : Int) < startAddress.toNat + personality.footprint.toNat - 1

instance (startAddress : UInt16) (personality : Personality) :
    Decidable (tooLong startAddress personality) := inferInstanceAs (Decidable (_ < _))

variable (request : Command)

def setPersonality (manager : PersonalityManager) (startAddress : UInt16)
    (queuedMessageCount : UInt8) : PersonalityManager × Option Command :=
  match extractUInt8 request with
  | none => (manager, nack request .formatError queuedMessageCount)
  | some number =>
    match manager.lookup number with
    | none => (manager, nack request .dataOutOfRange queuedMessageCount)
    | some personality =>
      if tooLong startAddress personality then
        (manager, nack request .dataOutOfRange queuedMessageCount)
      else
        -- Whether it was set is not looked at.
        ((manager.setActivePersonality number).1, emptySetResponse request queuedMessageCount)

def setDmxAddress (manager : PersonalityManager) (dmxAddress : UInt16)
    (queuedMessageCount : UInt8) : UInt16 × Option Command :=
  match extractUInt16 request with
  | none => (dmxAddress, nack request .formatError 0)
  | some address =>
    if address = 0 ∨ endAddress manager.activePersonalityFootprint < address then
      (dmxAddress, nack request .dataOutOfRange queuedMessageCount)
    else if manager.activePersonalityFootprint = 0 then
      (dmxAddress, nack request .dataOutOfRange queuedMessageCount)
    else (address, emptySetResponse request queuedMessageCount)

def maxRdmStringLength : Nat := 32

def zeroFootprintDmxAddress : UInt16 := 0xffff

def getPersonality (manager : PersonalityManager) (queuedMessageCount : UInt8) : Option Command :=
  getData request [manager.activePersonality, manager.personalityCount] queuedMessageCount

def getPersonalityDescription (manager : PersonalityManager)
    (queuedMessageCount : UInt8) : Option Command :=
  match extractUInt8 request with
  | none => nack request .formatError queuedMessageCount
  | some number =>
    match manager.lookup number with
    | none => nack request .dataOutOfRange queuedMessageCount
    | some personality =>
      getResponseFromData request
        (number :: wordBytes personality.footprint ++
          personality.description.take maxRdmStringLength) rdmAck queuedMessageCount

/-- The start address that is told to others. -/
def PersonalityManager.reportedAddress : UInt16 :=
  if manager.activePersonalityFootprint = 0 then zeroFootprintDmxAddress else startAddress

def getDmxAddress (manager : PersonalityManager) (startAddress : UInt16)
    (queuedMessageCount : UInt8) : Option Command :=
  getUInt16Value request (manager.reportedAddress startAddress) queuedMessageCount

/-- `ResponderHelper::GetDeviceInfo` with a `PersonalityManager`. The version of RDM is 1.0. -/
def getDeviceInfo (deviceModel productCategory : UInt16)
    (softwareVersion : UInt32) (manager : PersonalityManager) (startAddress subDeviceCount : UInt16)
    (sensorCount queuedMessageCount : UInt8) : Option Command :=
  getData request
    (wordBytes 0x0100 ++ wordBytes deviceModel ++ wordBytes productCategory ++
      wordBytes (softwareVersion >>> 16).toUInt16 ++ wordBytes softwareVersion.toUInt16 ++
      wordBytes manager.activePersonalityFootprint ++
      [manager.activePersonality, manager.personalityCount] ++
      wordBytes (manager.reportedAddress startAddress) ++ wordBytes subDeviceCount ++
      [sensorCount]) queuedMessageCount

/-- A responder as far as its place in the universe goes. -/
structure Fixture where
  manager : PersonalityManager
  startAddress : UInt16

variable (fixture : Fixture)

namespace Fixture

/-- The first personality at the first address. -/
def new (personalities : List Personality) : Fixture := ⟨⟨personalities, 1⟩, 1⟩

def footprint : UInt16 := fixture.manager.activePersonalityFootprint

/-- `SPIOutput::SetPersonality`. The number is cut to 8 bits. -/
def setOutputPersonality (personality : UInt16) : Fixture × Bool :=
  let (manager, done) := fixture.manager.setActiveOutputPersonality personality.toUInt8
  ({ fixture with manager := manager }, done)

def setStartAddress (address : UInt16) : Fixture × Bool :=
  if address = 0 ∨ endAddress fixture.footprint < address ∨ fixture.footprint = 0 then
    (fixture, false)
  else ({ fixture with startAddress := address }, true)

def setOutputDmxPersonality (request : Command) : Fixture × Option Command :=
  match extractUInt8 request with
  | none => (fixture, nack request .formatError 0)
  | some number =>
    match fixture.manager.lookup number with
    | none => (fixture, nack request .dataOutOfRange 0)
    | some personality =>
      if tooLong fixture.startAddress personality then (fixture, nack request .dataOutOfRange 0)
      else
        ({ fixture with manager := (fixture.manager.setActiveOutputPersonality number).1 },
          emptySetResponse request 0)

def setDmxStartAddress (request : Command) : Fixture × Option Command :=
  match extractUInt16 request with
  | none => (fixture, nack request .formatError 0)
  | some address =>
    if (fixture.setStartAddress address).2 = false then
      (fixture, nack request .dataOutOfRange 0)
    else
      ({ (fixture.setStartAddress address).1 with startAddress := address },
        emptySetResponse request 0)

end Fixture

/-- What moves a responder: the first two for those that use `ResponderHelper`, the others for an
`SPIOutput`. -/
inductive Placement where
  | setPersonality (request : Command) (queuedMessageCount : UInt8)
  | setDmxAddress (request : Command) (queuedMessageCount : UInt8)
  | setOutputPersonality (personality : UInt16)
  | setStartAddress (address : UInt16)
  | setOutputDmxPersonality (request : Command)
  | setDmxStartAddress (request : Command)

namespace Placement

def step (fixture : Fixture) : Placement → Fixture
  | .setPersonality request count =>
    { fixture with
      manager := (Rdm.setPersonality request fixture.manager fixture.startAddress count).1 }
  | .setDmxAddress request count =>
    { fixture with
      startAddress := (Rdm.setDmxAddress request fixture.manager fixture.startAddress count).1 }
  | .setOutputPersonality personality => (fixture.setOutputPersonality personality).1
  | .setStartAddress address => (fixture.setStartAddress address).1
  | .setOutputDmxPersonality request => (fixture.setOutputDmxPersonality request).1
  | .setDmxStartAddress request => (fixture.setDmxStartAddress request).1

def Accepted (fixture : Fixture) : Placement → Prop
  | .setPersonality request count =>
    Acknowledged (Rdm.setPersonality request fixture.manager fixture.startAddress count).2
  | .setDmxAddress request count =>
    Acknowledged (Rdm.setDmxAddress request fixture.manager fixture.startAddress count).2
  | .setOutputPersonality personality => (fixture.setOutputPersonality personality).2 = true
  | .setStartAddress address => (fixture.setStartAddress address).2 = true
  | .setOutputDmxPersonality request => Acknowledged (fixture.setOutputDmxPersonality request).2
  | .setDmxStartAddress request => Acknowledged (fixture.setDmxStartAddress request).2

end Placement

/-- The slots of a responder are slots of the universe. -/
def Fixture.Inside : Prop :=
  1 ≤ fixture.startAddress.toNat ∧
    (fixture.startAddress.toNat + fixture.footprint.toNat - 1 : Int) ≤ dmxUniverseSize

/-- An operation that is accepted leaves the responder inside of the universe, and one that is not
leaves it as it was. -/
structure Placement.Keeps (fixture : Fixture) (operation : Placement) : Prop where
  inside : operation.Accepted fixture → (operation.step fixture).Inside
  unchanged : ¬ operation.Accepted fixture → operation.step fixture = fixture

/-- The address is accepted although the footprint is larger than a universe: the difference
wraps. -/
def Fixture.Wraps (address : UInt16) : Prop :=
  514 ≤ fixture.footprint.toNat ∧ 1 ≤ address.toNat ∧
    address.toNat + fixture.footprint.toNat ≤ 66049

/-- A personality that the responder has does not go beyond the universe from its address. -/
def Fixture.HasRoom (number : UInt8) : Prop :=
  ∀ personality, fixture.manager.lookup number = some personality →
    fixture.startAddress.toNat + personality.footprint.toNat ≤ 513

/-- The start address is not zero, and the active personality is one of those there are. -/
structure Fixture.Standing (personalities : List Personality) (fixture : Fixture) : Prop where
  started : 1 ≤ fixture.startAddress.toNat
  same : fixture.manager.personalities = personalities
  active : 1 ≤ fixture.manager.activePersonality.toNat ∧
    fixture.manager.activePersonality.toNat ≤ personalities.length

/-- The operations that keep a responder inside. -/
def Placement.Safe (fixture : Fixture) : Placement → Prop
  | .setPersonality request _ =>
    -- A number that the 8 bits of the count do not reach is acknowledged and not set.
    ∀ number personality, extractUInt8 request = some number →
      fixture.manager.lookup number = some personality →
        fixture.startAddress.toNat + personality.footprint.toNat ≤ 513 →
          fixture.manager.personalityCount < number →
            fixture.startAddress.toNat + fixture.footprint.toNat ≤ 513
  | .setDmxAddress request _ | .setDmxStartAddress request =>
    ∀ address, extractUInt16 request = some address → ¬ fixture.Wraps address
  | .setOutputPersonality personality => fixture.HasRoom personality.toUInt8
  | .setStartAddress address => ¬ fixture.Wraps address
  | .setOutputDmxPersonality _ => True

section Steps
variable {fixture : Fixture} {operation : Placement}

theorem Fixture.inside_iff : fixture.Inside ↔ 1 ≤ fixture.startAddress.toNat ∧
    fixture.startAddress.toNat + fixture.footprint.toNat ≤ 513 := by
  unfold Fixture.Inside dmxUniverseSize
  omega

theorem tooLong_iff (personality : Personality) : tooLong startAddress personality ↔
      513 < startAddress.toNat + personality.footprint.toNat := by
  unfold tooLong dmxUniverseSize
  omega

theorem Placement.keeps_of_refused (refused : ¬ operation.Accepted fixture)
    (same : operation.step fixture = fixture) : operation.Keeps fixture :=
  ⟨fun accepted => absurd accepted refused, fun _ => same⟩

theorem Placement.keeps_iff_of_accepted (accepted : operation.Accepted fixture) :
    operation.Keeps fixture ↔ (operation.step fixture).Inside :=
  ⟨fun keeps => keeps.inside accepted,
    fun inside => ⟨fun _ => inside, fun refused => absurd accepted refused⟩⟩

/-- Where the difference does not wrap it is right; where it wraps it is a large number. -/
theorem endAddress_toNat (footprint : UInt16) :
    (endAddress footprint).toNat =
      if footprint.toNat ≤ 513 then 513 - footprint.toNat else 66049 - footprint.toNat := by
  have small := footprint.toNat_lt
  have sum : (1 + 512 : UInt16).toNat = 513 := by decide
  rw [endAddress, UInt16.toNat_sub, sum]
  split <;> omega

variable {address : UInt16} {manager : PersonalityManager} {number : UInt8}
  {personality : Personality}

/-- The check of an address, as far as the footprint is one. -/
theorem address_iff {footprint : UInt16}
    (accepted : ¬ (address = 0 ∨ endAddress footprint < address)) (some : footprint ≠ 0) :
    (1 ≤ address.toNat ∧ address.toNat + footprint.toNat ≤ 513) ↔
      ¬ (514 ≤ footprint.toNat ∧ 1 ≤ address.toNat ∧
        address.toNat + footprint.toNat ≤ 66049) := by
  rw [not_or, UInt16.lt_iff_toNat_lt, endAddress_toNat] at accepted
  have nonzero : address.toNat ≠ 0 := fun zero => accepted.1 (UInt16.toNat_inj.mp zero)
  have high := accepted.2
  split at high <;> omega

/-- An address that wraps passes the check. -/
theorem wraps_accepted {footprint : UInt16} (large : 514 ≤ footprint.toNat)
    (some : 1 ≤ address.toNat) (low : address.toNat + footprint.toNat ≤ 66049) :
    ¬ (address = 0 ∨ endAddress footprint < address) ∧ footprint ≠ 0 := by
  refine ⟨?_, ?_⟩
  · rintro (rfl | high)
    · exact absurd some (by decide)
    · rw [UInt16.lt_iff_toNat_lt, endAddress_toNat, if_neg (by omega)] at high
      omega
  · rintro rfl
    exact absurd large (by decide)

theorem lookup_some (found : manager.lookup number = some personality) :
    number ≠ 0 ∧ number.toNat ≤ manager.personalities.length := by
  unfold PersonalityManager.lookup at found
  split at found
  · cases found
  · rename_i inside
    rw [not_or] at inside
    exact ⟨inside.1, by omega⟩

theorem setActiveOutput_found (found : manager.lookup number = some personality) :
    manager.setActiveOutputPersonality number =
      ({ manager with activePersonality := number }, true) := by
  have inside := lookup_some found
  exact if_neg (by rw [not_or]; exact ⟨inside.1, by omega⟩)

theorem setActiveOutput_missing (missing : manager.lookup number = none) :
    manager.setActiveOutputPersonality number = (manager, false) := by
  unfold PersonalityManager.lookup at missing
  split at missing
  · exact if_pos ‹_›
  · rename_i inside
    rw [not_or] at inside
    have positive : number.toNat ≠ 0 := fun zero => inside.1 (UInt8.toNat_inj.mp zero)
    rw [List.getElem?_eq_none_iff] at missing
    omega

theorem footprint_active (found : fixture.manager.lookup number = some personality)
    (address : UInt16) :
    Fixture.footprint ⟨{ fixture.manager with activePersonality := number }, address⟩ =
      personality.footprint := by
  have same : ({ fixture.manager with activePersonality := number } : PersonalityManager).lookup
      number = some personality := found
  unfold Fixture.footprint PersonalityManager.activePersonalityFootprint
  rw [same]

theorem setPersonality_keeps_iff (started : 1 ≤ fixture.startAddress.toNat) (request : Command)
    (count : UInt8) : (Placement.setPersonality request count).Keeps fixture ↔
      (Placement.setPersonality request count).Safe fixture := by
  have refused (reason : NackReason) (outcome : setPersonality request fixture.manager
      fixture.startAddress count = (fixture.manager, nack request reason count)) :
      (Placement.setPersonality request count).Keeps fixture := by
    apply Placement.keeps_of_refused
    · rw [Placement.Accepted, outcome]
      exact not_acknowledged_nack request reason count
    · rw [Placement.step, outcome]
  cases extracted : extractUInt8 request with
  | none =>
    refine iff_of_true (refused .formatError (by simp [setPersonality, extracted])) ?_
    intro number personality same
    rw [extracted] at same
    cases same
  | some number =>
    cases found : fixture.manager.lookup number with
    | none =>
      have missing := refused .dataOutOfRange (by simp [setPersonality, extracted, found])
      refine iff_of_true missing ?_
      intro other personality same located
      rw [extracted] at same
      cases same
      rw [found] at located
      cases located
    | some personality =>
      by_cases long : tooLong fixture.startAddress personality
      · refine iff_of_true
          (refused .dataOutOfRange (by simp [setPersonality, extracted, found, long])) ?_
        intro other another same located fits
        rw [extracted] at same
        cases same
        rw [found] at located
        cases located
        rw [tooLong_iff] at long
        omega
      · have outcome : setPersonality request fixture.manager fixture.startAddress count =
            ((fixture.manager.setActivePersonality number).1, emptySetResponse request count) := by
          simp [setPersonality, extracted, found, long]
        have accepted : (Placement.setPersonality request count).Accepted fixture := by
          rw [Placement.Accepted, outcome]
          exact acknowledged_emptySet request count
        rw [tooLong_iff] at long
        have safe : (Placement.setPersonality request count).Safe fixture ↔
            (fixture.manager.personalityCount < number →
              fixture.startAddress.toNat + fixture.footprint.toNat ≤ 513) := by
          constructor
          · exact fun all => all number personality extracted found (by omega)
          · intro fits other another same _ _
            rw [extracted] at same
            cases same
            exact fits
        rw [Placement.keeps_iff_of_accepted accepted, Placement.step, outcome, safe]
        by_cases above : fixture.manager.personalityCount < number
        · have unset : fixture.manager.setActivePersonality number = (fixture.manager, false) :=
            if_pos (.inr above)
          rw [unset]
          exact ⟨fun inside _ => (Fixture.inside_iff.mp inside).2,
            fun fits => Fixture.inside_iff.mpr ⟨started, fits above⟩⟩
        · have set : fixture.manager.setActivePersonality number =
              ({ fixture.manager with activePersonality := number }, true) :=
            if_neg (by rw [not_or]; exact ⟨(lookup_some found).1, above⟩)
          rw [set]
          refine iff_of_true ?_ (fun high => absurd high above)
          rw [Fixture.inside_iff, footprint_active found]
          exact ⟨started, Nat.le_of_not_gt long⟩

/-- An address that is taken over. -/
theorem moved_inside_iff (accepted : ¬ (address = 0 ∨ endAddress fixture.footprint < address))
    (some : fixture.footprint ≠ 0) :
    Fixture.Inside { fixture with startAddress := address } ↔ ¬ fixture.Wraps address := by
  rw [Fixture.inside_iff]
  exact address_iff accepted some

theorem setDmxAddress_keeps_iff (count : UInt8) :
    (Placement.setDmxAddress request count).Keeps fixture ↔
      (Placement.setDmxAddress request count).Safe fixture := by
  have refused (reason : NackReason) (messages : UInt8) (outcome : setDmxAddress request
      fixture.manager fixture.startAddress count =
        (fixture.startAddress, nack request reason messages)) :
      (Placement.setDmxAddress request count).Keeps fixture := by
    apply Placement.keeps_of_refused
    · rw [Placement.Accepted, outcome]
      exact not_acknowledged_nack request reason messages
    · rw [Placement.step, outcome]
  rw [Placement.Safe]
  cases extracted : extractUInt16 request with
  | none =>
    exact iff_of_true (refused .formatError 0 (by simp [setDmxAddress, extracted]))
      (fun address same => by cases same)
  | some address =>
    simp only [Option.some.injEq, forall_eq']
    by_cases outside : address = 0 ∨ endAddress fixture.footprint < address
    · refine iff_of_true (refused .dataOutOfRange count ?_) ?_
      · have outside' : address = 0 ∨
            endAddress fixture.manager.activePersonalityFootprint < address := outside
        simp [setDmxAddress, extracted, outside']
      · rintro ⟨large, some, low⟩
        exact (wraps_accepted large some low).1 outside
    · have outside' : ¬ (address = 0 ∨
          endAddress fixture.manager.activePersonalityFootprint < address) := outside
      by_cases zero : fixture.footprint = 0
      · refine iff_of_true (refused .dataOutOfRange count ?_) ?_
        · have zero' : fixture.manager.activePersonalityFootprint = 0 := zero
          simp [setDmxAddress, extracted, zero']
        · rintro ⟨large, some, low⟩
          exact (wraps_accepted large some low).2 zero
      · have zero' : fixture.manager.activePersonalityFootprint ≠ 0 := zero
        have outcome : setDmxAddress request fixture.manager fixture.startAddress count =
            (address, emptySetResponse request count) := by
          simp only [setDmxAddress, extracted, if_neg outside', if_neg zero']
        have accepted : (Placement.setDmxAddress request count).Accepted fixture := by
          rw [Placement.Accepted, outcome]
          exact acknowledged_emptySet request count
        rw [Placement.keeps_iff_of_accepted accepted, Placement.step, outcome]
        exact moved_inside_iff outside zero

theorem setStartAddress_keeps_iff (address : UInt16) :
    (Placement.setStartAddress address).Keeps fixture ↔
      (Placement.setStartAddress address).Safe fixture := by
  by_cases outside :
      address = 0 ∨ endAddress fixture.footprint < address ∨ fixture.footprint = 0
  · have outcome : fixture.setStartAddress address = (fixture, false) := if_pos outside
    refine iff_of_true (Placement.keeps_of_refused ?_ ?_) ?_
    · rw [Placement.Accepted, outcome]
      exact Bool.false_ne_true
    · rw [Placement.step, outcome]
    · rintro ⟨large, some, low⟩
      have passes := wraps_accepted large some low
      rw [or_assoc.symm] at outside
      exact outside.elim passes.1 passes.2
  · have outcome : fixture.setStartAddress address =
        ({ fixture with startAddress := address }, true) := if_neg outside
    have accepted : (Placement.setStartAddress address).Accepted fixture := by
      rw [Placement.Accepted, outcome]
    rw [or_assoc.symm, not_or] at outside
    rw [Placement.keeps_iff_of_accepted accepted, Placement.step, outcome]
    exact moved_inside_iff outside.1 outside.2

theorem setOutputPersonality_keeps_iff (started : 1 ≤ fixture.startAddress.toNat)
    (number : UInt16) : (Placement.setOutputPersonality number).Keeps fixture ↔
      (Placement.setOutputPersonality number).Safe fixture := by
  rw [Placement.Safe, Fixture.HasRoom]
  cases found : fixture.manager.lookup number.toUInt8 with
  | none =>
    have outcome : fixture.setOutputPersonality number = (fixture, false) := by
      rw [Fixture.setOutputPersonality, setActiveOutput_missing found]
    refine iff_of_true (Placement.keeps_of_refused ?_ ?_) (fun personality same => by cases same)
    · rw [Placement.Accepted, outcome]
      exact Bool.false_ne_true
    · rw [Placement.step, outcome]
  | some personality =>
    have outcome : fixture.setOutputPersonality number =
        ({ fixture with manager :=
          { fixture.manager with activePersonality := number.toUInt8 } }, true) := by
      rw [Fixture.setOutputPersonality, setActiveOutput_found found]
    have accepted : (Placement.setOutputPersonality number).Accepted fixture := by
      rw [Placement.Accepted, outcome]
    rw [Placement.keeps_iff_of_accepted accepted, Placement.step, outcome, Fixture.inside_iff,
      footprint_active found]
    simp only [Option.some.injEq, forall_eq']
    exact and_iff_right started

theorem setOutputDmxPersonality_keeps (started : 1 ≤ fixture.startAddress.toNat)
    (request : Command) : (Placement.setOutputDmxPersonality request).Keeps fixture := by
  have refused (reason : NackReason)
      (outcome : fixture.setOutputDmxPersonality request = (fixture, nack request reason 0)) :
      (Placement.setOutputDmxPersonality request).Keeps fixture := by
    apply Placement.keeps_of_refused
    · rw [Placement.Accepted, outcome]
      exact not_acknowledged_nack request reason 0
    · rw [Placement.step, outcome]
  cases extracted : extractUInt8 request with
  | none => exact refused .formatError (by simp [Fixture.setOutputDmxPersonality, extracted])
  | some number =>
    cases found : fixture.manager.lookup number with
    | none =>
      exact refused .dataOutOfRange
        (by simp [Fixture.setOutputDmxPersonality, extracted, found])
    | some personality =>
      by_cases long : tooLong fixture.startAddress personality
      · exact refused .dataOutOfRange
          (by simp [Fixture.setOutputDmxPersonality, extracted, found, long])
      · have outcome : fixture.setOutputDmxPersonality request =
            ({ fixture with manager :=
              { fixture.manager with activePersonality := number } },
              emptySetResponse request 0) := by
          simp [Fixture.setOutputDmxPersonality, extracted, found, long,
            setActiveOutput_found found]
        have accepted : (Placement.setOutputDmxPersonality request).Accepted fixture := by
          rw [Placement.Accepted, outcome]
          exact acknowledged_emptySet request 0
        rw [tooLong_iff] at long
        rw [Placement.keeps_iff_of_accepted accepted, Placement.step, outcome,
          Fixture.inside_iff, footprint_active found]
        exact ⟨started, Nat.le_of_not_gt long⟩

theorem setDmxStartAddress_keeps_iff : (Placement.setDmxStartAddress request).Keeps fixture ↔
      (Placement.setDmxStartAddress request).Safe fixture := by
  rw [Placement.Safe]
  cases extracted : extractUInt16 request with
  | none =>
    have outcome : fixture.setDmxStartAddress request = (fixture, nack request .formatError 0) := by
      simp [Fixture.setDmxStartAddress, extracted]
    refine iff_of_true (Placement.keeps_of_refused ?_ ?_) (fun address same => by cases same)
    · rw [Placement.Accepted, outcome]
      exact not_acknowledged_nack request .formatError 0
    · rw [Placement.step, outcome]
  | some address =>
    simp only [Option.some.injEq, forall_eq']
    rw [show (¬ fixture.Wraps address) ↔ _ from (setStartAddress_keeps_iff address).symm]
    by_cases refused : (fixture.setStartAddress address).2 = false
    · have outcome : fixture.setDmxStartAddress request =
          (fixture, nack request .dataOutOfRange 0) := by
        simp [Fixture.setDmxStartAddress, extracted, refused]
      have same : (fixture.setStartAddress address).1 = fixture := by
        unfold Fixture.setStartAddress at refused ⊢
        split at refused
        · rw [if_pos ‹_›]
        · cases refused
      refine iff_of_true (Placement.keeps_of_refused ?_ ?_) (Placement.keeps_of_refused ?_ same)
      · rw [Placement.Accepted, outcome]
        exact not_acknowledged_nack request .dataOutOfRange 0
      · rw [Placement.step, outcome]
      · rw [Placement.Accepted, refused]
        exact Bool.false_ne_true
    · have moved : (fixture.setStartAddress address).1 =
          { fixture with startAddress := address } := by
        unfold Fixture.setStartAddress at refused ⊢
        split at refused
        · exact absurd rfl refused
        · rw [if_neg ‹_›]
      have outcome : fixture.setDmxStartAddress request =
          ({ fixture with startAddress := address }, emptySetResponse request 0) := by
        simp [Fixture.setDmxStartAddress, extracted, refused, moved]
      have accepted : (Placement.setDmxStartAddress request).Accepted fixture := by
        rw [Placement.Accepted, outcome]
        exact acknowledged_emptySet request 0
      have directly : (Placement.setStartAddress address).Accepted fixture :=
        Bool.of_not_eq_false refused
      rw [Placement.keeps_iff_of_accepted accepted, Placement.keeps_iff_of_accepted directly]
      change (fixture.setDmxStartAddress request).1.Inside ↔
        (fixture.setStartAddress address).1.Inside
      rw [outcome, moved]

theorem positive_of_ne_zero (nonzero : address ≠ 0) : 1 ≤ address.toNat := by
  have positive : address.toNat ≠ 0 := fun zero => nonzero (UInt16.toNat_inj.mp zero)
  omega

variable {personalities : List Personality}

section

variable (standing : fixture.Standing personalities)
include standing

theorem Fixture.Standing.activate (nonzero : number ≠ 0)
    (known : number.toNat ≤ fixture.manager.personalities.length) :
    Fixture.Standing personalities
      { fixture with manager := { fixture.manager with activePersonality := number } } := by
  have positive : number.toNat ≠ 0 := fun zero => nonzero (UInt8.toNat_inj.mp zero)
  rw [standing.same] at known
  exact ⟨standing.started, standing.same, Nat.pos_of_ne_zero positive, known⟩

theorem Fixture.Standing.move {address : UInt16} (nonzero : address ≠ 0) :
    Fixture.Standing personalities { fixture with startAddress := address } :=
  ⟨positive_of_ne_zero nonzero, standing.same, standing.active⟩

theorem Fixture.Standing.setActiveOutput (number : UInt8) : Fixture.Standing personalities
      { fixture with manager := (fixture.manager.setActiveOutputPersonality number).1 } := by
  unfold PersonalityManager.setActiveOutputPersonality
  split
  · exact standing
  · rename_i known
    rw [not_or] at known
    exact standing.activate known.1 (Nat.le_of_not_lt known.2)

theorem Fixture.Standing.setStartAddress (address : UInt16) :
    (fixture.setStartAddress address).1.Standing personalities := by
  unfold Fixture.setStartAddress
  split
  · exact standing
  · rename_i accepted
    exact standing.move (not_or.mp accepted).1

theorem standing_step (operation : Placement) :
    (operation.step fixture).Standing personalities := by
  cases operation with
  | setPersonality request count =>
    unfold Placement.step setPersonality PersonalityManager.setActivePersonality
    dsimp only
    split
    · exact standing
    · split
      · exact standing
      · split
        · exact standing
        · split
          · exact standing
          · rename_i found _ known
            exact standing.activate (not_or.mp known).1 (lookup_some found).2
  | setDmxAddress request count =>
    unfold Placement.step setDmxAddress
    dsimp only
    split
    · exact standing
    · split
      · exact standing
      · split
        · exact standing
        · rename_i accepted _
          exact standing.move (not_or.mp accepted).1
  | setOutputPersonality number => exact standing.setActiveOutput number.toUInt8
  | setStartAddress address => exact standing.setStartAddress address
  | setOutputDmxPersonality request =>
    unfold Placement.step Fixture.setOutputDmxPersonality
    dsimp only
    split
    · exact standing
    · split
      · exact standing
      · split
        · exact standing
        · exact standing.setActiveOutput _
  | setDmxStartAddress request =>
    unfold Placement.step Fixture.setDmxStartAddress
    dsimp only
    split
    · exact standing
    · split
      · exact standing
      · rename_i address _ accepted
        unfold Fixture.setStartAddress at accepted ⊢
        split at accepted
        · exact absurd rfl accepted
        · rename_i inside
          rw [if_neg inside]
          exact standing.move (not_or.mp inside).1

end

end Steps

section Runs
open TransitionSystem

theorem keeps_iff {fixture : Fixture} (started : 1 ≤ fixture.startAddress.toNat)
    (operation : Placement) : operation.Keeps fixture ↔ operation.Safe fixture := by
  cases operation with
  | setPersonality request count => exact setPersonality_keeps_iff started request count
  | setDmxAddress request count => exact setDmxAddress_keeps_iff request count
  | setOutputPersonality number => exact setOutputPersonality_keeps_iff started number
  | setStartAddress address => exact setStartAddress_keeps_iff address
  | setOutputDmxPersonality request =>
    exact iff_of_true (setOutputDmxPersonality_keeps started request) trivial
  | setDmxStartAddress request => exact setDmxStartAddress_keeps_iff request

theorem standing_run {personalities : List Personality} (any : personalities ≠ [])
    (operations : List Placement) :
    (run Placement.step (.new personalities) operations).Standing personalities := by
  have first : (Fixture.new personalities).Standing personalities :=
    ⟨Nat.le_refl 1, rfl, Nat.le_refl 1, List.length_pos_of_ne_nil any⟩
  have preserved (fixture : Fixture) (operation : Placement)
      (standing : fixture.Standing personalities) (_ : True) :
      (operation.step fixture).Standing personalities := standing_step standing operation
  exact run_invariant preserved first (permitted_true Placement.step _ operations)

/-- A responder stays inside of the universe in every step of a run exactly if all operations are
safe where they come. -/
theorem footprints_inside_iff (personalities : List Personality) (operations : List Placement) :
    (∀ past operation future, operations = past ++ operation :: future →
      operation.Keeps (run Placement.step (.new personalities) past)) ↔
        Permitted Placement.step (fun fixture operation => operation.Safe fixture)
          (.new personalities) operations := by
  have preserved (fixture : Fixture) (operation : Placement)
      (started : 1 ≤ fixture.startAddress.toNat) (safe : operation.Safe fixture) :
      1 ≤ (operation.step fixture).startAddress.toNat := by
    have keeps := (keeps_iff started operation).mpr safe
    by_cases accepted : operation.Accepted fixture
    · exact (keeps.inside accepted).1
    · rw [keeps.unchanged accepted]
      exact started
  have first : 1 ≤ (Fixture.new personalities).startAddress.toNat := Nat.le_refl 1
  exact steps_iff_permitted preserved (fun fixture operation started => keeps_iff started operation)
    first

/-- 200 pixels need 600 slots: every address is taken. -/
theorem not_forall_inside : ¬ ∀ (personalities : List Personality) (operations : List Placement)
    (past : List Placement) (operation : Placement) (future : List Placement),
      operations = past ++ operation :: future →
        operation.Keeps (run Placement.step (.new personalities) past) := by
  intro all
  have keeps := all [⟨600, []⟩] [.setStartAddress 1] [] (.setStartAddress 1) [] rfl
  have accepted : (Fixture.setStartAddress (.new [⟨600, []⟩]) 1).2 = true := by decide
  exact absurd (Fixture.inside_iff.mp (keeps.inside accepted)).2 (by decide)

end Runs

end OpenLighting.Rdm
