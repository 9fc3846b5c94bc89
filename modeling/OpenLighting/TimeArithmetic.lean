import Mathlib.Logic.Function.Basic
import OpenLighting.Clock

/- The operators of `BaseTimeVal`, `TimeInterval` and `TimeStamp`. -/
namespace OpenLighting

open TimeVal

namespace TimeVal

/-- The fields of a `timeval` have 64 bits. -/
def stored (time : TimeVal) : TimeVal := ⟨toInt64 time.sec, toInt64 time.usec⟩

/-- `TimerSub`. -/
def sub (time other : TimeVal) : TimeVal :=
  let sec := time.sec - other.sec
  let usec := time.usec - other.usec
  if usec < 0 then ⟨sec - 1, usec + usecInSeconds⟩ else ⟨sec, usec⟩

def asInt (time : TimeVal) : Int := toInt64 (toInt64 (time.sec * usecInSeconds) + time.usec)

def timercmp (time other : TimeVal) (compare : Int → Int → Bool) : Bool :=
  if time.sec = other.sec then compare time.usec other.usec else compare time.sec other.sec

def equal (time other : TimeVal) : Bool := time.timercmp other fun one two => one = two

def different (time other : TimeVal) : Bool := !time.equal other

def greater (time other : TimeVal) : Bool := time.timercmp other fun one two => two < one

def greaterEqual (time other : TimeVal) : Bool := time.timercmp other fun one two => two ≤ one

def less (time other : TimeVal) : Bool := time.timercmp other fun one two => one < two

def lessEqual (time other : TimeVal) : Bool := time.timercmp other fun one two => one ≤ two

def plus (time interval : TimeVal) : TimeVal := (time.add interval).stored

def minus (time other : TimeVal) : TimeVal := (time.sub other).stored

def times (time : TimeVal) (factor : UInt32) : TimeVal :=
  ofMicroseconds (toInt64 (time.asInt * factor.toNat))

end TimeVal

/-- The objects of the three classes. A `TimeInterval` and a `TimeStamp` have a `BaseTimeVal`. -/
inductive TimeObject where
  | base (name : Nat)
  | interval (name : Nat)
  | stamp (name : Nat)
  deriving DecidableEq

/-- The `m_tv` of each object. -/
abbrev Times := TimeObject → TimeVal

variable (times : Times)

namespace Times

/-- `BaseTimeVal::operator+=`. -/
def plusAssign (target operand : TimeObject) : Times :=
  if target = operand then times
  else Function.update times target ((times target).plus (times operand))

/-- `BaseTimeVal::operator-=`. -/
def minusAssign (target operand : TimeObject) : Times :=
  if target = operand then times
  else Function.update times target ((times target).minus (times operand))

/-- `TimeInterval::operator+=`, which looks for itself before it passes the intervals on. -/
def intervalPlusAssign (target operand : Nat) : Times :=
  if TimeObject.interval target = .interval operand then times
  else times.plusAssign (.interval target) (.interval operand)

end Times

/-- The operators. What is not stored in an operand is stored in another object. -/
inductive TimeOperation where
  | basePlusAssign (target operand : Nat)
  | baseMinusAssign (target operand : Nat)
  | basePlus (result one other : Nat)
  | baseMinus (result one other : Nat)
  | baseTimes (result one : Nat) (factor : UInt32)
  | intervalPlusAssign (target operand : Nat)
  | intervalTimes (result one : Nat) (factor : UInt32)
  | stampPlusAssign (target interval : Nat)
  | stampMinusAssign (target interval : Nat)
  | stampPlus (result stamp interval : Nat)
  | stampMinusStamp (result stamp other : Nat)
  | stampMinus (result stamp interval : Nat)

namespace Times

def step (times : Times) : TimeOperation → Times
  | .basePlusAssign target operand => times.plusAssign (.base target) (.base operand)
  | .baseMinusAssign target operand => times.minusAssign (.base target) (.base operand)
  | .basePlus result one other =>
    Function.update times (.base result) ((times (.base one)).plus (times (.base other)))
  | .baseMinus result one other =>
    Function.update times (.base result) ((times (.base one)).minus (times (.base other)))
  | .baseTimes result one factor =>
    Function.update times (.base result) ((times (.base one)).times factor)
  | .intervalPlusAssign target operand => times.intervalPlusAssign target operand
  | .intervalTimes result one factor =>
    Function.update times (.interval result) ((times (.interval one)).times factor)
  | .stampPlusAssign target interval => times.plusAssign (.stamp target) (.interval interval)
  | .stampMinusAssign target interval => times.minusAssign (.stamp target) (.interval interval)
  | .stampPlus result stamp interval =>
    Function.update times (.stamp result) ((times (.stamp stamp)).plus (times (.interval interval)))
  | .stampMinusStamp result stamp other =>
    Function.update times (.interval result) ((times (.stamp stamp)).minus (times (.stamp other)))
  | .stampMinus result stamp interval =>
    Function.update times (.stamp result)
      ((times (.stamp stamp)).minus (times (.interval interval)))

end Times

/-- What an `int64_t` can hold. -/
def FitsInt64 (value : Int) : Prop := -2 ^ 63 ≤ value ∧ value < 2 ^ 63

instance (value : Int) : Decidable (FitsInt64 value) := inferInstanceAs (Decidable (_ ∧ _))

namespace TimeVal

def microseconds (time : TimeVal) : Int := time.sec * usecInSeconds + time.usec

def Normalised (time : TimeVal) : Prop := 0 ≤ time.usec ∧ time.usec < usecInSeconds

/-- A reading of the clock, or a number of microseconds. -/
inductive Built : TimeVal → Prop
  | reading {time : TimeVal} : time.Normalised → FitsInt64 time.microseconds → Built time
  | count {interval : Int} : FitsInt64 interval → Built (ofMicroseconds interval)

/-- Times in seconds that follow each other are further apart than their microseconds tell. -/
def Comparable (one other : TimeVal) : Prop :=
  (one.sec + 1 = other.sec → one.usec - other.usec < usecInSeconds) ∧
    (other.sec + 1 = one.sec → other.usec - one.usec < usecInSeconds)

/-- The operators agree with the order of `AsInt`. -/
structure ComparesRight (one other : TimeVal) : Prop where
  equal : one.equal other = decide (one.asInt = other.asInt)
  different : one.different other = decide (one.asInt ≠ other.asInt)
  greater : one.greater other = decide (other.asInt < one.asInt)
  greaterEqual : one.greaterEqual other = decide (other.asInt ≤ one.asInt)
  less : one.less other = decide (one.asInt < other.asInt)
  lessEqual : one.lessEqual other = decide (one.asInt ≤ other.asInt)

end TimeVal

/-- What an operator is there for. -/
inductive TimeResult where
  | sum (one other : TimeVal)
  | difference (one other : TimeVal)
  | product (one : TimeVal) (factor : UInt32)

namespace TimeResult

def exact : TimeResult → Int
  | sum one other => one.microseconds + other.microseconds
  | difference one other => one.microseconds - other.microseconds
  | product one factor => one.microseconds * factor.toNat

/-- What the code makes of it when the operand is not the target. -/
def time : TimeResult → TimeVal
  | sum one other => one.plus other
  | difference one other => one.minus other
  | product one factor => one.times factor

/-- The carry, or the borrow, is enough, and the division has not rounded up. -/
def Normalises : TimeResult → Prop
  | sum one other => 0 ≤ one.usec + other.usec
  | difference one other =>
    -usecInSeconds ≤ one.usec - other.usec ∧ one.usec - other.usec < usecInSeconds
  | product one factor =>
    0 ≤ one.microseconds * factor.toNat ∨ usecInSeconds ∣ one.microseconds * factor.toNat

end TimeResult

namespace TimeOperation

def target : TimeOperation → TimeObject
  | basePlusAssign target _ | baseMinusAssign target _ => .base target
  | basePlus result _ _ | baseMinus result _ _ | baseTimes result _ _ => .base result
  | intervalPlusAssign target _ => .interval target
  | intervalTimes result _ _ | stampMinusStamp result _ _ => .interval result
  | stampPlusAssign target _ | stampMinusAssign target _ => .stamp target
  | stampPlus result _ _ | stampMinus result _ _ => .stamp result

/-- The operand is the target. -/
def OfItself : TimeOperation → Prop
  | basePlusAssign target operand | baseMinusAssign target operand
  | intervalPlusAssign target operand => target = operand
  | _ => False

def wanted (times : Times) : TimeOperation → TimeResult
  | basePlusAssign one other | basePlus _ one other =>
    .sum (times (.base one)) (times (.base other))
  | baseMinusAssign one other | baseMinus _ one other =>
    .difference (times (.base one)) (times (.base other))
  | baseTimes _ one factor => .product (times (.base one)) factor
  | intervalPlusAssign one other => .sum (times (.interval one)) (times (.interval other))
  | intervalTimes _ one factor => .product (times (.interval one)) factor
  | stampPlusAssign one other | stampPlus _ one other =>
    .sum (times (.stamp one)) (times (.interval other))
  | stampMinusAssign one other | stampMinus _ one other =>
    .difference (times (.stamp one)) (times (.interval other))
  | stampMinusStamp _ one other => .difference (times (.stamp one)) (times (.stamp other))

/-- The target has the value that is wanted, and its microseconds are those of a second. -/
structure Right (times : Times) (operation : TimeOperation) : Prop where
  exact : (times.step operation operation.target).asInt = (operation.wanted times).exact
  normalised : (times.step operation operation.target).Normalised

/-- Nothing is done to an operand that is the target. -/
def Sound (operation : TimeOperation) : Prop :=
  (operation.OfItself → (times operation.target).microseconds = 0) ∧
    (¬ operation.OfItself → (operation.wanted times).Normalises)

end TimeOperation

section Words
variable {value : Int} {time one other : TimeVal}

theorem toInt64_of_fits (fits : FitsInt64 value) : toInt64 value = value :=
  Int.bmod_eq_of_le fits.1 fits.2

theorem asInt_eq (time : TimeVal) : time.asInt = toInt64 time.microseconds :=
  Int.bmod_add_bmod

theorem ofMicroseconds_spec (interval : Int) :
    (TimeVal.ofMicroseconds interval).microseconds = interval ∧
      -usecInSeconds < (TimeVal.ofMicroseconds interval).usec ∧
      (TimeVal.ofMicroseconds interval).usec < usecInSeconds ∧
      (0 ≤ interval → 0 ≤ (TimeVal.ofMicroseconds interval).usec) ∧
      (interval ≤ 0 → (TimeVal.ofMicroseconds interval).usec ≤ 0) := by
  unfold microseconds ofMicroseconds usecInSeconds
  dsimp only
  rcases Int.le_total 0 interval with positive | negative
  · rw [Int.tdiv_eq_ediv_of_nonneg positive, Int.tmod_eq_emod_of_nonneg positive]
    omega
  · obtain ⟨opposite, rfl⟩ : ∃ opposite, interval = -opposite := ⟨-interval, by omega⟩
    rw [Int.neg_tdiv, Int.neg_tmod, Int.tdiv_eq_ediv_of_nonneg (by omega),
      Int.tmod_eq_emod_of_nonneg (by omega)]
    omega

theorem TimeVal.Built.bounds (built : time.Built) : -usecInSeconds < time.usec ∧
    time.usec < usecInSeconds ∧ FitsInt64 time.microseconds := by
  cases built with
  | reading normalised fits =>
    unfold TimeVal.Normalised usecInSeconds at *
    exact ⟨by omega, normalised.2, fits⟩
  | count fits =>
    have spec := ofMicroseconds_spec
    exact ⟨(spec _).2.1, (spec _).2.2.1, (spec _).1.symm ▸ fits⟩

theorem TimeVal.Built.asInt (built : time.Built) : time.asInt = time.microseconds := by
  rw [asInt_eq, toInt64_of_fits built.bounds.2.2]

theorem stored_eq (sec : FitsInt64 time.sec) (usec : FitsInt64 time.usec) : time.stored = time := by
  unfold stored
  rw [toInt64_of_fits sec, toInt64_of_fits usec]

end Words

section Results
variable {one other : TimeVal}

section

variable (built : one.Built) (built' : other.Built)
include built built'

/-- The fields are large enough for sums and differences of what is built. -/
theorem plus_eq_add : one.plus other = one.add other := by
  have bounds := built.bounds
  have bounds' := built'.bounds
  unfold microseconds FitsInt64 usecInSeconds at bounds bounds'
  apply stored_eq
  all_goals
    unfold add FitsInt64 usecInSeconds
    dsimp only
    split
    · dsimp only
      omega
    · dsimp only
      omega

theorem minus_eq_sub : one.minus other = one.sub other := by
  have bounds := built.bounds
  have bounds' := built'.bounds
  unfold microseconds FitsInt64 usecInSeconds at bounds bounds'
  apply stored_eq
  all_goals
    unfold sub FitsInt64 usecInSeconds
    dsimp only
    split
    · dsimp only
      omega
    · dsimp only
      omega

theorem add_spec :
    (one.add other).microseconds = one.microseconds + other.microseconds ∧
      ((one.add other).Normalised ↔ 0 ≤ one.usec + other.usec) := by
  have bounds := built.bounds
  have bounds' := built'.bounds
  unfold usecInSeconds at bounds bounds'
  unfold add microseconds TimeVal.Normalised usecInSeconds
  dsimp only
  split
  · dsimp only
    omega
  · dsimp only
    omega

theorem sub_spec :
    (one.sub other).microseconds = one.microseconds - other.microseconds ∧
      ((one.sub other).Normalised ↔
        -usecInSeconds ≤ one.usec - other.usec ∧ one.usec - other.usec < usecInSeconds) := by
  have bounds := built.bounds
  have bounds' := built'.bounds
  unfold sub microseconds TimeVal.Normalised usecInSeconds
  dsimp only
  split
  · dsimp only
    omega
  · dsimp only
    omega

end

/-- The remainder of a negative number is negative. -/
theorem normalised_ofMicroseconds_iff (interval : Int) :
    (TimeVal.ofMicroseconds interval).Normalised ↔ 0 ≤ interval ∨ usecInSeconds ∣ interval := by
  have spec := ofMicroseconds_spec interval
  unfold microseconds usecInSeconds at spec
  unfold TimeVal.Normalised usecInSeconds
  omega

namespace TimeResult

def Built : TimeResult → Prop
  | sum one other | difference one other => one.Built ∧ other.Built
  | product one _ => one.Built

theorem time_product {factor : UInt32} (built : one.Built)
    (fits : FitsInt64 (product one factor).exact) :
    (product one factor).time = .ofMicroseconds (product one factor).exact := by
  change ofMicroseconds (toInt64 (one.asInt * factor.toNat)) = _
  rw [built.asInt]
  exact congrArg ofMicroseconds (toInt64_of_fits fits)

theorem time_spec {result : TimeResult} (built : result.Built) (fits : FitsInt64 result.exact) :
    result.time.microseconds = result.exact ∧ (result.time.Normalised ↔ result.Normalises) := by
  cases result with
  | sum one other =>
    have same : (sum one other).time = one.add other := plus_eq_add built.1 built.2
    rw [same]
    exact add_spec built.1 built.2
  | difference one other =>
    have same : (difference one other).time = one.sub other := minus_eq_sub built.1 built.2
    rw [same]
    exact sub_spec built.1 built.2
  | product one factor =>
    rw [time_product built fits]
    exact ⟨(ofMicroseconds_spec _).1, normalised_ofMicroseconds_iff _⟩

theorem asInt_time {result : TimeResult} (built : result.Built) (fits : FitsInt64 result.exact) :
    result.time.asInt = result.exact := by
  rw [asInt_eq, (time_spec built fits).1, toInt64_of_fits fits]

end TimeResult

end Results

section Comparisons
variable {one other : TimeVal}

/-- A comparison that goes by the sign of the difference. -/
theorem timercmp_eq (built : one.Built) (built' : other.Built) (comparable : one.Comparable other)
    {compare : Int → Int → Bool}
    (bySign : ∀ first second third fourth, (first < second ↔ third < fourth) →
      (second < first ↔ fourth < third) → compare first second = compare third fourth) :
    one.timercmp other compare = compare one.asInt other.asInt := by
  have bounds := built.bounds
  have bounds' := built'.bounds
  rw [built.asInt, built'.asInt]
  unfold TimeVal.Comparable usecInSeconds at *
  unfold timercmp microseconds usecInSeconds
  split
  · exact bySign _ _ _ _ (by omega) (by omega)
  · exact bySign _ _ _ _ (by omega) (by omega)

theorem comparesRight_iff (built : one.Built) (built' : other.Built) :
    one.ComparesRight other ↔ one.Comparable other := by
  constructor
  · intro right
    have less := right.less
    have greater := right.greater
    rw [built.asInt, built'.asInt] at less greater
    unfold TimeVal.less TimeVal.greater TimeVal.timercmp TimeVal.microseconds usecInSeconds at *
    unfold TimeVal.Comparable usecInSeconds
    constructor
    · intro next
      rw [if_neg (by omega), decide_eq_decide] at less
      omega
    · intro next
      rw [if_neg (by omega), decide_eq_decide] at greater
      omega
  · intro comparable
    have equal : one.equal other = decide (one.asInt = other.asInt) := by
      apply timercmp_eq built built' comparable
      intro first second third fourth _ _
      rw [decide_eq_decide]
      omega
    refine ⟨equal, ?_, ?_, ?_, ?_, ?_⟩
    · unfold different
      rw [equal, decide_not]
    all_goals
      apply timercmp_eq built built' comparable
      intro first second third fourth _ _
      rw [decide_eq_decide]
      omega

end Comparisons

section Operations
variable {times : Times} {operation : TimeOperation}

theorem step_of_itself (itself : operation.OfItself) : times.step operation = times := by
  cases operation with
  | basePlusAssign target operand | baseMinusAssign target operand =>
    exact if_pos (congrArg TimeObject.base itself)
  | intervalPlusAssign target operand => exact if_pos (congrArg TimeObject.interval itself)
  | _ => exact itself.elim

theorem step_of_other (apart : ¬ operation.OfItself) : times.step operation =
    Function.update times operation.target (operation.wanted times).time := by
  cases operation with
  | basePlusAssign target operand | baseMinusAssign target operand =>
    exact if_neg fun same => apart (TimeObject.base.inj same)
  | intervalPlusAssign target operand =>
    have differs := fun same => apart (TimeObject.interval.inj same)
    exact (if_neg differs).trans (if_neg differs)
  | _ => rfl

theorem wanted_built (built : ∀ object, (times object).Built) :
    (operation.wanted times).Built := by
  cases operation with
  | baseTimes _ one _ => exact built (.base one)
  | intervalTimes _ one _ => exact built (.interval one)
  | _ => exact ⟨built _, built _⟩

theorem sum_itself (time : TimeVal) :
    (TimeResult.sum time time).exact = time.microseconds ↔ time.microseconds = 0 := by
  change time.microseconds + time.microseconds = time.microseconds ↔ time.microseconds = 0
  omega

theorem difference_itself (time : TimeVal) :
    (TimeResult.difference time time).exact = time.microseconds ↔ time.microseconds = 0 := by
  change time.microseconds - time.microseconds = time.microseconds ↔ time.microseconds = 0
  omega

/-- What is added to itself, or taken from itself, is zero exactly where it stays the same. -/
theorem exact_of_itself (itself : operation.OfItself) :
    (operation.wanted times).exact = (times operation.target).microseconds ↔
      (times operation.target).microseconds = 0 := by
  cases operation with
  | basePlusAssign target operand =>
    cases itself
    exact sum_itself (times (.base target))
  | baseMinusAssign target operand =>
    cases itself
    exact difference_itself (times (.base target))
  | intervalPlusAssign target operand =>
    cases itself
    exact sum_itself (times (.interval target))
  | _ => exact itself.elim

theorem normalised_of_zero {time : TimeVal} (built : time.Built) (zero : time.microseconds = 0) :
    time.Normalised := by
  have bounds := built.bounds
  unfold microseconds usecInSeconds at *
  unfold TimeVal.Normalised usecInSeconds
  omega

/-- The operators are exact and normalise, and the comparisons agree with `AsInt`, where an operand
that is the target is zero, where the signs of the operands leave no more than one carry, and where
times in seconds that follow each other are in order. -/
theorem timeArithmetic_right_iff (times : Times) (built : ∀ object, (times object).Built) :
    (∀ operation : TimeOperation, FitsInt64 (operation.wanted times).exact →
      (operation.Right times ↔ operation.Sound times)) ∧
    ∀ one other,
      (times one).ComparesRight (times other) ↔ (times one).Comparable (times other) := by
  refine ⟨?_, fun one other => comparesRight_iff (built one) (built other)⟩
  intro operation fits
  have built' := @wanted_built _ operation built
  by_cases itself : operation.OfItself
  · have unchanged := @step_of_itself times _ itself
    have same := (built operation.target).asInt
    constructor
    · intro right
      have exact := right.exact
      rw [unchanged, same] at exact
      exact ⟨fun _ => (exact_of_itself itself).mp exact.symm, fun apart => absurd itself apart⟩
    · intro sound
      have zero := sound.1 itself
      refine ⟨?_, ?_⟩
      · rw [unchanged, same]
        exact ((exact_of_itself itself).mpr zero).symm
      · rw [unchanged]
        exact normalised_of_zero (built operation.target) zero
  · have changed : times.step operation operation.target = (operation.wanted times).time := by
      rw [step_of_other itself, Function.update_self]
    constructor
    · intro right
      have normalised := right.normalised
      rw [changed, (TimeResult.time_spec built' fits).2] at normalised
      exact ⟨fun same => absurd same itself, fun _ => normalised⟩
    · intro sound
      refine ⟨?_, ?_⟩
      · rw [changed]
        exact TimeResult.asInt_time built' fits
      · rw [changed, (TimeResult.time_spec built' fits).2]
        exact sound.2 itself

/-- Ten seconds, and intervals of one microsecond below zero. -/
def tenSeconds : Times
  | .interval _ => .ofMicroseconds (-1)
  | _ => ⟨10, 0⟩

theorem tenSeconds_right : (TimeOperation.stampMinusAssign 0 0).Right tenSeconds ∧
    (tenSeconds (.stamp 0)).ComparesRight (tenSeconds (.stamp 1)) := by
  have ten : (⟨10, 0⟩ : TimeVal).Built := .reading ⟨by decide, by decide⟩ (by decide)
  have built : ∀ object, (tenSeconds object).Built := by
    intro object
    cases object with
    | interval name => exact .count (by decide)
    | base name => exact ten
    | stamp name => exact ten
  have right := timeArithmetic_right_iff tenSeconds built
  constructor
  · refine (right.1 (.stampMinusAssign 0 0) (by decide)).mpr ⟨fun itself => itself.elim, ?_⟩
    intro _
    exact ⟨by decide, by decide⟩
  · exact (right.2 (.stamp 0) (.stamp 1)).mpr ⟨by decide, by decide⟩

/-- One second stays one second when it is added to itself, and a negative count has negative
microseconds when it is multiplied. -/
theorem plusAssign_itself_not_right :
    ¬ (TimeOperation.basePlusAssign 0 0).Right (fun _ => ⟨1, 0⟩) ∧
      ¬ (TimeOperation.intervalTimes 1 0 1).Right (fun _ => .ofMicroseconds (-1)) := by
  constructor
  · intro right
    exact absurd right.exact (by decide)
  · intro right
    exact absurd right.normalised.1 (by decide)

end Operations

end OpenLighting
