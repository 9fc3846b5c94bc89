import Mathlib.Data.Nat.Basic
import Mathlib.Data.UInt
import OpenLighting.ClampedCounter
import OpenLighting.Clock
import OpenLighting.TransitionSystem

/- A bucket that tokens are added to at some rate. Times are counted in microseconds. -/
namespace OpenLighting

/-- What a `uint64_t` holds. -/
def toUInt64 (value : Int) : Nat := (value % 2 ^ 64).toNat

structure TokenBucket where
  tokens : UInt32
  rate : UInt32
  max : UInt32
  last : Int
  deriving DecidableEq

namespace TokenBucket

def new (initial ratePerSecond max : UInt32) (now : Int) : TokenBucket :=
  ⟨initial, ratePerSecond, max, now⟩

/-- The tokens to add: the division rounds towards zero. -/
def newTokens (bucket : TokenBucket) (now : Int) : Nat :=
  let delta := toInt64 (now - bucket.last)
  toUInt64 ((toInt64 (delta * bucket.rate.toNat)).tdiv usecInSeconds)

/-- `Count`. The time moves on by what the tokens took, rounded down. -/
def count (bucket : TokenBucket) (now : Int) : TokenBucket :=
  let tokens := bucket.newTokens now
  { bucket with
    tokens := UInt32.ofNat (min bucket.max.toNat ((bucket.tokens.toNat + tokens) % 2 ^ 64))
    last :=
      if tokens = 0 then bucket.last
      else bucket.last +
        toInt64 ((tokens * usecInSeconds.toNat) % 2 ^ 64 / bucket.rate.toNat : Nat) }

def getToken (bucket : TokenBucket) (now : Int) : TokenBucket × Bool :=
  let counted := bucket.count now
  if 0 < counted.tokens then ({ counted with tokens := counted.tokens - 1 }, true)
  else (counted, false)

/-- A call, with the time it is given. -/
inductive Call where
  | getToken (now : Int)
  | count (now : Int)
  deriving DecidableEq

def Call.now : Call → Int
  | .getToken now | .count now => now

def Call.isGetToken : Call → Bool
  | .getToken _ => true
  | .count _ => false

def step (bucket : TokenBucket) : Call → TokenBucket
  | .getToken now => (bucket.getToken now).1
  | .count now => bucket.count now

/-- What the calls of `GetToken` return. -/
def results : TokenBucket → List Call → List Bool
  | _, [] => []
  | bucket, .getToken now :: rest => (bucket.getToken now).2 :: results (bucket.getToken now).1 rest
  | bucket, .count now :: rest => results (bucket.count now) rest

/-- The times do not fall. -/
def InOrder : Int → List Call → Prop
  | _, [] => True
  | time, call :: rest => time ≤ call.now ∧ InOrder call.now rest

/-- The times do not fall, and the products with the rate fit in 64 bits: beyond that, the code
has no defined result. -/
structure InTime (rate : UInt32) (start : Int) (calls : List Call) : Prop where
  inOrder : InOrder start calls
  fits : ∀ call ∈ calls, (call.now - start) * rate.toNat < 2 ^ 63

/-- What a bucket with this rate is for: it limits the tokens of any window of time, and counting
them changes nothing. -/
structure Limits (rate : UInt32) : Prop where
  window : ∀ (initial max : UInt32) (start : Int) (calls : List Call), InTime rate start calls →
    ∀ past window future, calls = past ++ window ++ future →
      ∀ (opens : Int) (duration : Nat),
        (∀ call ∈ window, opens ≤ call.now ∧ call.now ≤ opens + duration) →
          ((TransitionSystem.run step (new initial rate max start) past).results window).count
              true ≤
            Nat.max initial.toNat max.toNat + rate.toNat * duration / usecInSeconds.toNat + 1
  counting : ∀ (initial max : UInt32) (start : Int) (calls others : List Call),
    InTime rate start calls → InTime rate start others →
      calls.filter Call.isGetToken = others.filter Call.isGetToken →
        (new initial rate max start).results calls = (new initial rate max start).results others

section Count
variable {bucket : TokenBucket} {now : Int}

theorem toInt64_eq {value : Int} (nonnegative : 0 ≤ value) (fits : value < 2 ^ 63) :
    toInt64 value = value := by
  unfold toInt64
  rw [Int.bmod_def, Int.emod_eq_of_lt nonnegative (by omega), if_pos (by omega)]

theorem toUInt64_eq {value : Nat} (fits : value < 2 ^ 64) : toUInt64 value = value := by
  unfold toUInt64
  omega

section
variable (positive : 1 ≤ bucket.rate.toNat) (later : bucket.last ≤ now)
  (fits : (now - bucket.last) * bucket.rate.toNat < 2 ^ 63)
include positive later fits

/-- Where nothing overflows, the tokens are those of the natural numbers. -/
theorem newTokens_eq :
    bucket.newTokens now =
      (now - bucket.last).toNat * bucket.rate.toNat / usecInSeconds.toNat := by
  obtain ⟨delta, elapsed⟩ := Int.eq_ofNat_of_zero_le (Int.sub_nonneg_of_le later)
  unfold newTokens
  rw [elapsed] at fits ⊢
  have small : delta ≤ delta * bucket.rate.toNat := Nat.le_mul_of_pos_right delta positive
  have nonnegative : 0 ≤ (delta : Int) * bucket.rate.toNat :=
    Int.mul_nonneg (Int.natCast_nonneg delta) (Int.natCast_nonneg _)
  rw [toInt64_eq (Int.natCast_nonneg delta) (by omega)]
  dsimp only
  rw [toInt64_eq nonnegative fits]
  have divided : ((delta : Int) * bucket.rate.toNat).tdiv usecInSeconds =
      ((delta * bucket.rate.toNat / usecInSeconds.toNat : Nat) : Int) := by
    rw [Int.tdiv_eq_ediv_of_nonneg nonnegative]
    push_cast
    rfl
  rw [divided, toUInt64_eq (Nat.lt_of_le_of_lt (Nat.div_le_self _ _) (by omega))]
  rfl

theorem count_tokens :
    (bucket.count now).tokens.toNat = min bucket.max.toNat (bucket.tokens.toNat +
      (now - bucket.last).toNat * bucket.rate.toNat / usecInSeconds.toNat) := by
  have most := bucket.max.toNat_lt
  have few := bucket.tokens.toNat_lt
  have product : (now - bucket.last).toNat * bucket.rate.toNat < 2 ^ 63 := by
    have nonnegative := Int.sub_nonneg_of_le later
    rw [← Int.toNat_of_nonneg nonnegative] at fits
    exact_mod_cast fits
  have quotient : (now - bucket.last).toNat * bucket.rate.toNat / usecInSeconds.toNat < 2 ^ 63 :=
    Nat.lt_of_le_of_lt (Nat.div_le_self _ _) product
  unfold count
  rw [newTokens_eq positive later fits]
  rw [UInt32.toNat_ofNat', Nat.mod_eq_of_lt (show bucket.tokens.toNat + _ < 2 ^ 64 by omega),
    Nat.mod_eq_of_lt (by omega)]

theorem count_last :
    (bucket.count now).last = bucket.last +
      ((now - bucket.last).toNat * bucket.rate.toNat / usecInSeconds.toNat *
        usecInSeconds.toNat / bucket.rate.toNat : Nat) := by
  have product : (now - bucket.last).toNat * bucket.rate.toNat < 2 ^ 63 := by
    have nonnegative := Int.sub_nonneg_of_le later
    rw [← Int.toNat_of_nonneg nonnegative] at fits
    exact_mod_cast fits
  have back := Nat.div_mul_le_self ((now - bucket.last).toNat * bucket.rate.toNat)
    usecInSeconds.toNat
  unfold count
  rw [newTokens_eq positive later fits]
  dsimp only
  split
  · rename_i none
    rw [none, Nat.zero_mul, Nat.zero_div, Int.natCast_zero, Int.add_zero]
  · rw [Nat.mod_eq_of_lt (by omega)]
    refine congrArg (bucket.last + ·) (toInt64_eq (Int.natCast_nonneg _) ?_)
    have divided := Nat.div_le_self ((now - bucket.last).toNat * bucket.rate.toNat /
      usecInSeconds.toNat * usecInSeconds.toNat) bucket.rate.toNat
    have bound : (now - bucket.last).toNat * bucket.rate.toNat / usecInSeconds.toNat *
      usecInSeconds.toNat / bucket.rate.toNat < 2 ^ 63 := by omega
    exact_mod_cast bound

end

@[simp] theorem step_rate (call : Call) : (bucket.step call).rate = bucket.rate := by
  cases call with
  | getToken now =>
    unfold step getToken
    dsimp only
    split <;> rfl
  | count now => rfl

@[simp] theorem step_max (call : Call) : (bucket.step call).max = bucket.max := by
  cases call with
  | getToken now =>
    unfold step getToken
    dsimp only
    split <;> rfl
  | count now => rfl

end Count

/- Where the rate divides a second, the bucket is a counter that gains one at each tick. -/
section Ticks
variable {start : Int} {period : Nat}

open ClampedCounter (Counter Operation)

def tick (start : Int) (period : Nat) (now : Int) : Nat := (now - start).toNat / period

def Call.operation (start : Int) (period : Nat) : Call → Operation
  | .getToken now => .take (tick start period now)
  | .count now => .look (tick start period now)

theorem operation_tick (call : Call) :
    (call.operation start period).tick = tick start period call.now := by
  cases call <;> rfl

theorem operation_isTake (call : Call) :
    (call.operation start period).isTake = call.isGetToken := by
  cases call <;> rfl

theorem tick_mono {early late : Int} (le : early ≤ late) :
    tick start period early ≤ tick start period late := by
  exact Nat.div_le_div_right (by omega)

/-- The bucket holds what the counter does, and its time is that of the last tick. -/
structure Mirrors (start : Int) (period : Nat) (bucket : TokenBucket) (counter : Counter) :
    Prop where
  exact : period * bucket.rate.toNat = usecInSeconds.toNat
  tokens : bucket.tokens.toNat = counter.count
  last : bucket.last = start + (period * counter.tick : Nat)

variable {bucket : TokenBucket} {counter : Counter} {now : Int}

theorem Mirrors.positive (mirrors : Mirrors start period bucket counter) :
    1 ≤ bucket.rate.toNat ∧ 1 ≤ period := by
  have exact := mirrors.exact
  constructor
  · by_contra zero
    rw [show bucket.rate.toNat = 0 by omega] at exact
    cases exact
  · by_contra zero
    rw [show period = 0 by omega, Nat.zero_mul] at exact
    cases exact

theorem Mirrors.count (mirrors : Mirrors start period bucket counter) (later : start ≤ now)
    (ordered : counter.tick ≤ tick start period now)
    (fits : (now - start) * bucket.rate.toNat < 2 ^ 63) :
    Mirrors start period (bucket.count now)
      (ClampedCounter.fill bucket.max.toNat counter (tick start period now)) := by
  obtain ⟨positive, long⟩ := mirrors.positive
  obtain ⟨exact, tokens, last⟩ := mirrors
  obtain ⟨elapsed, since⟩ := Int.eq_ofNat_of_zero_le (Int.sub_nonneg_of_le later)
  have ticked : tick start period now = elapsed / period := by
    unfold tick
    rw [since, Int.toNat_natCast]
  rw [ticked] at ordered ⊢
  have reached : period * counter.tick ≤ elapsed :=
    (Nat.mul_le_mul_left period ordered).trans (Nat.mul_div_le elapsed period)
  have delta : now - bucket.last = ((elapsed - period * counter.tick : Nat) : Int) := by
    rw [last]
    omega
  have product : elapsed * bucket.rate.toNat < 2 ^ 63 := by
    rw [since] at fits
    exact_mod_cast fits
  have inRange : (now - bucket.last) * bucket.rate.toNat < 2 ^ 63 := by
    rw [delta]
    have less := Nat.mul_le_mul_right bucket.rate.toNat
      (Nat.sub_le elapsed (period * counter.tick))
    exact_mod_cast Nat.lt_of_le_of_lt less product
  have notEarlier : bucket.last ≤ now := by omega
  -- The tokens are the ticks since the last one.
  have gained : (now - bucket.last).toNat * bucket.rate.toNat / usecInSeconds.toNat =
      elapsed / period - counter.tick := by
    rw [delta, Int.toNat_natCast, ← exact, Nat.mul_div_mul_right _ _ positive,
      Nat.sub_mul_div_of_le _ _ _ reached]
  refine ⟨exact, ?_, ?_⟩
  · rw [count_tokens positive notEarlier inRange, gained, tokens]
    rfl
  · rw [count_last positive notEarlier inRange, gained, last, ← exact, ← Nat.mul_assoc,
      Nat.mul_div_cancel _ positive]
    dsimp only [ClampedCounter.fill]
    rw [Int.add_assoc, ← Int.natCast_add]
    refine congrArg (fun ticks : Nat => start + (ticks : Int)) ?_
    rw [Nat.mul_comm (elapsed / period - counter.tick), ← Nat.mul_add]
    exact congrArg (period * ·) (by omega)

theorem getToken_snd : (bucket.getToken now).2 = decide (0 < (bucket.count now).tokens.toNat) := by
  unfold getToken
  dsimp only
  split
  · rename_i left
    exact (decide_eq_true (UInt32.lt_iff_toNat_lt.mp left)).symm
  · rename_i empty
    exact (decide_eq_false fun left => empty (UInt32.lt_iff_toNat_lt.mpr left)).symm

theorem getToken_tokens :
    (bucket.getToken now).1.tokens.toNat = (bucket.count now).tokens.toNat - 1 := by
  unfold getToken
  dsimp only
  split
  · rename_i left
    exact UInt32.toNat_sub_of_le _ _ (UInt32.le_iff_toNat_le.mpr left)
  · rename_i empty
    exact (Nat.sub_eq_zero_of_le (Nat.le_succ_of_le (Nat.le_of_not_lt empty))).symm ▸
      Nat.eq_zero_of_not_pos empty

theorem getToken_last : (bucket.getToken now).1.last = (bucket.count now).last := by
  unfold getToken
  dsimp only
  split <;> rfl

theorem Mirrors.step (mirrors : Mirrors start period bucket counter) (call : Call)
    (later : start ≤ call.now) (ordered : counter.tick ≤ tick start period call.now)
    (fits : (call.now - start) * bucket.rate.toNat < 2 ^ 63) :
    Mirrors start period (bucket.step call)
      (ClampedCounter.step bucket.max.toNat counter (call.operation start period)) := by
  have counted := mirrors.count later ordered fits
  cases call with
  | count now => exact counted
  | getToken now =>
    refine ⟨?_, ?_, ?_⟩
    · rw [step_rate]
      exact mirrors.exact
    · exact getToken_tokens.trans (congrArg (· - 1) counted.tokens)
    · exact getToken_last.trans counted.last

/-- The calls of a run, with what is known of the bucket and the counter between them. -/
structure Running (start : Int) (period : Nat) (bucket : TokenBucket) (counter : Counter)
    (time : Int) (calls : List Call) : Prop where
  mirrors : Mirrors start period bucket counter
  started : start ≤ time
  ticked : counter.tick ≤ tick start period time
  inOrder : InOrder time calls
  fits : ∀ call ∈ calls, (call.now - start) * bucket.rate.toNat < 2 ^ 63

theorem Running.step {time : Int} {call : Call} {rest : List Call}
    (running : Running start period bucket counter time (call :: rest)) :
    Running start period (bucket.step call)
      (ClampedCounter.step bucket.max.toNat counter (call.operation start period)) call.now
        rest where
  mirrors := running.mirrors.step call (running.started.trans running.inOrder.1)
    (running.ticked.trans (tick_mono running.inOrder.1))
    (running.fits call List.mem_cons_self)
  started := running.started.trans running.inOrder.1
  ticked := by rw [ClampedCounter.step_tick, operation_tick]
  inOrder := running.inOrder.2
  fits := by
    intro other member
    rw [step_rate]
    exact running.fits other (List.mem_cons_of_mem call member)

variable {time : Int} {calls rest : List Call}

theorem Running.results (running : Running start period bucket counter time calls) :
    bucket.results calls = ClampedCounter.results bucket.max.toNat counter
      (calls.map (Call.operation start period)) := by
  induction calls generalizing bucket counter time with
  | nil => rfl
  | cons call rest ih =>
    have onward := ih running.step
    rw [step_max] at onward
    have counted := running.mirrors.count (running.started.trans running.inOrder.1)
      (running.ticked.trans (tick_mono running.inOrder.1))
      (running.fits call List.mem_cons_self)
    cases call with
    | count now => exact onward
    | getToken now =>
      have same : (bucket.getToken now).2 = decide (0 < (ClampedCounter.fill bucket.max.toNat
          counter (tick start period now)).count) := by
        rw [getToken_snd]
        exact congrArg (fun tokens : Nat => decide (0 < tokens)) counted.tokens
      exact (congrArg (· :: _) same).trans (congrArg (List.cons _) onward)

theorem Running.run {past : List Call}
    (running : Running start period bucket counter time (past ++ rest)) :
    ∃ counter' time', Running start period (TransitionSystem.run TokenBucket.step bucket past)
        counter' time' rest ∧
      (TransitionSystem.run TokenBucket.step bucket past).max = bucket.max := by
  induction past generalizing bucket counter time with
  | nil => exact ⟨counter, time, running, rfl⟩
  | cons call past ih =>
    obtain ⟨counter', time', onward, max⟩ := ih running.step
    exact ⟨counter', time', onward, max.trans (step_max call)⟩

theorem Running.operations (running : Running start period bucket counter time calls) :
    ClampedCounter.InOrder counter.tick (calls.map (Call.operation start period)) := by
  induction calls generalizing bucket counter time with
  | nil => trivial
  | cons call rest ih =>
    have onward := ih running.step
    rw [ClampedCounter.step_tick] at onward
    refine ⟨?_, onward⟩
    rw [operation_tick]
    exact running.ticked.trans (tick_mono running.inOrder.1)

theorem running_new {rate initial max : UInt32} {calls : List Call}
    (exact : period * rate.toNat = usecInSeconds.toNat) (inTime : InTime rate start calls) :
    Running start period (new initial rate max start) ⟨initial.toNat, 0⟩ start calls where
  mirrors := ⟨exact, rfl, by simp [new]⟩
  started := le_rfl
  ticked := Nat.zero_le _
  inOrder := inTime.inOrder
  fits := inTime.fits

theorem InOrder.le (inOrder : InOrder time calls) :
    ∀ call ∈ calls, time ≤ call.now := by
  induction calls generalizing time with
  | nil =>
    intro call member
    cases member
  | cons first rest ih =>
    intro call member
    rcases List.mem_cons.mp member with rfl | inRest
    · exact inOrder.1
    · exact inOrder.1.trans (ih inOrder.2 call inRest)

theorem InOrder.append_left (inOrder : InOrder time (calls ++ rest)) : InOrder time calls := by
  induction calls generalizing time with
  | nil => trivial
  | cons call calls ih => exact ⟨inOrder.1, ih inOrder.2⟩

theorem Running.append_left (running : Running start period bucket counter time (calls ++ rest)) :
    Running start period bucket counter time calls where
  mirrors := running.mirrors
  started := running.started
  ticked := running.ticked
  inOrder := running.inOrder.append_left
  fits := fun call member => running.fits call (List.mem_append_left rest member)

theorem tick_add_le (later : start ≤ time) (positive : 1 ≤ period) (duration : Nat) :
    tick start period (time + duration) - tick start period time ≤ duration / period + 1 := by
  unfold tick
  rw [show (time + duration - start).toNat = (time - start).toNat + duration by omega,
    Nat.add_div positive]
  generalize duration / period = during
  split <;> omega

/-- The tokens of a window: no more than the limit, one for each tick in it, and one. -/
theorem Running.window {opens : Int} {duration : Nat}
    (running : Running start period bucket counter time calls)
    (within : ∀ call ∈ calls, opens ≤ call.now ∧ call.now ≤ opens + duration) :
    (bucket.results calls).count true ≤ bucket.max.toNat + (duration / period + 1) := by
  rw [running.results]
  cases calls with
  | nil => exact Nat.zero_le _
  | cons call rest =>
    have first := within call List.mem_cons_self
    have after := running.inOrder.2.le
    have bounded : ∀ operation ∈ (call :: rest).map (Call.operation start period),
        tick start period call.now ≤ operation.tick ∧
          operation.tick ≤ tick start period (call.now + duration) := by
      intro operation member
      obtain ⟨other, inCalls, rfl⟩ := List.mem_map.mp member
      rw [operation_tick]
      have bound := within other inCalls
      have notBefore : call.now ≤ other.now := by
        rcases List.mem_cons.mp inCalls with rfl | inRest
        · exact le_rfl
        · exact after other inRest
      exact ⟨tick_mono notBefore, tick_mono (by omega)⟩
    have taken := @ClampedCounter.taken_le_limit bucket.max.toNat counter _ _ _
      running.operations bounded
    have ticks := tick_add_le (running.started.trans running.inOrder.1)
      running.mirrors.positive.2 duration
    omega

/-- A bucket limits its tokens if the rate divides a second. -/
theorem limits_of_dvd {rate : UInt32} (divides : rate.toNat ∣ usecInSeconds.toNat) :
    Limits rate := by
  obtain ⟨period, product⟩ := divides
  have exact : period * rate.toNat = usecInSeconds.toNat := by rw [product, Nat.mul_comm]
  have positive : 0 < rate.toNat := Nat.pos_of_dvd_of_pos ⟨period, product⟩ (by decide)
  constructor
  · intro initial max start calls inTime past window future split opens duration within
    rw [split, List.append_assoc] at inTime
    obtain ⟨counter, time, running, same⟩ := (running_new exact inTime).run
    have bound := running.append_left.window within
    rw [same] at bound
    have ticks : rate.toNat * duration / usecInSeconds.toNat = duration / period := by
      rw [← exact, Nat.mul_comm rate.toNat, Nat.mul_div_mul_right _ _ positive]
    have limit : (new initial rate max start).max.toNat ≤ Nat.max initial.toNat max.toNat :=
      Nat.le_max_right _ _
    rw [ticks, Nat.add_assoc]
    exact bound.trans (Nat.add_le_add_right limit _)
  · intro initial max start calls others inTime inTime' same
    have running := @running_new start period rate initial max calls exact inTime
    have running' := @running_new start period rate initial max others exact inTime'
    have takes : ∀ list : List Call, (list.map (Call.operation start period)).filter
        Operation.isTake = (list.filter Call.isGetToken).map (Call.operation start period) := by
      intro list
      rw [List.filter_map]
      exact congrArg _ (List.filter_congr fun call _ => operation_isTake call)
    rw [running.results, running'.results, ClampedCounter.results_takes running.operations,
      ClampedCounter.results_takes running'.operations, takes, takes, same]

end Ticks

/- Where the rate does not divide a second, the time lost by rounding down adds up. -/
section Burst
variable {rate : UInt32} {quotient : Nat}

/-- A call right after the rounded time of each token, from some token on. -/
def burst (quotient : Nat) : Nat → Nat → List Call
  | _, 0 => []
  | index, count + 1 =>
    .getToken ((index + 1) * quotient + 1 : Nat) :: burst quotient (index + 1) count

theorem burst_now {index count : Nat} {call : Call} (member : call ∈ burst quotient index count) :
    ((index + 1) * quotient + 1 : Nat) ≤ call.now ∧
      call.now ≤ ((index + count) * quotient + 1 : Nat) := by
  induction count generalizing index with
  | zero => cases member
  | succ count ih =>
    rcases List.mem_cons.mp member with rfl | later
    · simp only [Call.now]
      constructor
      · exact le_rfl
      · have more := Nat.mul_le_mul_right quotient (show index + 1 ≤ index + (count + 1) by omega)
        omega
    · obtain ⟨low, high⟩ := ih later
      have more := Nat.mul_le_mul_right quotient (show index + 1 ≤ index + 1 + 1 by omega)
      rw [show index + 1 + count = index + (count + 1) by omega] at high
      exact ⟨by omega, high⟩

variable {index : Nat}

theorem burst_inOrder {count : Nat} {time : Int} (later : time ≤ ((index + 1) * quotient + 1 : Nat)) :
    InOrder time (burst quotient index count) := by
  induction count generalizing index time with
  | zero => trivial
  | succ count ih =>
    have more := Nat.mul_le_mul_right quotient (show index + 1 ≤ index + 1 + 1 by omega)
    exact ⟨later, ih (by simp only [Call.now]; omega)⟩

section
variable {bucket : TokenBucket} (positive : 1 ≤ bucket.rate.toNat)
  (most : bucket.rate.toNat ≤ usecInSeconds.toNat)
  (quotient_eq : quotient = usecInSeconds.toNat / bucket.rate.toNat)
  (rounded : ¬ bucket.rate.toNat ∣ usecInSeconds.toNat) (empty : bucket.tokens = 0)
  (one : bucket.max = 1) (last : bucket.last = (index * quotient : Nat))
include positive most quotient_eq rounded empty one last

/-- The next call of a burst gets a token, and leaves an empty bucket with the rounded time. -/
theorem burst_step :
    (bucket.getToken ((index + 1) * quotient + 1 : Nat)).2 = true ∧
      (bucket.getToken ((index + 1) * quotient + 1 : Nat)).1 =
        ⟨0, bucket.rate, 1, ((index + 1) * quotient : Nat)⟩ := by
  have second : usecInSeconds.toNat = 1000000 := rfl
  have elapsed :
      (((index + 1) * quotient + 1 : Nat) : Int) - bucket.last = (quotient + 1 : Nat) := by
    rw [last, Nat.succ_mul]
    omega
  -- More than one token is due, and less than two are.
  have below : quotient * bucket.rate.toNat < usecInSeconds.toNat := by
    refine Nat.lt_of_le_of_ne (quotient_eq ▸ Nat.div_mul_le_self _ _) ?_
    intro whole
    exact rounded ⟨quotient, by rw [Nat.mul_comm]; exact whole.symm⟩
  have above : usecInSeconds.toNat < (quotient + 1) * bucket.rate.toNat := by
    rw [quotient_eq, Nat.mul_comm]
    exact Nat.lt_mul_div_succ _ positive
  have product : (quotient + 1) * bucket.rate.toNat < 2 * usecInSeconds.toNat := by
    rw [Nat.succ_mul]
    omega
  have single : (quotient + 1) * bucket.rate.toNat / usecInSeconds.toNat = 1 :=
    Nat.div_eq_of_lt_le (by omega) (by omega)
  have fits : (((index + 1) * quotient + 1 : Nat) - bucket.last) * bucket.rate.toNat <
      (2 ^ 63 : Int) := by
    rw [elapsed]
    have bound : (quotient + 1) * bucket.rate.toNat < 2 ^ 63 := by omega
    exact_mod_cast bound
  have later : bucket.last ≤ ((index + 1) * quotient + 1 : Nat) := by
    rw [last, Nat.succ_mul]
    omega
  have tokens := count_tokens positive later fits
  have time := count_last positive later fits
  rw [elapsed, Int.toNat_natCast, single, empty, one] at tokens
  rw [elapsed, Int.toNat_natCast, single, Nat.one_mul, ← quotient_eq, last, ← Int.natCast_add,
    ← Nat.succ_mul] at time
  have full : (bucket.count ((index + 1) * quotient + 1 : Nat)).tokens = 1 :=
    UInt32.toNat_inj.mp tokens
  have counted : bucket.count ((index + 1) * quotient + 1 : Nat) =
      ⟨1, bucket.rate, 1, ((index + 1) * quotient : Nat)⟩ :=
    calc bucket.count ((index + 1) * quotient + 1 : Nat)
      _ = ⟨(bucket.count ((index + 1) * quotient + 1 : Nat)).tokens, bucket.rate, bucket.max,
          (bucket.count ((index + 1) * quotient + 1 : Nat)).last⟩ := rfl
      _ = ⟨1, bucket.rate, 1, ((index + 1) * quotient : Nat)⟩ := by rw [full, one, time]
  have left : (0 : UInt32) < 1 := by decide
  unfold getToken
  rw [counted]
  dsimp only
  rw [if_pos left]
  exact ⟨rfl, rfl⟩

theorem burst_results {count : Nat} :
    bucket.results (burst quotient index count) = List.replicate count true := by
  induction count generalizing index bucket with
  | zero => rfl
  | succ count ih =>
    obtain ⟨got, next⟩ := burst_step positive most quotient_eq rounded empty one last
    rw [burst, results, got, next, List.replicate_succ]
    exact congrArg (List.cons true)
      (@ih (index + 1) ⟨0, bucket.rate, 1, _⟩ positive most quotient_eq rounded rfl rfl rfl)

end

/-- A rate that does not divide a second lets more than a million bursts through. -/
theorem not_limits {rate : UInt32} (positive : 1 ≤ rate.toNat)
    (most : rate.toNat ≤ usecInSeconds.toNat) (rounded : ¬ rate.toNat ∣ usecInSeconds.toNat) :
    ¬ Limits rate := by
  intro limits
  have second : usecInSeconds.toNat = 1000000 := rfl
  obtain ⟨quotient, quotient_eq⟩ : ∃ quotient, quotient = usecInSeconds.toNat / rate.toNat :=
    ⟨_, rfl⟩
  have lost : rate.toNat * quotient + 1 ≤ usecInSeconds.toNat := by
    refine Nat.lt_of_le_of_ne (quotient_eq ▸ Nat.mul_div_le _ _) ?_
    intro whole
    exact rounded ⟨quotient, whole.symm⟩
  -- A million and two calls, one for each token by the rounded times.
  have times := @burst_now quotient 0 1000002
  have inTime : InTime rate 0 (burst quotient 0 1000002) := by
    refine ⟨burst_inOrder (by omega), ?_⟩
    intro call member
    obtain ⟨low, high⟩ := times member
    have nonnegative : 0 ≤ call.now - 0 := by omega
    obtain ⟨now, same⟩ := Int.eq_ofNat_of_zero_le nonnegative
    have atMost : now ≤ 1000002 * quotient + 1 := by omega
    have product := Nat.mul_le_mul_right rate.toNat atMost
    have bound : now * rate.toNat < 2 ^ 63 := by
      rw [Nat.add_mul, Nat.mul_assoc, Nat.mul_comm quotient] at product
      omega
    rw [same]
    exact_mod_cast bound
  have window := limits.window 0 1 0 _ inTime [] (burst quotient 0 1000002) []
    (by rw [List.nil_append, List.append_nil]) (quotient + 1 : Nat) (1000001 * quotient)
    (by
      intro call member
      obtain ⟨low, high⟩ := times member
      constructor
      · omega
      · omega)
  have start : (new 0 rate 1 0).last = (0 * quotient : Nat) := by
    rw [Nat.zero_mul]
    rfl
  rw [TransitionSystem.run_nil, burst_results positive most quotient_eq rounded rfl rfl start,
    List.count_replicate_self] at window
  have dues : rate.toNat * (1000001 * quotient) / usecInSeconds.toNat < 1000000 := by
    refine (Nat.div_lt_iff_lt_mul (by decide)).mpr ?_
    rw [Nat.mul_left_comm]
    omega
  have limit : Nat.max (0 : UInt32).toNat (1 : UInt32).toNat = 1 := rfl
  rw [limit] at window
  omega

end Burst

/-- Among the rates up to a million, a bucket limits its tokens exactly where the rate divides a
second. -/
theorem limits_iff (rate : UInt32) (positive : 1 ≤ rate.toNat)
    (most : rate.toNat ≤ usecInSeconds.toNat) :
    Limits rate ↔ rate.toNat ∣ usecInSeconds.toNat := by
  constructor
  · intro limits
    by_contra rounded
    exact not_limits positive most rounded limits
  · exact limits_of_dvd

theorem limits_iff_thousand :
    (1 ≤ (1000 : UInt32).toNat ∧ (1000 : UInt32).toNat ≤ usecInSeconds.toNat) ∧
      (Limits 1000 ↔ (1000 : UInt32).toNat ∣ usecInSeconds.toNat) :=
  ⟨by decide, limits_iff 1000 (by decide) (by decide)⟩

/-- Five tokens in four microseconds, at 700000 tokens in a second. -/
theorem not_forall_limits :
    ¬ ∀ rate : UInt32, 1 ≤ rate.toNat → rate.toNat ≤ usecInSeconds.toNat → Limits rate := by
  intro all
  have limits := all 700000 (by decide) (by decide)
  have inTime : InTime 700000 0 [.getToken 2, .getToken 3, .getToken 4, .getToken 5,
      .getToken 6] := by
    refine ⟨⟨?_, ?_, ?_, ?_, ?_, trivial⟩, ?_⟩ <;> decide
  have window := limits.window 0 1 0 _ inTime [] _ [] (List.append_nil _).symm 2 4 (by decide)
  exact absurd window (by decide)

end TokenBucket

end OpenLighting
