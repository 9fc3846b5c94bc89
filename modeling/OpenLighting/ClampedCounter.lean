import Mathlib.Data.List.Count
import Mathlib.Tactic.Common

/- A counter that gains one at each tick of a clock, up to a limit, and from which ones are
taken. -/
namespace ClampedCounter

/-- What is left at the last tick that was looked at. -/
structure Counter where
  count : Nat
  tick : Nat
  deriving DecidableEq

/-- Something is done at a tick: one is taken, if there is any, or the count is looked at. -/
inductive Operation where
  | take (tick : Nat)
  | look (tick : Nat)
  deriving DecidableEq

def Operation.tick : Operation → Nat
  | .take tick | .look tick => tick

def Operation.isTake : Operation → Bool
  | .take _ => true
  | .look _ => false

variable (limit : Nat)

def fill (counter : Counter) (tick : Nat) : Counter :=
  ⟨min limit (counter.count + (tick - counter.tick)), tick⟩

def step (counter : Counter) : Operation → Counter
  | .take tick => ⟨(fill limit counter tick).count - 1, tick⟩
  | .look tick => fill limit counter tick

/-- Which of the operations that take get one. -/
def results : Counter → List Operation → List Bool
  | _, [] => []
  | counter, .take tick :: rest =>
    decide (0 < (fill limit counter tick).count) :: results (step limit counter (.take tick)) rest
  | counter, .look tick :: rest => results (step limit counter (.look tick)) rest

/-- No operation is at an earlier tick than the one before it. -/
def InOrder : Nat → List Operation → Prop
  | _, [] => True
  | tick, operation :: rest => tick ≤ operation.tick ∧ InOrder operation.tick rest

section Facts
variable {limit} {counter : Counter} {operations : List Operation}

@[simp] theorem step_tick (operation : Operation) :
    (step limit counter operation).tick = operation.tick := by
  cases operation <;> rfl

theorem fill_fill {early late : Nat} (ordered : counter.tick ≤ early) (later : early ≤ late) :
    fill limit (fill limit counter early) late = fill limit counter late := by
  simp only [fill, Counter.mk.injEq, and_true]
  omega

/-- A look before the next operation changes none of the results. -/
theorem results_fill {tick : Nat} (ordered : counter.tick ≤ tick)
    (inOrder : InOrder tick operations) :
    results limit (fill limit counter tick) operations = results limit counter operations := by
  cases operations with
  | nil => rfl
  | cons operation rest =>
    have same := @fill_fill limit counter tick operation.tick ordered inOrder.1
    cases operation with
    | take other | look other =>
      simp only [Operation.tick] at same
      simp only [results, step, same]

theorem InOrder.mono {tick early : Nat} (inOrder : InOrder tick operations) (le : early ≤ tick) :
    InOrder early operations := by
  cases operations with
  | nil => trivial
  | cons operation rest => exact ⟨Nat.le_trans le inOrder.1, inOrder.2⟩

theorem InOrder.takes {tick : Nat} (inOrder : InOrder tick operations) :
    InOrder tick (operations.filter Operation.isTake) := by
  induction operations generalizing tick with
  | nil => trivial
  | cons operation rest ih =>
    cases operation with
    | take other => exact ⟨inOrder.1, ih inOrder.2⟩
    | look other => exact (ih inOrder.2).mono inOrder.1

/-- The results are those of the operations that take. -/
theorem results_takes (inOrder : InOrder counter.tick operations) :
    results limit counter operations =
      results limit counter (operations.filter Operation.isTake) := by
  induction operations generalizing counter with
  | nil => rfl
  | cons operation rest ih =>
    cases operation with
    | take tick =>
      exact congrArg (List.cons _) (ih (step_tick (.take tick) ▸ inOrder.2))
    | look tick =>
      have tail := @step_tick limit counter (.look tick) ▸ inOrder.2
      have others := ih tail
      exact others.trans (results_fill inOrder.1 inOrder.2.takes)

theorem results_cons_take (tick : Nat) (rest : List Operation) :
    results limit counter (.take tick :: rest) =
      decide (0 < (fill limit counter tick).count) ::
        results limit (step limit counter (.take tick)) rest := rfl

/-- No more are taken than there are now and than there are ticks to come. -/
theorem taken_le {last : Nat} (inOrder : InOrder counter.tick operations)
    (bounded : ∀ operation ∈ operations, operation.tick ≤ last) :
    (results limit counter operations).count true ≤ counter.count + (last - counter.tick) := by
  induction operations generalizing counter with
  | nil => exact Nat.zero_le _
  | cons operation rest ih =>
    have now := bounded operation List.mem_cons_self
    have ordered := inOrder.1
    have others := @ih (step limit counter operation) (step_tick operation ▸ inOrder.2)
      fun other member => bounded other (List.mem_cons_of_mem operation member)
    cases operation with
    | take tick =>
      rw [results_cons_take]
      by_cases left : 0 < (fill limit counter tick).count
      · rw [decide_eq_true left, List.count_cons_self]
        simp only [Operation.tick, step, fill] at now ordered others left ⊢
        omega
      · rw [decide_eq_false left, List.count_cons_of_ne Bool.false_ne_true]
        simp only [Operation.tick, step, fill] at now ordered others ⊢
        omega
    | look tick =>
      simp only [Operation.tick, step, fill] at now ordered others
      change List.count true (results limit (fill limit counter tick) rest) ≤ _
      unfold fill
      omega

/-- Over some ticks, no more are taken than the limit and one for each tick. -/
theorem taken_le_limit {first last : Nat} (inOrder : InOrder counter.tick operations)
    (bounded : ∀ operation ∈ operations, first ≤ operation.tick ∧ operation.tick ≤ last) :
    (results limit counter operations).count true ≤ limit + (last - first) := by
  cases operations with
  | nil => exact Nat.zero_le _
  | cons operation rest =>
    have now := bounded operation List.mem_cons_self
    -- After the first of them, there are no more than the limit.
    have onward : InOrder operation.tick (operation :: rest) := ⟨Nat.le_refl _, inOrder.2⟩
    have filled := @taken_le limit (fill limit counter operation.tick) (operation :: rest) last
      onward fun other member => (bounded other member).2
    rw [results_fill inOrder.1 onward] at filled
    simp only [fill] at filled
    omega

end Facts

end ClampedCounter
