import Mathlib.Init

/- Loops that go on until a round leaves them. Nothing here depends on what a round does. -/
namespace WhileLoop

universe u v

/-- What a round comes to: the state in which the next one starts, or what the loop returns. -/
inductive Round (σ : Type u) (τ : Type v) where
  | again (state : σ)
  | leave (result : τ)

variable {σ : Type u} {τ : Type v} {round : σ → Round σ τ}

/-- The loop comes to its end and returns this result. -/
inductive Returns (round : σ → Round σ τ) : σ → τ → Prop
  | leave {state : σ} {result : τ} : round state = .leave result → Returns round state result
  | again {state next : σ} {result : τ} : round state = .again next →
      Returns round next result → Returns round state result

theorem Returns.unique {state : σ} {one other : τ} (first : Returns round state one)
    (second : Returns round state other) : one = other := by
  induction first with
  | leave left =>
    cases second with
    | leave left' =>
      rw [left] at left'
      cases left'
      rfl
    | again goes _ =>
      rw [left] at goes
      cases goes
  | again goes _ ih =>
    cases second with
    | leave left =>
      rw [goes] at left
      cases left
    | again goes' rest =>
      rw [goes] at goes'
      cases goes'
      exact ih rest

theorem Returns.onward {state next : σ} {result : τ} (returns : Returns round state result)
    (goes : round state = .again next) : Returns round next result := by
  cases returns with
  | leave left =>
    rw [goes] at left
    cases left
  | again goes' rest =>
    rw [goes] at goes'
    cases goes'
    exact rest

/-- When every round keeps an invariant and makes a measure fall, the loop comes to its end,
and its result is what a round that leaves can return. -/
theorem exists_returns {Inv : σ → Prop} {Post : τ → Prop} (measure : σ → Nat)
    (again : ∀ state next, Inv state → round state = .again next →
      Inv next ∧ measure next < measure state)
    (leave : ∀ state result, Inv state → round state = .leave result → Post result)
    (state : σ) (initial : Inv state) : ∃ result, Returns round state result ∧ Post result := by
  induction bound : measure state using Nat.strongRecOn generalizing state with
  | ind count ih =>
    cases goes : round state with
    | leave result => exact ⟨result, .leave goes, leave state result initial goes⟩
    | again next =>
      have ⟨kept, falls⟩ := again state next initial goes
      have ⟨result, returns, reached⟩ := ih (measure next) (by omega) next kept rfl
      exact ⟨result, .again goes returns, reached⟩

/-- A round that makes a measure fall and leaves alone what the loop should return, as long as
the invariant holds, gives a loop that returns it. -/
theorem returns_of_rounds {Inv : σ → Prop} {spec : σ → τ} (measure : σ → Nat)
    (again : ∀ state next, Inv state → round state = .again next →
      Inv next ∧ spec next = spec state ∧ measure next < measure state)
    (leave : ∀ state result, Inv state → round state = .leave result → spec state = result)
    (state : σ) (initial : Inv state) : Returns round state (spec state) := by
  have onward : ∀ current next, Inv current ∧ spec current = spec state →
      round current = .again next →
        (Inv next ∧ spec next = spec state) ∧ measure next < measure current := by
    intro current next holds goes
    have ⟨kept, same, falls⟩ := again current next holds.1 goes
    exact ⟨⟨kept, same.trans holds.2⟩, falls⟩
  have ending : ∀ current result, Inv current ∧ spec current = spec state →
      round current = .leave result → result = spec state := by
    intro current result holds goes
    exact (leave current result holds.1 goes).symm.trans holds.2
  have ⟨result, returns, same⟩ := exists_returns measure onward ending state ⟨initial, rfl⟩
  exact same ▸ returns

/-- The loop has gone on for so many rounds. -/
inductive After (round : σ → Round σ τ) : Nat → σ → σ → Prop
  | start (state : σ) : After round 0 state state
  | again {count : Nat} {first state next : σ} : After round count first state →
      round state = .again next → After round (count + 1) first next

theorem After.returns {count : Nat} {first state : σ} {result : τ}
    (rounds : After round count first state) (returns : Returns round state result) :
    Returns round first result := by
  induction rounds with
  | start state => exact returns
  | again _ goes ih => exact ih (.again goes returns)

/-- The loop, left after so many rounds. -/
def runFor (round : σ → Round σ τ) : Nat → σ → Option τ
  | 0, _ => none
  | fuel + 1, state =>
    match round state with
    | .leave result => some result
    | .again next => runFor round fuel next

theorem runFor_leave {state : σ} {result : τ} (left : round state = .leave result) (fuel : Nat) :
    runFor round (fuel + 1) state = some result := by
  rw [runFor, left]

theorem runFor_again {state next : σ} (goes : round state = .again next) (fuel : Nat) :
    runFor round (fuel + 1) state = runFor round fuel next := by
  rw [runFor, goes]

/-- A search between two positions: each round leaves, or moves one of them to between the two. -/
theorem runFor_bisects {round : Nat × Nat → Round (Nat × Nat) τ} {Left Right : Nat → Prop}
    {Post : τ → Prop}
    (rounds : ∀ lower upper, lower < upper → Left lower → Right upper →
      (∃ result, round (lower, upper) = .leave result ∧ Post result) ∨
        ∃ mid, lower < mid ∧ mid < upper ∧
          (Right mid ∧ round (lower, upper) = .again (lower, mid) ∨
            Left mid ∧ round (lower, upper) = .again (mid, upper)))
    {lower upper fuel : Nat} (less : lower < upper) (left : Left lower) (right : Right upper)
    (enough : upper - lower < fuel) :
    ∃ result, runFor round fuel (lower, upper) = some result ∧ Post result := by
  induction fuel generalizing lower upper with
  | zero => omega
  | succ fuel ih =>
    rcases rounds lower upper less left right with
      ⟨result, leaves, post⟩ | ⟨mid, above, below, ⟨right', goes⟩ | ⟨left', goes⟩⟩
    · exact ⟨result, runFor_leave leaves fuel, post⟩
    · rw [runFor_again goes]
      exact ih above left right' (by omega)
    · rw [runFor_again goes]
      exact ih below left' right (by omega)

end WhileLoop
