import OpenLighting.EnttecPort

/- What the trace of a port tells of its operations. -/
namespace OpenLighting.Enttec

open TransitionSystem List

def firstFrame : List Entry → Option (List UInt8)
  | [] => none
  | .frame data :: _ => some data
  | _ :: entries => firstFrame entries

/-- What has to be true where an entry stands. A callback is run for an operation that was started
and for which it has not been run; that of a discovery branch gets the first good frame since
then. When the port is stopped every callback has been run. -/
def Backs (past : List Entry) : Entry → Prop
  | .ran id result => (∃ kind, .started id kind ∈ past) ∧ (∀ other, .ran id other ∉ past) ∧
      ∀ response, result = .branched response → ∀ before kind after,
        past = before ++ .started id kind :: after → response = firstFrame after
  | .stopped => ∀ id kind, .started id kind ∈ past → ∃ result, .ran id result ∈ past
  | _ => True

/-- What should be true of the trace: every entry is in its place, and an operation has been
completed by the first timeout message behind its start. -/
structure Complete (trace : List Entry) : Prop where
  justified : Justified Backs trace
  answered : ∀ before id kind after, trace = before ++ .started id kind :: after →
    .timeout ∈ after → ∃ result, .ran id result ∈ trace

/-- The trace of a port that waits for the operation, or for none, and has this answer for a
discovery branch. A timeout message that is being handled is due. -/
structure Ledger (due : Bool) (trace : List Entry) (issued : Nat) (current : Option (Kind × Nat))
    (response : Option (List UInt8)) : Prop where
  justified : Justified Backs trace
  known : ∀ id kind, .started id kind ∈ trace → id < issued
  opened : ∀ before id kind after, trace = before ++ .started id kind :: after →
    (∃ result, .ran id result ∈ trace) ∨
      (current = some (kind, id) ∧ (due = false → .timeout ∉ after) ∧
        (kind = .branch → response = firstFrame after))
  held : ∀ kind id, current = some (kind, id) →
    .started id kind ∈ trace ∧ ∀ result, .ran id result ∉ trace

section Traces
variable {trace : List Entry}

theorem firstFrame_append (front back : List Entry) :
    firstFrame (front ++ back) = (firstFrame front).or (firstFrame back) := by
  induction front with
  | nil => rfl
  | cons entry front ih =>
    cases entry with
    | frame data => rfl
    | started id kind | timeout | ran id result | stopped => exact ih

/-- Where an operation was started in a trace with one more entry. -/
theorem started_concat {entry : Entry} {before after : List Entry} {id : Nat} {kind : Kind}
    (split : trace ++ [entry] = before ++ .started id kind :: after) :
    (entry = .started id kind ∧ after = []) ∨
      ∃ rest, after = rest ++ [entry] ∧ trace = before ++ .started id kind :: rest := by
  rcases after.eq_nil_or_concat' with empty | ⟨rest, last, equal⟩
  · subst empty
    have ⟨_, same⟩ := append_inj' split rfl
    exact Or.inl ⟨(singleton_inj.mp same), rfl⟩
  · subst equal
    rw [← cons_append, ← append_assoc] at split
    have ⟨front, same⟩ := append_inj' split rfl
    rw [← singleton_inj.mp same]
    exact Or.inr ⟨rest, rfl, front⟩

end Traces

section Ledgers
variable {due : Bool} {trace : List Entry} {issued : Nat} {current : Option (Kind × Nat)}
  {response : Option (List UInt8)} {kind : Kind} {id : Nat}

theorem ledger_nil : Ledger false [] 0 none none where
  justified := justified_nil Backs
  known _ _ member := by cases member
  opened before _ _ after split := by cases before <;> cases split
  held _ _ same := by cases same

/-- A port that waits for nothing has completed everything. -/
theorem Ledger.settled (ledger : Ledger due trace issued none response) (id : Nat) (kind : Kind)
    (member : .started id kind ∈ trace) : ∃ result, .ran id result ∈ trace := by
  have ⟨before, after, split⟩ := append_of_mem member
  rcases ledger.opened before id kind after split with done | ⟨waits, _⟩
  · exact done
  · cases waits

theorem Ledger.forget (ledger : Ledger due trace issued none response) (due' : Bool)
    (response' : Option (List UInt8)) : Ledger due' trace issued none response' where
  justified := ledger.justified
  known := ledger.known
  opened before id kind after split := by
    rcases ledger.opened before id kind after split with done | ⟨waits, _⟩
    · exact Or.inl done
    · cases waits
  held _ _ same := by cases same

/-- The answer is only looked at for a discovery branch. -/
theorem Ledger.ignore (ledger : Ledger due trace issued (some (kind, id)) response)
    (other : kind ≠ .branch) (response' : Option (List UInt8)) :
    Ledger due trace issued (some (kind, id)) response' where
  justified := ledger.justified
  known := ledger.known
  opened before id' kind' after split := by
    rcases ledger.opened before id' kind' after split with done | ⟨waits, early, _⟩
    · exact Or.inl done
    · cases waits
      exact Or.inr ⟨rfl, early, fun same => absurd same other⟩
  held := ledger.held

theorem Ledger.start (ledger : Ledger due trace issued none response) (kind : Kind) :
    Ledger false (trace ++ [.started issued kind]) (issued + 1) (some (kind, issued)) none where
  justified := ledger.justified.append trivial
  known id kind' member := by
    rcases mem_append.mp member with old | new
    · exact Nat.lt_succ_of_lt (ledger.known id kind' old)
    · cases mem_singleton.mp new
      omega
  opened before id kind' after split := by
    rcases started_concat split with ⟨same, empty⟩ | ⟨rest, _, old⟩
    · cases same
      subst empty
      exact Or.inr ⟨rfl, fun _ => not_mem_nil, fun _ => rfl⟩
    · have member : .started id kind' ∈ trace := by rw [old]; simp
      have ⟨result, done⟩ := ledger.settled id kind' member
      exact Or.inl ⟨result, mem_append_left _ done⟩
  held kind' id same := by
    cases same
    refine ⟨mem_append_right _ (mem_singleton_self _), ?_⟩
    intro result member
    rcases mem_append.mp member with old | new
    · have ⟨past, inside, backed⟩ := ledger.justified.of_mem old
      have ⟨kind'', started⟩ := backed.1
      exact Nat.lt_irrefl _ (ledger.known issued kind'' (inside started))
    · cases mem_singleton.mp new

theorem Ledger.arrive (ledger : Ledger due trace issued current response) {entry : Entry}
    (message : (∃ data, entry = .frame data) ∨ entry = .timeout) :
    Ledger (due || entry == .timeout) (trace ++ [entry]) issued current
      (response.or (firstFrame [entry])) where
  justified := by
    apply ledger.justified.append
    rcases message with ⟨data, same⟩ | same
    all_goals
      rw [same]
      trivial
  known id kind member := by
    rcases mem_append.mp member with old | new
    · exact ledger.known id kind old
    · rcases message with ⟨data, same⟩ | same
      all_goals
        rw [same] at new
        cases mem_singleton.mp new
  opened before id kind after split := by
    rcases started_concat split with ⟨same, _⟩ | ⟨rest, equal, old⟩
    · rcases message with ⟨data, other⟩ | other
      all_goals
        rw [other] at same
        cases same
    · rcases ledger.opened before id kind rest old with ⟨result, done⟩ | ⟨waits, early, first⟩
      · exact Or.inl ⟨result, mem_append_left _ done⟩
      · refine Or.inr ⟨waits, ?_, ?_⟩
        · intro prompt
          rw [Bool.or_eq_false_iff] at prompt
          rw [equal, mem_append, not_or, mem_singleton]
          exact ⟨early prompt.1, fun same => by rw [← same] at prompt; cases prompt.2⟩
        · intro branch
          rw [equal, firstFrame_append, first branch]
  held kind id same := by
    have ⟨started, waits⟩ := ledger.held kind id same
    refine ⟨mem_append_left _ started, ?_⟩
    intro result member
    rcases mem_append.mp member with old | new
    · exact waits result old
    · rcases message with ⟨data, same⟩ | same
      all_goals
        rw [same] at new
        cases mem_singleton.mp new

/-- The callback is run for which the port waits. -/
theorem Ledger.run (ledger : Ledger due trace issued (some (kind, id)) response) {result : Result}
    (told : ∀ answer, result = .branched answer → kind = .branch ∧ answer = response)
    (due' : Bool) (response' : Option (List UInt8)) :
    Ledger due' (trace ++ [.ran id result]) issued none response' where
  justified := by
    have ⟨started, waits⟩ := ledger.held kind id rfl
    refine ledger.justified.append ⟨⟨kind, started⟩, waits, ?_⟩
    intro answer same before kind' after split
    have ⟨branch, equal⟩ := told answer same
    rcases ledger.opened before id kind' after split with ⟨other, done⟩ | ⟨current, _, first⟩
    · exact absurd done (waits other)
    · cases current
      rw [equal, first branch]
  known id' kind' member := by
    rcases mem_append.mp member with old | new
    · exact ledger.known id' kind' old
    · cases mem_singleton.mp new
  opened before id' kind' after split := by
    left
    rcases started_concat split with ⟨same, _⟩ | ⟨rest, _, old⟩
    · cases same
    · rcases ledger.opened before id' kind' rest old with ⟨other, done⟩ | ⟨current, _⟩
      · exact ⟨other, mem_append_left _ done⟩
      · cases current
        exact ⟨result, mem_append_right _ (mem_singleton_self _)⟩
  held _ _ same := by cases same

theorem Ledger.stop (ledger : Ledger due trace issued none response) :
    Ledger due (trace ++ [.stopped]) issued none response where
  justified := ledger.justified.append ledger.settled
  known id kind member := by
    rcases mem_append.mp member with old | new
    · exact ledger.known id kind old
    · cases mem_singleton.mp new
  opened before id kind after split := by
    rcases started_concat split with ⟨same, _⟩ | ⟨rest, _, old⟩
    · cases same
    · have member : .started id kind ∈ trace := by rw [old]; simp
      have ⟨result, done⟩ := ledger.settled id kind member
      exact Or.inl ⟨result, mem_append_left _ done⟩
  held _ _ same := by cases same

theorem Ledger.complete (ledger : Ledger false trace issued current response) :
    Complete trace where
  justified := ledger.justified
  answered before id kind after split late := by
    rcases ledger.opened before id kind after split with done | ⟨_, early, _⟩
    · exact done
    · exact absurd late (early rfl)

theorem Ledger.stop_waiting (ledger : Ledger due trace issued (some (kind, id)) response) :
    ¬ Complete (trace ++ [.stopped]) := by
  intro complete
  have ⟨started, waits⟩ := ledger.held kind id rfl
  have ⟨result, done⟩ := complete.justified trace .stopped [] rfl id kind started
  exact waits result done

end Ledgers

end OpenLighting.Enttec
