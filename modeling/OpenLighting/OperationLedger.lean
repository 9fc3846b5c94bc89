import OpenLighting.TransitionSystem

/- Operations that are started one at a time and end with a result. -/
namespace OperationLedger

open TransitionSystem

variable {κ ρ : Type*}

/-- An operation was started, or came to its result. -/
inductive Entry (κ ρ : Type*) where
  | started (id : Nat) (kind : κ)
  | ran (id : Nat) (result : ρ)
  deriving DecidableEq

/-- What has to be true where an entry stands: an operation is started once, and comes to a result
once, after that. -/
def Backs (past : List (Entry κ ρ)) : Entry κ ρ → Prop
  | .started id _ => ∀ kind, .started id kind ∉ past
  | .ran id _ => (∃ kind, .started id kind ∈ past) ∧ ∀ result, .ran id result ∉ past

/-- The trace where so many operations have been started, and this one has not come to its
result. -/
structure Ledger (trace : List (Entry κ ρ)) (issued : Nat) (current : Option (κ × Nat)) :
    Prop where
  justified : Justified Backs trace
  known : ∀ id kind, .started id kind ∈ trace → id < issued
  opened : ∀ id kind, .started id kind ∈ trace →
    (∃ result, .ran id result ∈ trace) ∨ current = some (kind, id)
  held : ∀ kind id, current = some (kind, id) →
    .started id kind ∈ trace ∧ ∀ result, .ran id result ∉ trace

section Ledgers
variable {trace : List (Entry κ ρ)} {issued : Nat} {kind : κ} {id : Nat}

theorem ledger_nil : Ledger ([] : List (Entry κ ρ)) 0 none where
  justified := justified_nil Backs
  known _ _ member := by cases member
  opened _ _ member := by cases member
  held _ _ same := by cases same

theorem Ledger.start (ledger : Ledger trace issued none) (kind : κ) :
    Ledger (trace ++ [.started issued kind]) (issued + 1) (some (kind, issued)) where
  justified := by
    apply ledger.justified.append
    intro other member
    exact Nat.lt_irrefl _ (ledger.known issued other member)
  known id other member := by
    rcases List.mem_append.mp member with old | new
    · exact Nat.lt_succ_of_lt (ledger.known id other old)
    · cases List.mem_singleton.mp new
      omega
  opened id other member := by
    rcases List.mem_append.mp member with old | new
    · rcases ledger.opened id other old with ⟨result, done⟩ | waits
      · exact Or.inl ⟨result, List.mem_append_left _ done⟩
      · cases waits
    · cases List.mem_singleton.mp new
      exact Or.inr rfl
  held other id same := by
    cases same
    refine ⟨List.mem_append_right _ (List.mem_singleton_self _), ?_⟩
    intro result member
    rcases List.mem_append.mp member with old | new
    · have ⟨past, inside, backed⟩ := ledger.justified.of_mem old
      have ⟨first, started⟩ := backed.1
      exact Nat.lt_irrefl _ (ledger.known issued first (inside started))
    · cases List.mem_singleton.mp new

theorem Ledger.run (ledger : Ledger trace issued (some (kind, id))) (result : ρ) :
    Ledger (trace ++ [.ran id result]) issued none where
  justified := by
    have ⟨started, waits⟩ := ledger.held kind id rfl
    exact ledger.justified.append ⟨⟨kind, started⟩, waits⟩
  known other first member := by
    rcases List.mem_append.mp member with old | new
    · exact ledger.known other first old
    · cases List.mem_singleton.mp new
  opened other first member := by
    left
    rcases List.mem_append.mp member with old | new
    · rcases ledger.opened other first old with ⟨earlier, done⟩ | waits
      · exact ⟨earlier, List.mem_append_left _ done⟩
      · cases waits
        exact ⟨result, List.mem_append_right _ (List.mem_singleton_self _)⟩
    · cases List.mem_singleton.mp new
  held _ _ same := by cases same

end Ledgers

end OperationLedger
