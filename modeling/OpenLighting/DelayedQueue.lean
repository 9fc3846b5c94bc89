import Mathlib.Data.List.Basic
import Mathlib.Data.List.TakeWhile
import Mathlib.Order.Lattice

/- Entries that wait for their time before they can be taken, first in, first out. -/
namespace DelayedQueue

variable {α τ : Type*} [LinearOrder τ]

/-- The entries that can be taken, one after the other. -/
def ready (due : α → τ) (now : τ) (entries : List α) : List α :=
  entries.takeWhile fun entry => due entry ≤ now

/-- The entries that still have to wait. -/
def early (due : α → τ) (now : τ) (entries : List α) : List α :=
  entries.dropWhile fun entry => due entry ≤ now

section Lists
variable {due : α → τ} {now : τ} {entries others : List α} {entry : α}

theorem ready_append_early (due : α → τ) (now : τ) (entries : List α) :
    ready due now entries ++ early due now entries = entries :=
  List.takeWhile_append_dropWhile

theorem due_of_mem_ready (member : entry ∈ ready due now entries) : due entry ≤ now := by
  simpa using List.mem_takeWhile_imp member

theorem ready_append (all : ∀ entry ∈ entries, due entry ≤ now) (others : List α) :
    ready due now (entries ++ others) = entries ++ ready due now others :=
  List.takeWhile_append_of_pos fun entry member => decide_eq_true (all entry member)

theorem ready_cons (come : due entry ≤ now) (rest : List α) :
    ready due now (entry :: rest) = entry :: ready due now rest :=
  List.takeWhile_cons_of_pos (decide_eq_true come)

theorem ready_cons_early (waits : now < due entry) (rest : List α) :
    ready due now (entry :: rest) = [] :=
  List.takeWhile_cons_of_neg (by simpa using waits)

/-- What has to wait does not change what is ready before it. -/
theorem ready_append_singleton (waits : now < due entry) :
    ready due now (entries ++ [entry]) = ready due now entries := by
  induction entries with
  | nil => exact ready_cons_early waits []
  | cons first rest ih =>
    by_cases come : due first ≤ now
    · rw [List.cons_append, ready_cons come, ready_cons come, ih]
    · rw [List.cons_append, ready_cons_early (lt_of_not_ge come),
        ready_cons_early (lt_of_not_ge come)]

/-- Where the times do not fall, all that have come are at the front. -/
theorem filter_eq_ready (sorted : entries.Pairwise fun entry other => due entry ≤ due other) :
    (entries.filter fun entry => due entry ≤ now) = ready due now entries ∧
      (entries.filter fun entry => ¬ due entry ≤ now) = early due now entries := by
  induction entries with
  | nil => exact ⟨rfl, rfl⟩
  | cons first rest ih =>
    have later := List.pairwise_cons.mp sorted
    unfold ready early at ih ⊢
    by_cases come : due first ≤ now
    · simp only [List.filter_cons, List.takeWhile_cons, List.dropWhile_cons, come, decide_true,
        not_true_eq_false, decide_false, if_true, Bool.false_eq_true, if_false, ih later.2,
        and_self]
    · have waits : ∀ other ∈ rest, ¬ due other ≤ now := by
        intro other member come'
        exact come (le_trans (later.1 other member) come')
      have none : (rest.filter fun entry => due entry ≤ now) = [] :=
        List.filter_eq_nil_iff.mpr fun other member => by simpa using waits other member
      have all : (rest.filter fun entry => ¬ due entry ≤ now) = rest :=
        List.filter_eq_self.mpr fun other member => by simpa using waits other member
      simp only [List.filter_cons, List.takeWhile_cons, List.dropWhile_cons, come, decide_false,
        not_false_eq_true, decide_true, if_true, Bool.false_eq_true, if_false, none, all,
        and_self]

end Lists

end DelayedQueue
