import Mathlib.Data.Set.Finite.Basic
import Mathlib.Order.OrderIsoNat

/- Rewriting of words at their front, as a stack is rewritten at its top. Nothing here depends on
what the words are. -/
namespace PrefixRewriting

open Relation

universe u

variable {α : Type u} (rules : Set (List α × List α))

/-- A rule replaces what a word begins with. -/
def Step (word next : List α) : Prop :=
  ∃ rule ∈ rules, ∃ rest, word = rule.1 ++ rest ∧ next = rule.2 ++ rest

/-- No derivation from a word goes on for ever. -/
def Ends (word : List α) : Prop :=
  Acc (fun next word => Step rules word next) word

/-- A word leads back to itself, with something behind it. -/
def LeadsBack (word : List α) : Prop :=
  ∃ rest, TransGen (Step rules) word (word ++ rest)

variable {rules : Set (List α × List α)} {word next : List α}

/-- What is behind stays there. -/
theorem Step.append (step : Step rules word next) (behind : List α) :
    Step rules (word ++ behind) (next ++ behind) := by
  obtain ⟨rule, member, rest, rfl, rfl⟩ := step
  exact ⟨rule, member, rest ++ behind, List.append_assoc _ _ _, List.append_assoc _ _ _⟩

/-- A derivation that goes on for ever, with the rules that are used and what is behind them. -/
structure Derivation (rules : Set (List α × List α)) where
  rule : Nat → List α × List α
  rest : Nat → List α
  known : ∀ index, rule index ∈ rules
  onward : ∀ index, (rule index).2 ++ rest index = (rule (index + 1)).1 ++ rest (index + 1)

variable (derivation : Derivation rules)

namespace Derivation

def text (index : Nat) : List α :=
  (derivation.rule index).1 ++ derivation.rest index

/-- From here on nothing of what is behind is touched. -/
def Lowest (index : Nat) : Prop :=
  ∀ later, index ≤ later → (derivation.rest index).length ≤ (derivation.rest later).length

variable {derivation : Derivation rules} {index : Nat}

theorem steps (index : Nat) :
    ReflTransGen (Step rules) (derivation.text 0) (derivation.text index) := by
  induction index with
  | zero => exact .refl
  | succ index ih =>
    exact ih.tail ⟨derivation.rule index, derivation.known index, derivation.rest index, rfl,
      (derivation.onward index).symm⟩

theorem exists_lowest (start : Nat) : ∃ index, start < index ∧ derivation.Lowest index := by
  let length := fun index => (derivation.rest index).length
  let after : Set Nat := {index | start < index}
  have some : after.Nonempty := ⟨start + 1, Nat.lt_succ_self start⟩
  refine ⟨Function.argminOn length after some, Function.argminOn_mem length after some, ?_⟩
  intro later behind
  apply Function.argminOn_le length after
  exact Nat.lt_of_lt_of_le (Function.argminOn_mem length after some) behind

theorem step_above {above bottom : List α} (split : derivation.rest index = above ++ bottom)
    (high : bottom.length ≤ (derivation.rest (index + 1)).length) :
    ∃ top, derivation.rest (index + 1) = top ++ bottom ∧
      Step rules ((derivation.rule index).1 ++ above) ((derivation.rule (index + 1)).1 ++ top) := by
  have onward := derivation.onward index
  rw [split, ← List.append_assoc] at onward
  have lower : bottom <:+ (derivation.rule (index + 1)).1 ++ derivation.rest (index + 1) :=
    ⟨_, onward⟩
  obtain ⟨top, same⟩ := List.suffix_of_suffix_length_le lower (List.suffix_append _ _) high
  rw [← same, ← List.append_assoc] at onward
  exact ⟨top, same.symm, derivation.rule index, derivation.known index, above, rfl,
    (List.append_cancel_right onward).symm⟩

/-- What is derived from the rule alone. -/
theorem steps_above (lowest : derivation.Lowest index) (count : Nat) :
    ∃ above, derivation.rest (index + count) = above ++ derivation.rest index ∧
      ReflTransGen (Step rules) (derivation.rule index).1
        ((derivation.rule (index + count)).1 ++ above) := by
  induction count with
  | zero =>
    refine ⟨[], rfl, ?_⟩
    rw [List.append_nil]
    exact .refl
  | succ count ih =>
    obtain ⟨above, split, steps⟩ := ih
    obtain ⟨top, same, step⟩ := step_above split (lowest (index + count + 1) (by omega))
    exact ⟨top, same, steps.tail step⟩

/-- A rule that is used twice where nothing behind it is touched leads back to itself. -/
theorem leadsBack {later : Nat} (lowest : derivation.Lowest index) (behind : index < later)
    (same : derivation.rule later = derivation.rule index) :
    LeadsBack rules (derivation.rule index).1 := by
  obtain ⟨count, rfl⟩ : ∃ count, later = index + count + 1 := ⟨later - index - 1, by omega⟩
  obtain ⟨above, split, steps⟩ := steps_above lowest count
  obtain ⟨top, _, step⟩ := step_above split (lowest (index + count + 1) (by omega))
  rw [same] at step
  exact ⟨top, .tail' steps step⟩

/-- With finitely many rules, one of them comes again. -/
theorem exists_leadsBack (finite : rules.Finite) (derivation : Derivation rules) :
    ∃ index, LeadsBack rules (derivation.rule index).1 := by
  have endless : {index | derivation.Lowest index}.Infinite := by
    apply Set.infinite_of_forall_exists_gt
    intro start
    obtain ⟨index, after, lowest⟩ := derivation.exists_lowest start
    exact ⟨index, lowest, after⟩
  have known : Set.MapsTo derivation.rule {index | derivation.Lowest index} rules :=
    fun index _ => derivation.known index
  obtain ⟨first, lowest, second, lowest', apart, same⟩ :=
    endless.exists_ne_map_eq_of_mapsTo known finite
  rcases Nat.lt_or_gt_of_ne apart with before | before
  · exact ⟨first, leadsBack lowest before same.symm⟩
  · exact ⟨second, leadsBack lowest' before same⟩

end Derivation

theorem exists_derivation (endless : ¬ Ends rules word) :
    ∃ derivation : Derivation rules, derivation.text 0 = word := by
  obtain ⟨words, start, steps⟩ := not_acc_iff_exists_descending_chain.mp endless
  choose rule known rest before after using steps
  refine ⟨⟨rule, rest, known, fun index => ?_⟩, ?_⟩
  · rw [← after index, before (index + 1)]
  · exact (before 0).symm.trans start

/-- With finitely many rules, a word from which a derivation goes on for ever comes to one that a
rule begins which leads back to itself. -/
theorem exists_leadsBack_of_not_ends (finite : rules.Finite) (endless : ¬ Ends rules word) :
    ∃ rule ∈ rules, ∃ rest, ReflTransGen (Step rules) word (rule.1 ++ rest) ∧
      LeadsBack rules rule.1 := by
  obtain ⟨derivation, rfl⟩ := exists_derivation endless
  obtain ⟨index, back⟩ := derivation.exists_leadsBack finite
  exact ⟨derivation.rule index, derivation.known index, derivation.rest index,
    derivation.steps index, back⟩

end PrefixRewriting
