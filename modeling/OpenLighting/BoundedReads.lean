import Mathlib.Data.List.Infix
import Mathlib.Data.UInt

/- Reads of a buffer at offsets that may lie outside of it. Nothing here depends on what the buffer
is for. -/
namespace BoundedReads

open List

universe u v w

/-- Why a run has no result: something was read that is not in the buffer, or the rounds that a
loop was given are used up. -/
inductive Fault where
  | outside
  | unfinished
  deriving DecidableEq

/-- A difference of unsigned numbers of 32 bits. -/
def minus (left right : Nat) : Nat := (left + 2 ^ 32 - right) % 2 ^ 32

theorem minus_eq {left right : Nat} (less : right ≤ left) (counted : left < 2 ^ 32) :
    minus left right = left - right := by
  unfold minus
  omega

variable {α : Type u} (buffer : List α)

/-- `buffer[offset]`. -/
def elementAt (offset : Nat) : Except Fault α :=
  match buffer[offset]? with
  | none => .error .outside
  | some element => .ok element

/-- A copy of some elements from an offset on. A copy of none reads nothing. -/
def copy (offset count : Nat) : Except Fault (List α) :=
  if count = 0 ∨ offset + count ≤ buffer.length then .ok ((buffer.drop offset).take count)
  else .error .outside

/-- The data are what the buffer has from an offset on. -/
def LiesAt (offset : Nat) (data : List α) : Prop := data <+: buffer.drop offset

@[simp] theorem ok_bind {ε : Type v} {β γ : Type w} (value : β) (next : β → Except ε γ) :
    Except.ok value >>= next = next value := rfl

@[simp] theorem error_bind {ε : Type v} {β γ : Type w} (fault : ε) (next : β → Except ε γ) :
    Except.error fault >>= next = .error fault := rfl

/-- A run that is known up to whether it stays inside of the buffer. -/
def orOutside : Option α → Except Fault α
  | none => .error .outside
  | some result => .ok result

section Reads
variable {buffer data : List α} {offset index count : Nat}

theorem elementAt_inside (inside : index < buffer.length) :
    elementAt buffer index = .ok buffer[index] := by
  rw [elementAt, List.getElem?_eq_getElem inside]

theorem elementAt_outside (outside : buffer.length ≤ index) :
    elementAt buffer index = .error .outside := by
  rw [elementAt, List.getElem?_eq_none outside]

theorem elementAt_getD (inside : index < buffer.length) (absent : α) :
    elementAt buffer index = .ok (buffer.getD index absent) := by
  rw [elementAt_inside inside, getD_eq_getElem?_getD, List.getElem?_eq_getElem inside,
    Option.getD_some]

theorem copy_inside (inside : offset + count ≤ buffer.length) :
    copy buffer offset count = .ok ((buffer.drop offset).take count) :=
  if_pos (Or.inr inside)

@[simp] theorem copy_zero (buffer : List α) (offset : Nat) : copy buffer offset 0 = .ok [] := by
  rw [copy, if_pos (Or.inl rfl), take_zero]

theorem copy_drop (buffer : List α) (offset : Nat) :
    copy buffer offset (buffer.length - offset) = .ok (buffer.drop offset) := by
  have whole : (buffer.drop offset).take (buffer.length - offset) = buffer.drop offset :=
    take_of_length_le (by rw [length_drop])
  rw [copy, if_pos (by omega), whole]

theorem copy_outside (some : 0 < count) (outside : buffer.length < offset + count) :
    copy buffer offset count = .error .outside := by
  rw [copy, if_neg (by omega)]

theorem LiesAt.whole (buffer : List α) : LiesAt buffer 0 buffer := prefix_rfl

section

variable (lies : LiesAt buffer offset data)
include lies

theorem LiesAt.bounded (some : data ≠ []) : offset + data.length ≤ buffer.length := by
  have bound := lies.length_le
  have positive := length_pos_of_ne_nil some
  rw [length_drop] at bound
  omega

theorem LiesAt.take (count : Nat) : LiesAt buffer offset (data.take count) :=
  (List.take_prefix count data).trans lies

theorem LiesAt.drop (count : Nat) : LiesAt buffer (offset + count) (data.drop count) := by
  have ⟨rest, whole⟩ := lies
  by_cases enough : count ≤ data.length
  · exact ⟨rest, by rw [← drop_append_of_le_length enough, whole, drop_drop]⟩
  · rw [LiesAt, drop_eq_nil_of_le (by omega)]
    exact nil_prefix

theorem LiesAt.elementAt (inside : index < data.length) :
    elementAt buffer (offset + index) = .ok data[index] := by
  have found := lies.getElem inside
  have bounded := lies.bounded (ne_nil_of_length_pos (by omega))
  rw [elementAt_inside (by omega), found, getElem_drop]

theorem LiesAt.copy (inside : index + count ≤ data.length) :
    copy buffer (offset + index) count = .ok ((data.drop index).take count) := by
  by_cases none : count = 0
  · rw [none, copy_zero, take_zero]
  · have bounded := lies.bounded (ne_nil_of_length_pos (by omega))
    have shifted := lies.drop index
    have same := prefix_iff_eq_take.mp (shifted.take count)
    rw [copy_inside (by omega), same, length_take, length_drop,
      Nat.min_eq_left (by omega)]

end

end Reads

section Succeeds
variable {β : Type v} {γ : Type v}

/-- The run comes to a result. -/
def Succeeds (run : Except Fault β) : Prop := ∃ result, run = .ok result

theorem succeeds_pure (result : β) : Succeeds (pure result) := ⟨result, rfl⟩

theorem not_succeeds_error (fault : Fault) : ¬ Succeeds (.error fault : Except Fault β) := by
  intro ⟨result, wrong⟩
  cases wrong

theorem succeeds_orOutside_iff (result : Option β) :
    Succeeds (orOutside result) ↔ result.isSome := by
  cases result with
  | none => simp only [orOutside, not_succeeds_error, Option.isSome_none, Bool.false_eq_true]
  | some result =>
    simp only [Option.isSome_some, iff_true]
    exact succeeds_pure result

variable {run : Except Fault β} {next : β → Except Fault γ} {fits : Prop} {result : β}

theorem Succeeds.bind (first : Succeeds run) (rest : ∀ result, Succeeds (next result)) :
    Succeeds (run >>= next) := by
  have ⟨result, done⟩ := first
  rw [done, ok_bind]
  exact rest result

theorem succeeds_bind_iff {rest : Prop} (each : ∀ result, Succeeds (next result) ↔ rest) :
    Succeeds (run >>= next) ↔ Succeeds run ∧ rest := by
  cases run with
  | error fault =>
    exact ⟨fun wrong => absurd wrong (not_succeeds_error fault),
      fun both => absurd both.1 (not_succeeds_error fault)⟩
  | ok result =>
    rw [ok_bind, each result]
    exact ⟨fun all => ⟨⟨result, rfl⟩, all⟩, fun both => both.2⟩

theorem succeeds_bind_pure_iff {next : β → γ} :
    Succeeds (run >>= fun result => pure (next result)) ↔ Succeeds run := by
  rw [succeeds_bind_iff fun result => iff_true_intro (succeeds_pure (next result)), and_true]

theorem succeeds_map_iff (run : Except Fault β) (change : β → γ) :
    Succeeds (change <$> run) ↔ Succeeds run := by
  cases run with
  | error fault =>
    exact iff_of_false (not_succeeds_error fault) (not_succeeds_error fault)
  | ok result => exact iff_of_true (succeeds_pure (change result)) (succeeds_pure result)

theorem Succeeds.map (succeeds : Succeeds run) (change : β → γ) :
    Succeeds (change <$> run) := (succeeds_map_iff run change).mpr succeeds

theorem succeeds_ite {condition : Prop} [Decidable condition] {other : Except Fault β}
    (holds : condition → Succeeds run) (fails : ¬ condition → Succeeds other) :
    Succeeds (if condition then run else other) := by
  by_cases held : condition
  · rw [if_pos held]
    exact holds held
  · rw [if_neg held]
    exact fails held

/-- What is read is checked, and there is nothing more to do if it is refused. -/
theorem Succeeds.unless {refused : β → Prop} [DecidablePred refused] {other : γ}
    (first : Succeeds run) (rest : ∀ result, ¬ refused result → Succeeds (next result)) :
    Succeeds (run >>= fun result => if refused result then pure other else next result) :=
  first.bind fun result => succeeds_ite (fun _ => succeeds_pure other) (rest result)

theorem succeeds_elementAt {buffer : List α} {index : Nat} (inside : index < buffer.length) :
    Succeeds (elementAt buffer index) := ⟨_, elementAt_inside inside⟩

theorem succeeds_copy {buffer : List α} {offset count : Nat}
    (inside : offset + count ≤ buffer.length) : Succeeds (copy buffer offset count) :=
  ⟨_, copy_inside inside⟩

/-- A loop comes to a result where each of its rounds does, if it does so from any state. -/
theorem succeeds_foldlM_iff {step : β → α → Except Fault β} {Fits : α → Prop} {list : List α}
    (each : ∀ element ∈ list, ∀ state, Succeeds (step state element) ↔ Fits element) (state : β) :
    Succeeds (list.foldlM step state) ↔ ∀ element ∈ list, Fits element := by
  induction list generalizing state with
  | nil =>
    constructor
    · intro _ element member
      cases member
    · intro _
      exact succeeds_pure state
  | cons element rest ih =>
    have others := ih fun other member => each other (mem_cons_of_mem _ member)
    rw [foldlM_cons, forall_mem_cons, succeeds_bind_iff others,
      each element mem_cons_self state]

theorem succeeds_foldlM {step : β → α → Except Fault β} {list : List α}
    (each : ∀ element ∈ list, ∀ state, Succeeds (step state element)) (state : β) :
    Succeeds (list.foldlM step state) :=
  (@succeeds_foldlM_iff _ _ step (fun _ => True) list (fun element member state =>
    iff_true_intro (each element member state)) state).mpr fun _ _ => trivial

/-- The run comes to this result if a condition holds, and reads outside of the buffer if not. -/
structure Yields (run : Except Fault β) (fits : Prop) (result : β) : Prop where
  inside : fits → run = .ok result
  outside : ¬ fits → run = .error .outside

theorem Yields.succeeds_iff (yields : Yields run fits result) : Succeeds run ↔ fits := by
  by_cases holds : fits
  · exact iff_of_true ⟨result, yields.inside holds⟩ holds
  · rw [yields.outside holds]
    exact iff_of_false (not_succeeds_error .outside) holds

theorem yields_true (done : run = .ok result) :
    Yields run True result :=
  ⟨fun _ => done, fun never => absurd trivial never⟩

theorem Yields.congr {other : Prop} (yields : Yields run fits result) (same : fits ↔ other) :
    Yields run other result :=
  ⟨fun holds => yields.inside (same.mpr holds),
    fun fails => yields.outside fun holds => fails (same.mp holds)⟩

theorem Yields.map (yields : Yields run fits result) (change : β → γ) :
    Yields (change <$> run) fits (change result) := by
  constructor
  · intro holds
    rw [yields.inside holds]
    rfl
  · intro fails
    rw [yields.outside fails]
    rfl

end Succeeds

section Folds
variable {σ : Type v} {ε : Type w}

variable {list : List α}

/-- Steps that fail for some elements only, whatever the state is. -/
theorem foldlM_guarded {step : σ → α → Except ε σ} {next : σ → α → σ} {fault : ε} {Kept : σ → Prop}
    {Fits : α → Prop} [DecidablePred Fits]
    (steps : ∀ state, Kept state → ∀ element ∈ list,
      step state element = if Fits element then .ok (next state element) else .error fault)
    (keeps : ∀ state, Kept state → ∀ element, Kept (next state element)) {state : σ}
    (kept : Kept state) :
    list.foldlM step state =
      if ∀ element ∈ list, Fits element then .ok (list.foldl next state) else .error fault := by
  induction list generalizing state with
  | nil => simp only [foldlM_nil, not_mem_nil, false_implies, implies_true, if_true]; rfl
  | cons element rest ih =>
    have first := steps state kept element mem_cons_self
    have others := @ih (fun state kept other member =>
      steps state kept other (mem_cons_of_mem _ member)) (next state element)
      (keeps state kept element)
    rw [foldlM_cons, first]
    by_cases fits : Fits element
    · rw [if_pos fits, ok_bind, others, foldl_cons]
      simp only [forall_mem_cons, fits, true_and]
    · rw [if_neg fits, if_neg (fun all => fits (all element mem_cons_self)), error_bind]

theorem foldlM_congr {m : Type v → Type w} [Monad m] {step other : σ → α → m σ}
    (same : ∀ element ∈ list, ∀ state, step state element = other state element) (state : σ) :
    list.foldlM step state = list.foldlM other state := by
  induction list generalizing state with
  | nil => rfl
  | cons element rest ih =>
    have others := ih (fun element member => same element (mem_cons_of_mem _ member))
    rw [foldlM_cons, foldlM_cons, same element mem_cons_self]
    exact congrArg _ (funext others)

theorem foldlM_flatMap {β : Type u} {m : Type v → Type w} [Monad m] [LawfulMonad m]
    {step : σ → β → m σ} {expand : α → List β} (list : List α) (state : σ) :
    (list.flatMap expand).foldlM step state =
      list.foldlM (fun state element => (expand element).foldlM step state) state := by
  induction list generalizing state with
  | nil => rfl
  | cons element rest ih =>
    rw [flatMap_cons, foldlM_append, foldlM_cons]
    exact bind_congr fun next => ih next

end Folds

end BoundedReads
