import OpenLighting.RunLengthEncoder
import Mathlib.Data.List.Induction

/- The values at the end of a buffer that are sent as they are. -/
namespace OpenLighting.RunLengthEncoder

open List

/-- Reading from the left: the last value, how often it has been repeated, and how many
values there are behind the last repeat. -/
structure Tail where
  last : Option UInt8
  run : Nat
  count : Nat

/-- What repeats of up to `0x7f` leave of a run. -/
def leftover (run : Nat) : Nat := if run % 0x7f < 3 then run % 0x7f else 0

def Tail.read (tail : Tail) (slot : UInt8) : Tail :=
  if tail.last = some slot then
    ⟨some slot, tail.run + 1,
      if tail.run + 1 < 3 then tail.count + 1 else leftover (tail.run + 1)⟩
  else ⟨some slot, 1, tail.count + 1⟩

def Tail.start (count : Nat) : Tail := ⟨none, 0, count⟩

/-- The number of values behind the last repeat. -/
def tailLength (slots : List UInt8) : Nat := (slots.foldl Tail.read (.start 0)).count

/-- The values behind the last repeat leave 128 or 129 to the last literal. -/
def LongTail (slots : List UInt8) : Prop :=
  0x7f < tailLength slots ∧ (tailLength slots % 0x7f = 1 ∨ tailLength slots % 0x7f = 2)

/-- Three equal values in a row. -/
def TripleAt (slots : List UInt8) (index : Nat) : Prop :=
  ∃ value, slots[index]? = some value ∧ slots[index + 1]? = some value ∧
    slots[index + 2]? = some value

variable {slot : UInt8}

section Reading

variable {tail : Tail}

theorem read_same (same : tail.last = some slot) :
    tail.read slot = ⟨some slot, tail.run + 1,
      if tail.run + 1 < 3 then tail.count + 1 else leftover (tail.run + 1)⟩ := if_pos same

theorem read_other (other : tail.last ≠ some slot) :
    tail.read slot = ⟨some slot, 1, tail.count + 1⟩ := if_neg other

theorem start_last (count : Nat) (slot : UInt8) : (Tail.start count).last ≠ some slot := by
  simp [Tail.start]

/-- Where another value follows, the length of the run does not matter. -/
theorem foldl_boundary {slots : List UInt8} (boundary : ∀ slot ∈ slots.head?, tail.last ≠ some slot) :
    (slots.foldl Tail.read tail).count = (slots.foldl Tail.read (.start tail.count)).count := by
  cases slots with
  | nil => rfl
  | cons slot rest =>
    rw [foldl_cons, foldl_cons, read_other (boundary slot rfl),
      read_other (start_last tail.count slot)]
    rfl

theorem foldl_replicate (slot : UInt8) (run count length : Nat) :
    (List.replicate length slot).foldl Tail.read ⟨some slot, run, count⟩ =
      ⟨some slot, run + length,
        if length = 0 then count
        else if run + length < 3 then count + length else leftover (run + length)⟩ := by
  induction length generalizing run count with
  | zero => rfl
  | succ length ih =>
    rw [replicate_succ, foldl_cons, read_same rfl, ih]
    by_cases last : length = 0
    · subst last
      rfl
    · by_cases short : run + (length + 1) < 3
      · have first : run + 1 < 3 := by omega
        have later : run + 1 + length < 3 := by omega
        simp only [last, first, later, short, if_true, if_false, Nat.succ_ne_zero]
        congr 1 <;> omega
      · have sum : run + 1 + length = run + (length + 1) := by omega
        simp only [last, short, if_false, Nat.succ_ne_zero, sum]

theorem tripleAt_append {front back : List UInt8} {index : Nat} (triple : TripleAt front index) :
    TripleAt (front ++ back) index := by
  have kept : ∀ (position : Nat) (value : UInt8), front[position]? = some value →
      (front ++ back)[position]? = some value := by
    intro position value found
    rw [List.getElem?_append_left (List.getElem?_eq_some_iff.mp found).1]
    exact found
  obtain ⟨value, first, second, third⟩ := triple
  exact ⟨value, kept _ _ first, kept _ _ second, kept _ _ third⟩

theorem tripleAt_end (front : List UInt8) (value : UInt8) :
    TripleAt (front ++ [value, value, value]) front.length := by
  refine ⟨value, ?_, ?_, ?_⟩
  · simp
  · simp
  · simp

/-- Values without three in a row are counted one by one. -/
theorem foldl_plain {slots : List UInt8} (plain : ∀ index, ¬ TripleAt slots index)
    (some : slots ≠ []) :
    ∃ run, (run = 1 ∨ run = 2 ∧ ∃ front value, slots = front ++ [value, value]) ∧
      slots.foldl Tail.read (.start 0) = ⟨slots.getLast?, run, slots.length⟩ := by
  induction slots using List.reverseRecOn with
  | nil => exact absurd rfl some
  | append_singleton front slot ih =>
    rw [foldl_append, foldl_cons, foldl_nil, List.getLast?_concat,
      length_append, length_singleton]
    by_cases first : front = []
    · subst first
      exact ⟨1, Or.inl rfl, read_other (start_last 0 slot)⟩
    · obtain ⟨run, shape, state⟩ := ih (fun index triple => plain index (tripleAt_append triple)) first
      rw [state]
      by_cases same : front.getLast? = .some slot
      · rw [read_same same]
        rcases shape with rfl | ⟨rfl, init, value, rfl⟩
        · refine ⟨2, Or.inr ⟨rfl, front.dropLast, slot, ?_⟩, rfl⟩
          rw [List.getLast?_eq_some_iff] at same
          obtain ⟨init, rfl⟩ := same
          simp
        · -- a third equal value
          have equal : value = slot := by simpa using same
          subst equal
          exact absurd (by simpa using tripleAt_end init value) (plain init.length)
      · rw [read_other same]
        exact ⟨1, Or.inl rfl, rfl⟩

end Reading

section Segments

variable {slots lit : List UInt8}

theorem tailLength_plain (plain : ∀ index, ¬ TripleAt slots index) :
    tailLength slots = slots.length := by
  unfold tailLength
  by_cases first : slots = []
  · subst first
    rfl
  · obtain ⟨run, _, state⟩ := foldl_plain plain first
    rw [state]

theorem exists_run (slot : UInt8) (slots : List UInt8) :
    ∃ length rest, slots = List.replicate length slot ++ rest ∧ rest.head? ≠ some slot := by
  induction slots with
  | nil => exact ⟨0, [], rfl, by simp⟩
  | cons first slots ih =>
    by_cases same : first = slot
    · obtain ⟨length, rest, split, ended⟩ := ih
      exact ⟨length + 1, rest, by rw [same, split, replicate_succ, cons_append], ended⟩
    · exact ⟨0, first :: slots, rfl, by simpa using same⟩

/-- A whole run adds to the count if it is short, and starts it anew if it is not. -/
theorem foldl_run {length count : Nat} {rest : List UInt8} (some : length ≠ 0)
    (ended : rest.head? ≠ .some slot) :
    ((List.replicate length slot ++ rest).foldl Tail.read (.start count)).count =
      (rest.foldl Tail.read
        (.start (if length < 3 then count + length else leftover length))).count := by
  obtain ⟨length, rfl⟩ := Nat.exists_eq_succ_of_ne_zero some
  have first : Tail.read (.start count) slot = ⟨.some slot, 1, count + 1⟩ :=
    read_other (start_last count slot)
  rw [foldl_append, replicate_succ, foldl_cons, first, foldl_replicate, foldl_boundary]
  · congr 3
    by_cases last : length = 0
    · subst last
      rfl
    · by_cases short : length.succ < 3
      · have sum : 1 + length < 3 := by omega
        simp only [last, short, sum, if_true, if_false]
        omega
      · have sum : ¬ 1 + length < 3 := by omega
        simp only [last, short, sum, if_false]
        congr 1
        omega
  · intro other head same
    exact ended (head.trans same.symm)

/-- Repeats do not change what is behind the last repeat. -/
theorem tailLength_repeat {length : Nat} (many : 2 < length) (most : length ≤ 0x7f)
    (ended : slots.head? ≠ some slot ∨ length = 0x7f) :
    tailLength (List.replicate length slot ++ slots) = tailLength slots := by
  obtain ⟨more, rest, rfl, fresh⟩ := exists_run slot slots
  unfold tailLength
  rw [← append_assoc, replicate_append_replicate,
    foldl_run (by omega : length + more ≠ 0) fresh]
  have long : ¬ length + more < 3 := by omega
  by_cases none : more = 0
  · subst none
    have gone : leftover (length + 0) = 0 := by
      unfold leftover
      split
      · omega
      · rfl
    rw [if_neg long, gone]
    rfl
  · have full : length = 0x7f := by
      apply ended.resolve_left
      intro different
      obtain ⟨fewer, rfl⟩ := Nat.exists_eq_succ_of_ne_zero none
      simp [replicate_succ] at different
    have same : leftover (length + more) = if more < 3 then 0 + more else leftover more := by
      unfold leftover
      rw [full, Nat.add_mod_left]
      by_cases short : more < 3
      · rw [if_pos short, if_pos (by omega)]
        omega
      · rw [if_neg short]
    rw [if_neg long, same, foldl_run none fresh]

theorem lit_plain (plain : ∀ index < lit.length, ¬ TripleAt (lit ++ slots) index) (index : Nat) :
    ¬ TripleAt lit index := by
  intro triple
  have below : index < lit.length := (List.getElem?_eq_some_iff.mp triple.choose_spec.1).1
  exact plain index below (tripleAt_append triple)

/-- What is before a repeat does not matter either. -/
theorem tailLength_before_run (some : lit ≠ []) (triple : TripleAt slots 0)
    (plain : ∀ index < lit.length, ¬ TripleAt (lit ++ slots) index) :
    tailLength (lit ++ slots) = tailLength slots := by
  obtain ⟨slot, rest, rfl⟩ : ∃ slot rest, slots = slot :: slot :: slot :: rest := by
    obtain ⟨slot, first, second, third⟩ := triple
    match slots, first, second, third with
    | a :: b :: c :: rest, first, second, third =>
      exact ⟨slot, rest, by
        rw [Option.some.inj first, Option.some.inj second, Option.some.inj third]⟩
  have different : lit.getLast? ≠ .some slot := by
    intro same
    obtain ⟨front, rfl⟩ := List.getLast?_eq_some_iff.mp same
    apply plain front.length (by simp)
    have whole := @tripleAt_append _ (slot :: rest) _ (tripleAt_end front slot)
    simpa using whole
  obtain ⟨run, _, state⟩ := foldl_plain (lit_plain plain) some
  obtain ⟨more, rest, rfl, ended⟩ := exists_run slot rest
  have shape : slot :: slot :: slot :: (List.replicate more slot ++ rest) =
      List.replicate (more + 3) slot ++ rest := rfl
  unfold tailLength
  rw [foldl_append, state, foldl_boundary, shape, foldl_run (by omega) ended,
    foldl_run (by omega) ended, if_neg (by omega), if_neg (by omega)]
  intro other head same
  cases head
  exact different same

/-- The count is carried along, unless a repeat starts it anew. -/
theorem foldl_shift (last : Option UInt8) (run count more : Nat) (slots : List UInt8) :
    (slots.foldl Tail.read ⟨last, run, count + more⟩).count =
        (slots.foldl Tail.read ⟨last, run, count⟩).count ∨
      ((slots.foldl Tail.read ⟨last, run, count + more⟩).count =
          (slots.foldl Tail.read ⟨last, run, count⟩).count + more ∧
        (slots.foldl Tail.read ⟨last, run, count⟩).count = count + slots.length) := by
  induction slots generalizing last run count with
  | nil => exact Or.inr ⟨rfl, rfl⟩
  | cons slot rest ih =>
    rw [foldl_cons, foldl_cons, length_cons]
    have next := fun run => ih (some slot) run (count + 1)
    have sum : count + more + 1 = count + 1 + more := by omega
    have length : count + (rest.length + 1) = count + 1 + rest.length := by omega
    rw [length]
    by_cases same : last = some slot
    · rw [read_same same, read_same same]
      by_cases short : run + 1 < 3
      · simp only [short, if_true, sum]
        exact next _
      · simp only [short, if_false, true_or]
    · rw [read_other same, read_other same]
      simp only [sum]
      exact next _

section Cut
variable {lit rest : List UInt8} {first : UInt8}

section
variable (full : lit.length = 0x7f) (more : 3 ≤ (first :: rest).length)
  (plain : ∀ index < lit.length, ¬ TripleAt (lit ++ first :: rest) index)
include full more plain

/-- A full literal is cut between two equal values. The value behind them is another one, so the
count goes on as if there had been no cut. -/
theorem tailLength_cut_same (same : lit.getLast? = .some first) :
    tailLength (lit ++ first :: rest) = tailLength (first :: rest) ∨
      (tailLength (lit ++ first :: rest) = tailLength (first :: rest) + 0x7f ∧
        3 ≤ tailLength (first :: rest)) := by
  have ended : rest.head? ≠ .some first := by
    intro again
    obtain ⟨front, rfl⟩ := List.getLast?_eq_some_iff.mp same
    obtain ⟨behind, rfl⟩ := List.head?_eq_some_iff.mp again
    apply plain front.length (by simp)
    have whole := @tripleAt_append _ behind _ (tripleAt_end front first)
    simpa using whole
  have further : ∀ index, ¬ TripleAt (lit ++ [first]) index := by
    intro index triple
    obtain ⟨value, _, _, third⟩ := id triple
    have below := (List.getElem?_eq_some_iff.mp third).1
    rw [length_append, length_singleton] at below
    apply plain index (by omega)
    have whole := @tripleAt_append _ rest _ triple
    simpa using whole
  obtain ⟨again, _, after⟩ := foldl_plain further (by simp)
  have boundary : ∀ {run count : Nat}, ∀ slot ∈ rest.head?,
      (Tail.mk (.some first) run count).last ≠ .some slot := by
    intro run count slot head equal
    rw [Option.mem_def] at head
    exact ended (head.trans equal.symm)
  have left : ((lit ++ first :: rest).foldl Tail.read (.start 0)).count =
      (rest.foldl Tail.read (.start (1 + 0x7f))).count := by
    rw [append_cons, foldl_append, after, List.getLast?_concat, foldl_boundary boundary]
    simp only [length_append, full, length_singleton]
  have right : ((first :: rest).foldl Tail.read (.start 0)).count =
      (rest.foldl Tail.read (.start 1)).count := by
    rw [foldl_cons, read_other (start_last 0 first), foldl_boundary boundary]
    rfl
  unfold tailLength
  rw [left, right]
  rcases foldl_shift none 0 1 0x7f rest with equal | ⟨plus, length⟩
  · exact Or.inl equal
  · refine Or.inr ⟨plus, ?_⟩
    unfold Tail.start
    rw [length]
    rw [length_cons] at more
    omega

/-- A full literal is cut between two values that differ. -/
theorem tailLength_cut_other (different : lit.getLast? ≠ .some first) :
    tailLength (lit ++ first :: rest) = tailLength (first :: rest) ∨
      (tailLength (lit ++ first :: rest) = tailLength (first :: rest) + 0x7f ∧
        3 ≤ tailLength (first :: rest)) := by
  have some : lit ≠ [] := by
    rintro rfl
    cases full
  obtain ⟨run, _, state⟩ := foldl_plain (lit_plain plain) some
  have shift := foldl_shift none 0 0 0x7f (first :: rest)
  unfold tailLength
  rw [foldl_append, state, foldl_boundary, full]
  · rcases shift with equal | ⟨plus, length⟩
    · exact Or.inl equal
    · refine Or.inr ⟨plus, ?_⟩
      unfold Tail.start
      rw [length]
      omega
  · intro other head equal
    cases head
    exact different equal

end

end Cut

/-- A literal of full length with at least three values behind it does not change
whether the tail is long. -/
theorem longTail_full (full : lit.length = 0x7f) (more : 3 ≤ slots.length)
    (plain : ∀ index < lit.length, ¬ TripleAt (lit ++ slots) index) :
    LongTail (lit ++ slots) ↔ LongTail slots := by
  cases slots with
  | nil => simp at more
  | cons first rest =>
    have shifted : tailLength (lit ++ first :: rest) = tailLength (first :: rest) ∨
        (tailLength (lit ++ first :: rest) = tailLength (first :: rest) + 0x7f ∧
          3 ≤ tailLength (first :: rest)) := by
      by_cases same : lit.getLast? = .some first
      · exact tailLength_cut_same full more plain same
      · exact tailLength_cut_other full more plain same
    unfold LongTail
    rcases shifted with equal | ⟨plus, long⟩
    · rw [equal]
    · omega

end Segments

end OpenLighting.RunLengthEncoder
