import Mathlib.Data.List.Basic
import Mathlib.Logic.Function.Iterate
import Mathlib.Order.WellFounded

/- Runs of a deterministic machine: driven by a list of inputs, or left to
itself and iterated. Nothing here depends on what the machine does. -/
namespace TransitionSystem

variable {σ ι τ : Type*}

/-- The state after consuming the inputs from left to right. -/
def run (step : σ → ι → σ) (start : σ) (inputs : List ι) : σ := inputs.foldl step start

@[simp] theorem run_nil (step : σ → ι → σ) (start : σ) : run step start [] = start := rfl

@[simp] theorem run_cons (step : σ → ι → σ) (start : σ) (input : ι) (rest : List ι) :
    run step start (input :: rest) = run step (step start input) rest := rfl

theorem run_append (step : σ → ι → σ) (start : σ) (first second : List ι) :
    run step start (first ++ second) = run step (run step start first) second :=
  List.foldl_append

/-- Every input is acceptable in the state that consumes it. -/
def Permitted (step : σ → ι → σ) (ok : σ → ι → Prop) : σ → List ι → Prop
  | _, [] => True
  | start, input :: rest => ok start input ∧ Permitted step ok (step start input) rest

instance permittedDecidable (step : σ → ι → σ) (ok : σ → ι → Prop)
    [∀ state input, Decidable (ok state input)] :
    ∀ start inputs, Decidable (Permitted step ok start inputs)
  | _, [] => .isTrue trivial
  | start, input :: rest =>
    have := permittedDecidable step ok (step start input) rest
    inferInstanceAs (Decidable (_ ∧ _))

variable {step : σ → ι → σ} {ok : σ → ι → Prop} {start : σ} {inputs : List ι}

theorem Permitted.take (permitted : Permitted step ok start inputs) (count : Nat) :
    Permitted step ok start (inputs.take count) := by
  induction inputs generalizing start count with
  | nil => simp [Permitted]
  | cons input rest ih =>
    cases count with
    | zero => trivial
    | succ count => exact ⟨permitted.1, ih permitted.2 count⟩

/-- What holds of all inputs can be added. -/
theorem Permitted.and_forall {each : ι → Prop} (permitted : Permitted step ok start inputs)
    (all : ∀ input ∈ inputs, each input) :
    Permitted step (fun state input => ok state input ∧ each input) start inputs := by
  induction inputs generalizing start with
  | nil => trivial
  | cons input rest ih =>
    exact ⟨⟨permitted.1, all input List.mem_cons_self⟩,
      ih permitted.2 (fun other member => all other (List.mem_cons_of_mem input member))⟩

theorem Permitted.and {other : σ → ι → Prop} (first : Permitted step ok start inputs)
    (second : Permitted step other start inputs) :
    Permitted step (fun state input => ok state input ∧ other state input) start inputs := by
  induction inputs generalizing start with
  | nil => trivial
  | cons input rest ih => exact ⟨⟨first.1, second.1⟩, ih first.2 second.2⟩

theorem permitted_append_iff {first second : List ι} :
    Permitted step ok start (first ++ second) ↔
      Permitted step ok start first ∧ Permitted step ok (run step start first) second := by
  induction first generalizing start with
  | nil => simp [Permitted]
  | cons input first ih => rw [List.cons_append, Permitted, Permitted, run_cons, ih, and_assoc]

theorem permitted_true (step : σ → ι → σ) (start : σ) (inputs : List ι) :
    Permitted step (fun _ _ => True) start inputs := by
  induction inputs generalizing start with
  | nil => trivial
  | cons input rest ih => exact ⟨trivial, ih _⟩

/-- What each permitted step preserves holds after every permitted run. -/
theorem run_invariant {step : σ → ι → σ} {ok : σ → ι → Prop} {Inv : σ → Prop}
    (preserved : ∀ state input, Inv state → ok state input → Inv (step state input))
    {start : σ} {inputs : List ι} (initial : Inv start)
    (permitted : Permitted step ok start inputs) : Inv (run step start inputs) := by
  induction inputs generalizing start with
  | nil => exact initial
  | cons input rest ih => exact ih (preserved start input initial permitted.1) permitted.2

/-- What relates two machines and is preserved by every permitted step of both. -/
theorem run_related {step : σ → ι → σ} {other : τ → ι → τ} {ok : τ → ι → Prop}
    {Rel : σ → τ → Prop}
    (preserved : ∀ state mirror input, Rel state mirror → ok mirror input →
      Rel (step state input) (other mirror input))
    {start : σ} {image : τ} {inputs : List ι} (initial : Rel start image)
    (permitted : Permitted other ok image inputs) :
    Rel (run step start inputs) (run other image inputs) := by
  induction inputs generalizing start image with
  | nil => exact initial
  | cons input rest ih =>
    exact ih (preserved start image input initial permitted.1) permitted.2

/-- Two machines read the same inputs. Where a permitted step keeps the relation between their
states and any other step spoils the goal, the runs that meet the goal all the way are the
permitted ones. -/
theorem related_iff_permitted {step : σ → ι → σ} {other : τ → ι → τ} {ok : σ → ι → Prop}
    {Rel Goal : σ → τ → Prop}
    (meets : ∀ state mirror, Rel state mirror → Goal state mirror)
    (preserved : ∀ state mirror input, Rel state mirror → ok state input →
      Rel (step state input) (other mirror input))
    (spoiled : ∀ state mirror input, Rel state mirror → ¬ ok state input →
      ¬ Goal (step state input) (other mirror input))
    {start : σ} {image : τ} {inputs : List ι} (initial : Rel start image) :
    (∀ count, Goal (run step start (inputs.take count)) (run other image (inputs.take count))) ↔
      Permitted step ok start inputs := by
  induction inputs generalizing start image with
  | nil =>
    constructor
    · exact fun _ => trivial
    · intro _ count
      rw [List.take_nil]
      exact meets start image initial
  | cons input rest ih =>
    constructor
    · intro always
      by_cases accepted : ok start input
      · refine ⟨accepted, (ih (preserved start image input initial accepted)).mp ?_⟩
        intro count
        exact always (count + 1)
      · exact absurd (always 1) (spoiled start image input initial accepted)
    · intro permitted count
      cases count with
      | zero => exact meets start image initial
      | succ count =>
        exact (ih (preserved start image input initial permitted.1)).mpr permitted.2 count

/-- The same for one machine and what holds of its states. -/
theorem always_iff_permitted {step : σ → ι → σ} {ok : σ → ι → Prop} {Inv Goal : σ → Prop}
    (meets : ∀ state, Inv state → Goal state)
    (preserved : ∀ state input, Inv state → ok state input → Inv (step state input))
    (spoiled : ∀ state input, Inv state → ¬ ok state input → ¬ Goal (step state input))
    {start : σ} {inputs : List ι} (initial : Inv start) :
    (∀ count, Goal (run step start (inputs.take count))) ↔ Permitted step ok start inputs :=
  @related_iff_permitted σ ι Unit step (fun mirror _ => mirror) ok (fun state _ => Inv state)
    (fun state _ => Goal state) (fun state _ => meets state) (fun state _ => preserved state)
    (fun state _ => spoiled state) start () inputs initial

/-- The same for runs of which something is known of every step. -/
theorem always_iff_permitted_within {step : σ → ι → σ} {side ok : σ → ι → Prop}
    {Inv Goal : σ → Prop} (meets : ∀ state, Inv state → Goal state)
    (preserved : ∀ state input, Inv state → side state input → ok state input →
      Inv (step state input))
    (spoiled : ∀ state input, Inv state → side state input → ¬ ok state input →
      ¬ Goal (step state input))
    {start : σ} {inputs : List ι} (initial : Inv start)
    (within : Permitted step side start inputs) :
    (∀ count, Goal (run step start (inputs.take count))) ↔ Permitted step ok start inputs := by
  induction inputs generalizing start with
  | nil =>
    constructor
    · exact fun _ => trivial
    · intro _ count
      rw [List.take_nil]
      exact meets start initial
  | cons input rest ih =>
    constructor
    · intro always
      by_cases accepted : ok start input
      · refine ⟨accepted, (ih (preserved start input initial within.1 accepted) within.2).mp ?_⟩
        intro count
        exact always (count + 1)
      · exact absurd (always 1) (spoiled start input initial within.1 accepted)
    · intro permitted count
      cases count with
      | zero => exact meets start initial
      | succ count =>
        exact (ih (preserved start input initial within.1 permitted.1) within.2).mpr
          permitted.2 count

/-- The same for what each step of such a run should do. -/
theorem steps_iff_permitted_within {step : σ → ι → σ} {side ok Goal : σ → ι → Prop}
    {Inv : σ → Prop}
    (preserved : ∀ state input, Inv state → side state input → ok state input →
      Inv (step state input))
    (meets : ∀ state input, Inv state → side state input → (Goal state input ↔ ok state input))
    {start : σ} {inputs : List ι} (initial : Inv start)
    (within : Permitted step side start inputs) :
    (∀ past input future, inputs = past ++ input :: future →
      Goal (run step start past) input) ↔ Permitted step ok start inputs := by
  induction inputs generalizing start with
  | nil =>
    constructor
    · exact fun _ => trivial
    · intro _ past input future split
      simp at split
  | cons first rest ih =>
    constructor
    · intro each
      have accepted := (meets start first initial within.1).mp (each [] first rest rfl)
      have next := preserved start first initial within.1 accepted
      refine ⟨accepted, (ih next within.2).mp ?_⟩
      intro past input future split
      exact each (first :: past) input future (by rw [split, List.cons_append])
    · intro permitted past input future split
      cases past with
      | nil =>
        cases split
        exact (meets start first initial within.1).mpr permitted.1
      | cons other past =>
        rw [List.cons_append] at split
        cases split
        have next := preserved start first initial within.1 permitted.1
        exact (ih next within.2).mpr permitted.2 past input future rfl

/-- The same for all runs. -/
theorem steps_iff_permitted {step : σ → ι → σ} {ok Goal : σ → ι → Prop} {Inv : σ → Prop}
    (preserved : ∀ state input, Inv state → ok state input → Inv (step state input))
    (meets : ∀ state input, Inv state → (Goal state input ↔ ok state input))
    {start : σ} {inputs : List ι} (initial : Inv start) :
    (∀ past input future, inputs = past ++ input :: future →
      Goal (run step start past) input) ↔ Permitted step ok start inputs :=
  @steps_iff_permitted_within σ ι step (fun _ _ => True) ok Goal Inv
    (fun state input invariant _ => preserved state input invariant)
    (fun state input invariant _ => meets state input invariant) start inputs initial
    (permitted_true step start inputs)

theorem iterate_invariant {next : σ → σ} {Inv : σ → Prop}
    (preserved : ∀ state, Inv state → Inv (next state)) {start : σ} (initial : Inv start)
    (count : Nat) : Inv (next^[count] start) := by
  induction count with
  | zero => exact initial
  | succ count ih =>
    rw [Function.iterate_succ_apply']
    exact preserved _ ih

/-- A measure that falls at every unfinished step bounds the run. -/
theorem iterate_reaches {next : σ → σ} (Inv : σ → Prop) {Done : σ → Prop}
    {below : τ → τ → Prop} (wellFounded : WellFounded below) (measure : σ → τ)
    (preserved : ∀ state, Inv state → Inv (next state))
    (falls : ∀ state, Inv state → ¬ Done state → below (measure (next state)) (measure state))
    (start : σ) (initial : Inv start) : ∃ count, Done (next^[count] start) := by
  induction equal : measure start using wellFounded.induction generalizing start with
  | _ bound ih =>
    by_cases done : Done start
    · exact ⟨0, done⟩
    · have lower := falls start initial done
      rw [equal] at lower
      obtain ⟨count, reached⟩ := ih _ lower (next start) (preserved start initial) rfl
      exact ⟨count + 1, by rwa [Function.iterate_succ_apply]⟩

/-- Every event of a log is backed by the events before it. -/
def Justified (backs : List ι → ι → Prop) (log : List ι) : Prop :=
  ∀ past event future, log = past ++ event :: future → backs past event

theorem justified_nil (backs : List ι → ι → Prop) : Justified backs [] := by
  intro past event future split
  simp at split

theorem Justified.of_mem {backs : List ι → ι → Prop} {log : List ι}
    (justified : Justified backs log) {event : ι} (member : event ∈ log) :
    ∃ past, past ⊆ log ∧ backs past event := by
  obtain ⟨past, future, split⟩ := List.append_of_mem member
  refine ⟨past, ?_, justified past event future split⟩
  rw [split]
  exact List.subset_append_left past _

theorem Justified.append {backs : List ι → ι → Prop} {log : List ι} {event : ι}
    (justified : Justified backs log) (backed : backs log event) :
    Justified backs (log ++ [event]) := by
  intro past other future split
  rcases future.eq_nil_or_concat' with rfl | ⟨init, last, rfl⟩
  · obtain ⟨rfl, same⟩ := List.append_inj' split rfl
    cases same
    exact backed
  · have longer : log ++ [event] = (past ++ other :: init) ++ [last] := by
      rw [split, List.append_assoc, List.cons_append]
    exact justified past other init (List.append_inj' longer rfl).1

end TransitionSystem
