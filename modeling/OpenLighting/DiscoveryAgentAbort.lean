import OpenLighting.DiscoveryAgentWorld

namespace OpenLighting.DiscoveryAgent

open World

/-- The requests in flight that a run has sent. -/
def World.owned (world : World) (callback : Nat) : List (Option Nat × Request) :=
  world.inFlight.filter fun flight => flight.1 = some callback

/-- Where the agent is between two events. A run has exactly one request in
flight until its result is reported. -/
inductive World.Phase (world : World) : Prop
  | idle (idle : world.agent.Idle) (returned : world.completing = 0)
  | running (callback : Nat) (request : Request)
      (registered : world.agent.onComplete = some callback)
      (live : Live world.agent (.request request))
      (pending : world.owned callback = [(some callback, request)])
      (returned : world.completing = 0)
  | reporting (callback : Nat) (registered : world.agent.onComplete = some callback)
      (empty : world.agent.uidRanges = []) (answered : world.owned callback = [])
      (inside : world.completing = 1)

/-- An accepted start that has not run its callback is the run that is going on. -/
structure World.Sound (world : World) : Prop where
  intact : world.fault = none
  phase : world.Phase
  served : ∀ callback ∈ world.accepted, world.ran.count callback = 1 ∨
    (world.ran.count callback = 0 ∧ world.agent.onComplete = some callback ∧
      world.completing = 0)
  current : ∀ callback, world.agent.onComplete = some callback → callback ∈ world.accepted ∧
    (world.completing = 0 → world.ran.count callback = 0)
  fresh : ∀ callback, world.starts ≤ callback →
    callback ∉ world.accepted ∧ callback ∉ world.ran ∧ world.owned callback = []

theorem World.initial_sound (treeCorrupt : Bool) : (World.initial treeCorrupt).Sound where
  intact := rfl
  phase := .idle (Agent.new_idle treeCorrupt) rfl
  served := by simp [initial]
  current := by simp [initial, Agent.new]
  fresh := by simp [initial, owned]

section Flights
variable {flights : List (Option Nat × Request)} {index callback : Nat}
  {flight : Option Nat × Request}

/-- The only request of a run is the one that is answered. -/
theorem filter_eraseIdx_of_eq {request : Request} (found : flights[index]? = some flight)
    (mine : flight.1 = some callback)
    (only : flights.filter (fun flight => flight.1 = some callback) =
      [(some callback, request)]) :
    flight = (some callback, request) ∧
      (flights.eraseIdx index).filter (fun flight => flight.1 = some callback) = [] := by
  induction flights generalizing index with
  | nil => simp at found
  | cons head rest ih =>
    cases index with
    | zero =>
      have same : head = flight := by simpa using found
      subst same
      simp only [List.filter_cons, mine, decide_true, ↓reduceIte, List.cons.injEq] at only
      exact only
    | succ index =>
      have inside : rest[index]? = some flight := by simpa using found
      have member : flight ∈ rest.filter fun flight => flight.1 = some callback := by
        rw [List.mem_filter]
        exact ⟨List.mem_of_getElem? inside, by simp [mine]⟩
      by_cases first : head.1 = some callback
      · simp only [List.filter_cons, first, decide_true, ↓reduceIte, List.cons.injEq] at only
        rw [only.2] at member
        cases member
      · simp only [List.filter_cons, first, decide_false, Bool.false_eq_true,
          ↓reduceIte] at only
        have inner := ih inside only
        simp only [List.eraseIdx_cons_succ, List.filter_cons, first, decide_false,
          Bool.false_eq_true, ↓reduceIte]
        exact inner

end Flights

section Events
variable {world : World}

theorem World.Phase.congr {other : World} (phase : world.Phase)
    (agent : other.agent = world.agent) (completing : other.completing = world.completing)
    (inFlight : other.inFlight = world.inFlight) : other.Phase := by
  have owned : ∀ callback, other.owned callback = world.owned callback := by
    intro callback
    unfold owned
    rw [inFlight]
  cases phase with
  | idle idle returned => exact .idle (agent ▸ idle) (completing.trans returned)
  | running callback request registered live pending returned =>
    exact .running callback request (agent ▸ registered) (agent ▸ live)
      ((owned callback).trans pending) (completing.trans returned)
  | reporting callback registered empty answered inside =>
    exact .reporting callback (agent ▸ registered) (agent ▸ empty)
      ((owned callback).trans answered) (completing.trans inside)

section
variable (sound : world.Sound)
include sound

theorem World.Sound.unregistered (none : world.agent.onComplete = none) :
    world.agent.Idle ∧ world.completing = 0 := by
  cases sound.phase with
  | idle idle returned => exact ⟨idle, returned⟩
  | running callback request registered live pending returned
  | reporting callback registered empty answered inside =>
    rw [none] at registered
    cases registered

/-- With no run going on every accepted start has been served. -/
theorem World.Sound.all_served (none : world.agent.onComplete = none) {callback : Nat}
    (accepted : callback ∈ world.accepted) : world.ran.count callback = 1 := by
  rcases sound.served callback accepted with once | ⟨_, registered, _⟩
  · exact once
  · rw [none] at registered
    cases registered

theorem World.start_accepted (none : world.agent.onComplete = none) (incremental : Bool) :
    (world.start incremental).Sound := by
  obtain ⟨idle, returned⟩ := sound.unregistered none
  obtain ⟨unaccepted, unran, unowned⟩ := sound.fresh world.starts (Nat.le_refl _)
  unfold owned at unowned
  simp only [start, none, ↓reduceIte, after, initDiscovery_idle idle]
  constructor
  case intact => exact sound.intact
  case phase =>
      refine World.Phase.running world.starts .unMuteAll rfl ?_ ?_ returned
      · exact ⟨Option.some_ne_none _, rfl⟩
      · simp [owned, unowned]
  case served =>
      intro callback member
      rcases List.mem_cons.mp member with rfl | earlier
      · exact Or.inr ⟨List.count_eq_zero.mpr unran, rfl, returned⟩
      · exact Or.inl (sound.all_served none earlier)
  case current =>
      intro callback registered
      cases registered
      exact ⟨List.mem_cons_self, fun _ => List.count_eq_zero.mpr unran⟩
  case fresh =>
      intro callback bound
      obtain ⟨notAccepted, notRan, notOwned⟩ := sound.fresh callback (by simp only at bound; omega)
      have later : callback ≠ world.starts := by
        simp only at bound
        omega
      unfold owned at notOwned
      refine ⟨?_, notRan, ?_⟩
      · simp [notAccepted, later]
      · simp [owned, notOwned, later.symm]

theorem World.start_rejected (busy : world.agent.onComplete ≠ none) (incremental : Bool) :
    (world.start incremental).Sound := by
  obtain ⟨unaccepted, unran, unowned⟩ := sound.fresh world.starts (Nat.le_refl _)
  obtain ⟨running, registered⟩ := Option.ne_none_iff_exists'.mp busy
  have kept : ∀ callback ∈ world.accepted,
      (world.starts :: world.ran).count callback = world.ran.count callback := by
    intro callback member
    apply List.count_cons_of_ne
    rintro rfl
    exact unaccepted member
  simp only [start, after, initDiscovery, registered, reduceCtorEq, ↓reduceIte]
  constructor
  case intact => exact sound.intact
  case phase => exact sound.phase.congr rfl rfl rfl
  case served =>
      intro callback member
      have count := kept callback member
      simp only [count]
      exact sound.served callback member
  case current =>
      intro callback current
      obtain ⟨member, none⟩ := sound.current callback current
      have count := kept callback member
      simp only [count]
      exact ⟨member, none⟩
  case fresh =>
      intro callback bound
      simp only at bound
      obtain ⟨notAccepted, notRan, notOwned⟩ := sound.fresh callback (by omega)
      have later : callback ≠ world.starts := by omega
      refine ⟨notAccepted, ?_, notOwned⟩
      simp [notRan, later]

/-- The callback of the run that ends is the one that was still to be run. -/
theorem World.Sound.served_once {running : Nat} (registered : world.agent.onComplete = some running)
    (returned : world.completing = 0) :
    ∀ callback ∈ world.accepted, (running :: world.ran).count callback = 1 := by
  intro callback member
  by_cases same : callback = running
  · subst same
    simp [(sound.current callback registered).2 returned]
  · rw [List.count_cons_of_ne (Ne.symm same)]
    rcases sound.served callback member with once | ⟨_, current, _⟩
    · exact once
    · rw [registered] at current
      cases current
      omega

theorem World.Sound.fresh_ran {running callback : Nat} (accepted : running ∈ world.accepted)
    (bound : world.starts ≤ callback) :
    callback ∉ running :: world.ran := by
  obtain ⟨notAccepted, notRan, _⟩ := sound.fresh callback bound
  rw [List.mem_cons, not_or]
  refine ⟨?_, notRan⟩
  rintro rfl
  exact notAccepted accepted

theorem World.abort_sound (returned : world.completing = 0) :
    (world.after (abort world.agent)).Sound := by
  cases registered : world.agent.onComplete with
  | none =>
    simp only [after, abort, registered]
    constructor
    case intact => exact sound.intact
    case phase => exact .idle ⟨rfl, rfl⟩ returned
    case served => exact fun callback member => Or.inl (sound.all_served registered member)
    case current => nofun
    case fresh => exact sound.fresh
  | some running =>
    have accepted := (sound.current running registered).1
    simp only [after, abort, registered]
    constructor
    case intact => exact sound.intact
    case phase => exact .idle ⟨rfl, rfl⟩ returned
    case served =>
        exact fun callback member => Or.inl (sound.served_once registered returned callback member)
    case current => nofun
    case fresh =>
        intro callback bound
        obtain ⟨notAccepted, _, notOwned⟩ := sound.fresh callback bound
        exact ⟨notAccepted, sound.fresh_ran accepted bound, notOwned⟩

theorem World.return_sound : (world.step .callbackReturns).Sound := by
  unfold step
  rw [if_pos sound.intact]
  cases sound.phase with
  | idle idle returned | running callback request registered live pending returned =>
    simpa only [returned] using sound
  | reporting running registered empty answered inside =>
    simp only [inside]
    constructor
    case intact => exact sound.intact
    case phase => exact .idle ⟨rfl, empty⟩ rfl
    case served =>
        intro callback member
        rcases sound.served callback member with once | ⟨_, _, returned⟩
        · exact Or.inl once
        · omega
    case current => nofun
    case fresh => exact sound.fresh

theorem World.owned_erase_of_fresh (index : Nat) {callback : Nat} (bound : world.starts ≤ callback) :
    (world.inFlight.eraseIdx index).filter (fun flight => flight.1 = some callback) = [] := by
  have none := (sound.fresh callback bound).2.2
  have fewer := (List.eraseIdx_sublist world.inFlight index).filter
    fun flight => flight.1 = some callback
  unfold owned at none
  rw [none] at fewer
  exact List.sublist_nil.mp fewer

/-- An answer for the run that is going on. -/
theorem World.answer_running {index running : Nat} {request : Request} {reply : Reply}
    {flight : Option Nat × Request} (found : world.inFlight[index]? = some flight)
    (registered : world.agent.onComplete = some running) (mine : flight.1 = some running)
    (live : Live world.agent (.request request))
    (pending : world.owned running = [(some running, request)]) (returned : world.completing = 0) :
    (world.answer index reply).Sound := by
  obtain ⟨same, erased⟩ := filter_eraseIdx_of_eq found mine pending
  have accepted := (sound.current running registered).1
  obtain ⟨kept, following, _⟩ := handle_running reply live
  rw [registered] at kept
  have answered : world.answer index reply =
      after { world with inFlight := world.inFlight.eraseIdx index }
        (handle world.agent reply request) := by
    simp only [answer, found, same]
  rw [answered]
  rcases handle_settled reply live with ⟨next, settled⟩ | ⟨callback, status, uids, settled⟩
  · rw [settled] at following
    simp only [after, settled, kept]
    constructor
    case intact => exact sound.intact
    case phase =>
        refine .running running next kept following ?_ returned
        simp [owned, erased]
    case served =>
        intro callback member
        rcases sound.served callback member with once | ⟨none, current, _⟩
        · exact Or.inl once
        · exact Or.inr ⟨none, kept.trans (registered.symm.trans current), returned⟩
    case current =>
        intro callback current
        exact sound.current callback (registered.trans (kept.symm.trans current))
    case fresh =>
        intro callback bound
        obtain ⟨notAccepted, notRan, notOwned⟩ := sound.fresh callback bound
        refine ⟨notAccepted, notRan, ?_⟩
        have other : running ≠ callback := by
          rintro rfl
          exact notAccepted accepted
        simp [owned, owned_erase_of_fresh sound index bound, other]
  · rw [settled] at following
    obtain ⟨own, empty, _, _⟩ := following
    rw [kept] at own
    cases own
    simp only [after, settled, returned]
    constructor
    case intact => exact sound.intact
    case phase => exact .reporting running kept empty erased rfl
    case served =>
        exact fun callback member => Or.inl (sound.served_once registered returned callback member)
    case current =>
        intro callback current
        rw [kept] at current
        cases current
        exact ⟨accepted, fun impossible => by cases impossible⟩
    case fresh =>
        intro callback bound
        exact ⟨(sound.fresh callback bound).1, sound.fresh_ran accepted bound,
          owned_erase_of_fresh sound index bound⟩

/-- An agent without a callback, and requests that no callback to come owns. -/
theorem World.Sound.quiet (none : world.agent.onComplete = none) {agent : Agent}
    (settled : agent.Idle) {flights : List (Option Nat × Request)}
    (unowned : ∀ callback, world.starts ≤ callback →
      flights.filter (fun flight => flight.1 = some callback) = []) :
    World.Sound { world with agent := agent, inFlight := flights } where
  intact := sound.intact
  phase := .idle settled (sound.unregistered none).2
  served callback member := Or.inl (sound.all_served none member)
  current callback current := by
    rw [settled.1] at current
    cases current
  fresh callback bound :=
    ⟨(sound.fresh callback bound).1, (sound.fresh callback bound).2.1, unowned callback bound⟩

/-- A late answer that does no harm. -/
theorem World.answer_idle {index : Nat} {reply : Reply} {flight : Option Nat × Request}
    (found : world.inFlight[index]? = some flight) (none : world.agent.onComplete = none)
    (harmless : Harmless flight.2 reply) :
    (world.answer index reply).Sound := by
  obtain ⟨idle, _⟩ := sound.unregistered none
  obtain ⟨settled, ending⟩ := handle_idle idle harmless
  rcases ending with ending | ⟨next, ending⟩
  · simp only [answer, found, after, ending]
    exact sound.quiet none settled fun _ bound => owned_erase_of_fresh sound index bound
  · simp only [answer, found, after, ending, settled.1]
    apply sound.quiet none settled
    intro callback bound
    simp [owned_erase_of_fresh sound index bound]

end

theorem World.step_sound (world : World) (event : Event) (sound : world.Sound)
    (orderly : world.Orderly event) : (world.step event).Sound := by
  cases event with
  | start incremental =>
    simp only [step, sound.intact, ↓reduceIte]
    by_cases none : world.agent.onComplete = none
    · exact start_accepted sound none incremental
    · exact start_rejected sound none incremental
  | abort =>
    simp only [step, sound.intact, ↓reduceIte]
    exact abort_sound sound orderly
  | callbackReturns => exact return_sound sound
  | answer index reply =>
    simp only [step, sound.intact, ↓reduceIte]
    cases found : world.inFlight[index]? with
    | none =>
      simp only [answer, found]
      exact sound
    | some flight =>
      obtain ⟨returned, ⟨busy, mine⟩ | ⟨none, harmless⟩⟩ := orderly flight found
      · cases sound.phase with
        | idle idle _ => exact absurd idle.1 busy
        | running callback request registered live pending _ =>
          exact answer_running sound found registered (mine.trans registered) live
            pending returned
        | reporting callback registered empty answered inside => omega
      · exact answer_idle sound found none harmless

end Events

/-- No fault, and every accepted start has run its callback exactly once or is
the run that is going on. -/
def World.Safe (world : World) : Prop :=
  world.fault = none ∧
  ∀ callback ∈ world.accepted, world.ran.count callback = 1 ∨
    (world.ran.count callback = 0 ∧ world.agent.onComplete = some callback)

instance (world : World) : Decidable world.Safe := inferInstanceAs (Decidable (_ ∧ _))

theorem World.Sound.safe {world : World} (sound : world.Sound) : world.Safe := by
  refine ⟨sound.intact, ?_⟩
  intro callback member
  rcases sound.served callback member with once | ⟨none, registered, _⟩
  · exact Or.inl once
  · exact Or.inr ⟨none, registered⟩

/-- The request that the run going on is waiting for. -/
def World.awaited (world : World) : Option (Nat × Request) :=
  match world.agent.onComplete with
  | none => none
  | some callback =>
    match world.inFlight.findIdx? fun flight => flight.1 = some callback with
    | none => none
    | some index => world.inFlight[index]?.map fun flight => (index, flight.2)

/-- Let the completion callback return, or answer what the run is waiting for. -/
def World.attend (replies : World → Request → Reply) (world : World) : World :=
  if world.completing = 0 then
    match world.awaited with
    | some (index, request) => world.step (.answer index (replies world request))
    | none => world
  else world.step .callbackReturns

section Attending
variable {world : World} {callback : Nat} {request : Request}

theorem World.awaited_running (registered : world.agent.onComplete = some callback)
    (pending : world.owned callback = [(some callback, request)]) :
    ∃ index, world.awaited = some (index, request) ∧
      world.inFlight[index]? = some (some callback, request) := by
  have member : (some callback, request) ∈ world.owned callback := by simp [pending]
  simp only [awaited, registered]
  cases found : world.inFlight.findIdx? (fun flight => flight.1 = some callback) with
  | none =>
    rw [List.findIdx?_eq_none_iff] at found
    have other := found _ (List.mem_filter.mp member).1
    simp at other
  | some index =>
    obtain ⟨bound, mine, _⟩ := List.findIdx?_eq_some_iff_getElem.mp found
    have located : world.inFlight[index]? = some world.inFlight[index] :=
      List.getElem?_eq_getElem bound
    obtain ⟨same, _⟩ := filter_eraseIdx_of_eq located (of_decide_eq_true mine) pending
    rw [same] at located
    refine ⟨index, ?_, located⟩
    simp only [located, Option.map_some]

/-- How far a run is from being over: going on, reporting, over. -/
def World.remaining (world : World) : Nat ×ₗ Nat ×ₗ Nat ×ₗ Nat :=
  match world.agent.onComplete with
  | none => toLex (0, toLex (0, toLex (0, 0)))
  | some _ =>
    if world.completing = 0 then
      match world.awaited with
      | some (_, request) => toLex (2, progress world.agent (.request request))
      | none => toLex (2, toLex (0, toLex (0, 0)))
    else toLex (1, toLex (0, toLex (0, 0)))

theorem World.remaining_running (registered : world.agent.onComplete = some callback)
    (pending : world.owned callback = [(some callback, request)])
    (returned : world.completing = 0) :
    world.remaining = toLex (2, progress world.agent (.request request)) := by
  obtain ⟨index, awaited, _⟩ := awaited_running registered pending
  simp only [remaining, registered, returned, awaited, ↓reduceIte]

theorem World.remaining_reporting (registered : world.agent.onComplete = some callback)
    (inside : world.completing = 1) :
    world.remaining = toLex (1, toLex (0, toLex (0, 0))) := by
  simp only [remaining, registered, inside, one_ne_zero, ↓reduceIte]

/-- One answer brings the run closer to its end. -/
theorem World.answer_remaining (reply : Reply) {index : Nat}
    (registered : world.agent.onComplete = some callback)
    (live : Live world.agent (.request request))
    (pending : world.owned callback = [(some callback, request)])
    (returned : world.completing = 0)
    (found : world.inFlight[index]? = some (some callback, request)) :
    (world.answer index reply).remaining < world.remaining ∧
      (world.answer index reply).accepted = world.accepted := by
  obtain ⟨_, erased⟩ := filter_eraseIdx_of_eq found rfl pending
  obtain ⟨kept, following, less⟩ := handle_running reply live
  rw [registered] at kept
  rw [remaining_running registered pending returned]
  simp only [answer, found]
  rcases handle_settled reply live with ⟨next, settled⟩ | ⟨reporter, status, uids, settled⟩
  · rw [settled] at less
    simp only [after, settled, kept]
    refine ⟨lt_of_eq_of_lt (@World.remaining_running _ callback next kept ?_ returned) ?_, trivial⟩
    · simp [owned, erased]
    · exact Prod.Lex.toLex_lt_toLex.mpr (Or.inr ⟨rfl, less⟩)
  · simp only [after, settled, returned]
    refine ⟨lt_of_eq_of_lt (remaining_reporting kept rfl) ?_, trivial⟩
    exact Prod.Lex.toLex_lt_toLex.mpr (Or.inl Nat.one_lt_two)

end Attending

theorem World.attend_sound (replies : World → Request → Reply) (world : World)
    (sound : world.Sound) :
    (world.attend replies).Sound ∧ (world.attend replies).accepted = world.accepted ∧
      (world.agent.onComplete ≠ none → (world.attend replies).remaining < world.remaining) := by
  cases sound.phase with
  | idle idle returned =>
    have quiet : world.attend replies = world := by
      simp only [attend, returned, awaited, idle.1, ↓reduceIte]
    rw [quiet]
    exact ⟨sound, rfl, fun busy => absurd idle.1 busy⟩
  | running callback request registered live pending returned =>
    obtain ⟨index, awaited, found⟩ := awaited_running registered pending
    have answered : world.attend replies = world.answer index (replies world request) := by
      simp only [attend, returned, awaited, step, sound.intact, ↓reduceIte]
    rw [answered]
    obtain ⟨less, same⟩ := answer_remaining (replies world request) registered live pending
      returned found
    exact ⟨answer_running sound found registered rfl live pending returned, same,
      fun _ => less⟩
  | reporting callback registered empty answered inside =>
    have returns : world.attend replies = world.step .callbackReturns := by
      simp only [attend, inside, one_ne_zero, ↓reduceIte]
    rw [returns]
    refine ⟨return_sound sound, ?_, fun _ => ?_⟩
    · simp only [step, sound.intact, inside, ↓reduceIte]
    · rw [remaining_reporting registered inside]
      simp only [step, sound.intact, inside, ↓reduceIte, remaining, completeReturned]
      exact Prod.Lex.toLex_lt_toLex.mpr (Or.inl (by decide))

/-- Whatever the target answers, the run going on is over after finitely many answers. -/
theorem World.attend_ends (replies : World → Request → Reply) {world : World}
    (sound : world.Sound) :
    ∃ count, ((World.attend replies)^[count] world).Safe ∧
      ((World.attend replies)^[count] world).accepted = world.accepted ∧
      ∀ callback ∈ world.accepted,
        ((World.attend replies)^[count] world).ran.count callback = 1 := by
  have preserved : ∀ later : World, later.Sound ∧ later.accepted = world.accepted →
      (later.attend replies).Sound ∧ (later.attend replies).accepted = world.accepted := by
    intro later invariant
    obtain ⟨attended, same, _⟩ := attend_sound replies later invariant.1
    exact ⟨attended, same.trans invariant.2⟩
  obtain ⟨count, ended⟩ := TransitionSystem.iterate_reaches
    (fun later : World => later.Sound ∧ later.accepted = world.accepted)
    wellFounded_lt remaining preserved
    (fun later invariant busy => (attend_sound replies later invariant.1).2.2 busy)
    world ⟨sound, rfl⟩
  obtain ⟨final, same⟩ := TransitionSystem.iterate_invariant preserved ⟨sound, rfl⟩ count
  refine ⟨count, final.safe, same, ?_⟩
  intro callback member
  exact final.all_served ended (same ▸ member)

/-- As long as late answers keep out of later runs and come to a run-less agent
only when they do no harm, the agent never touches an empty stack, and every
accepted start runs its callback exactly once: at most once at any time, and
once by the time the requests of the run have been answered. -/
theorem abort_safe (treeCorrupt : Bool) (events : List Event)
    (orderly : TransitionSystem.Permitted World.step World.Orderly (World.initial treeCorrupt)
      events) :
    let world := TransitionSystem.run World.step (World.initial treeCorrupt) events
    world.Safe ∧
    ∀ replies, ∃ count, ((World.attend replies)^[count] world).Safe ∧
      ((World.attend replies)^[count] world).accepted = world.accepted ∧
      ∀ callback ∈ world.accepted,
        ((World.attend replies)^[count] world).ran.count callback = 1 := by
  have sound := TransitionSystem.run_invariant World.step_sound
    (World.initial_sound treeCorrupt) orderly
  exact ⟨sound.safe, fun replies => World.attend_ends replies sound⟩

/-- An aborted run whose unmute is answered late, and a second run to the end. -/
theorem abort_safe_late :
    let events : List Event := [.start false, .abort, .answer 0 ⟨true, []⟩, .start false,
      .answer 0 ⟨true, []⟩, .answer 0 ⟨true, []⟩, .callbackReturns]
    TransitionSystem.Permitted World.step World.Orderly (World.initial false) events ∧
      (TransitionSystem.run World.step (World.initial false) events).Safe :=
  ⟨by decide, (abort_safe false _ (by decide)).1⟩

/-- A branch that is answered after the abort reads the top of an empty stack. -/
theorem abort_late_branch :
    ¬ (TransitionSystem.run World.step (World.initial false)
      [.start false, .answer 0 ⟨true, []⟩, .abort, .answer 0 ⟨true, []⟩]).Safe := by
  decide

end OpenLighting.DiscoveryAgent
