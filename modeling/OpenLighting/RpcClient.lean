import OpenLighting.FiniteMap
import OpenLighting.TransitionSystem

namespace OpenLighting.RpcChannel

open TransitionSystem List

/-- The text that a controller is given with `SetFailed`. -/
inductive Reason where
  | failedToSendRequest
  | duplicateRequestFound
  | notImplemented
  | remote (text : List UInt8)
  deriving DecidableEq

/-- What a caller finds when its callback runs. -/
inductive Outcome where
  | reply (buffer : List UInt8)
  | failed (reason : Reason)
  deriving DecidableEq

/-- The calling half of an `RpcChannel`. Calls are numbered in the order in which they are
made. `closed` records that `HandleChannelClose` has been called, `ids` the id of every call,
`completed` the callbacks that have run and `arrived` the calls whose response has arrived. -/
structure Client where
  sequence : UInt32
  responses : AList (fun _ : UInt32 => Nat)
  connected : Bool
  onClose : Bool
  closed : Bool
  ids : List UInt32
  completed : List (Nat × Outcome)
  arrived : List Nat

namespace Client

/-- A channel with a descriptor and a close handler, whose next id is given. -/
def initial (sequence : UInt32) : Client := ⟨sequence, ∅, true, true, false, [], [], []⟩

variable (state : Client)

def runCallback (call : Nat) (outcome : Outcome) : Client :=
  { state with completed := state.completed ++ [(call, outcome)] }

/-- `HandleChannelClose`: the close handler runs, and nothing else. -/
def handleChannelClose : Client := { state with onClose := false, closed := true }

/-- `SendMsg`; `sent` says whether the descriptor takes the whole message. -/
def sendMsg (sent : Bool) : Client × Bool :=
  if state.connected then
    if sent then (state, true) else ({ state with connected := false }.handleChannelClose, false)
  else (state, false)

/-- `CallMethod` for a method that is not streaming. With an id that is pending it is the
new call that fails, and it stays in the map. -/
def callMethod (sent : Bool) : Client :=
  let call := state.ids.length
  let id := state.sequence
  let state := { state with sequence := id + 1, ids := state.ids ++ [id] }
  match state.sendMsg sent with
  | (state, false) => state.runCallback call (.failed .failedToSendRequest)
  | (state, true) =>
    let old := state.responses.lookup id
    let state := { state with responses := state.responses.insert id call }
    match old with
    | some _ => state.runCallback call (.failed .duplicateRequestFound)
    | none => state

variable (id : UInt32)

/-- The body that `HandleResponse`, `HandleFailedResponse`, `HandleCanceledResponse` and
`HandleNotImplemented` share. -/
def complete (outcome : Outcome) : Client :=
  let state := { state with
    arrived := state.arrived ++
      (List.range state.ids.length).filter (fun call => state.ids[call]? = some id) }
  match state.responses.lookup id with
  | some call =>
    { state with responses := state.responses.erase id }.runCallback call outcome
  | none => state

variable (buffer : List UInt8)

def handleResponse : Client :=
  state.complete id (.reply buffer)

def handleFailedResponse : Client :=
  state.complete id (.failed (.remote buffer))

def handleCanceledResponse : Client :=
  state.complete id (.failed (.remote buffer))

def handleNotImplemented : Client :=
  state.complete id (.failed .notImplemented)

end Client

/-- What happens to the calling half: calls, incoming messages and the descriptor's close. -/
inductive ClientEvent where
  | callMethod (sent : Bool)
  | response (id : UInt32) (buffer : List UInt8)
  | failedResponse (id : UInt32) (buffer : List UInt8)
  | canceledResponse (id : UInt32) (buffer : List UInt8)
  | notImplemented (id : UInt32)
  | channelClose

def Client.step (state : Client) : ClientEvent → Client
  | .callMethod sent => state.callMethod sent
  | .response id buffer => state.handleResponse id buffer
  | .failedResponse id buffer => state.handleFailedResponse id buffer
  | .canceledResponse id buffer => state.handleCanceledResponse id buffer
  | .notImplemented id => state.handleNotImplemented id
  | .channelClose => state.handleChannelClose

namespace Client

/-- The calls whose callback has run, once for each time. -/
def done (state : Client) : List Nat := state.completed.map Prod.fst

/-- No callback runs twice, it has run if the response has arrived, and when the channel
has closed all callbacks have run. -/
structure Served (state : Client) : Prop where
  once : state.done.Nodup
  answered : ∀ call ∈ state.arrived, call ∈ state.done
  settled : state.closed = true → ∀ call < state.ids.length, call ∈ state.done

/-- No id is used for two calls at a time, and the channel closes only while no call is
outstanding and takes none afterwards. -/
def Orderly (state : Client) : ClientEvent → Prop
  | .callMethod sent =>
    state.connected = true →
      if sent = true then state.responses.lookup state.sequence = none ∧ state.closed = false
      else ∀ id, state.responses.lookup id = none
  | .channelClose => ∀ id, state.responses.lookup id = none
  | _ => True

/-- The map has the calls whose callback has not run. -/
structure Tracked (state : Client) : Prop where
  once : state.done.Nodup
  known : ∀ call ∈ state.done, call < state.ids.length
  outstanding : ∀ id call, state.responses.lookup id = some call ↔
    state.ids[call]? = some id ∧ call ∉ state.done
  answered : ∀ call ∈ state.arrived, call ∈ state.done
  settled : state.closed = true → ∀ id, state.responses.lookup id = none

section Invariant

variable {state : Client}

theorem done_runCallback (state : Client) (call : Nat) (outcome : Outcome) :
    (state.runCallback call outcome).done = state.done ++ [call] := by
  unfold runCallback done
  rw [map_append, map_singleton]

theorem Tracked.served (tracked : Tracked state) : Served state := by
  refine ⟨tracked.once, tracked.answered, ?_⟩
  intro closed call below
  by_contra waiting
  have found := (tracked.outstanding (state.ids[call]) call).mpr
    ⟨List.getElem?_eq_getElem below, waiting⟩
  rw [tracked.settled closed] at found
  cases found

theorem Tracked.fresh (tracked : Tracked state) : state.ids.length ∉ state.done :=
  fun member => absurd (tracked.known _ member) (lt_irrefl _)

/-- The ids of the calls before a new one. -/
theorem getElem_concat_iff {ids : List UInt32} {id other : UInt32} {call : Nat} :
    (ids ++ [id])[call]? = some other ↔
      ids[call]? = some other ∨ (call = ids.length ∧ other = id) := by
  by_cases below : call < ids.length
  · rw [List.getElem?_append_left below]
    constructor
    · exact Or.inl
    · rintro (found | ⟨rfl, _⟩)
      · exact found
      · omega
  · rw [List.getElem?_append_right (not_lt.mp below)]
    have none : ids[call]? = none := List.getElem?_eq_none (not_lt.mp below)
    rw [none]
    constructor
    · intro found
      right
      have zero : call - ids.length = 0 := by
        by_contra positive
        obtain ⟨more, amount⟩ := Nat.exists_eq_succ_of_ne_zero positive
        rw [amount] at found
        cases found
      rw [zero] at found
      cases found
      exact ⟨by omega, rfl⟩
    · rintro (impossible | ⟨rfl, rfl⟩)
      · cases impossible
      · rw [Nat.sub_self]
        rfl

/-- The calls to which an incoming message with this id belongs. -/
theorem mem_arrived_iff {arrived : List Nat} {ids : List UInt32} {id : UInt32} {call : Nat} :
    call ∈ arrived ++ (List.range ids.length).filter (fun call => ids[call]? = some id) ↔
      call ∈ arrived ∨ ids[call]? = some id := by
  rw [mem_append, mem_filter, mem_range, decide_eq_true_eq]
  constructor
  · rintro (before | ⟨_, found⟩)
    · exact Or.inl before
    · exact Or.inr found
  · rintro (before | found)
    · exact Or.inl before
    · exact Or.inr ⟨(List.getElem?_eq_some_iff.mp found).1, found⟩

theorem complete_none {id : UInt32} (outcome : Outcome) (unknown : state.responses.lookup id = none) :
    state.complete id outcome =
      { state with arrived := state.arrived ++
          (List.range state.ids.length).filter (fun call => state.ids[call]? = some id) } := by
  unfold complete
  dsimp only
  rw [unknown]

theorem complete_some {id : UInt32} {call : Nat} (outcome : Outcome)
    (found : state.responses.lookup id = some call) :
    state.complete id outcome =
      { state with
        responses := state.responses.erase id
        arrived := state.arrived ++
          (List.range state.ids.length).filter (fun call => state.ids[call]? = some id)
        completed := state.completed ++ [(call, outcome)] } := by
  unfold complete
  dsimp only
  rw [found]
  rfl

theorem Tracked.complete (tracked : Tracked state) (id : UInt32) (outcome : Outcome) :
    Tracked (state.complete id outcome) := by
  cases present : state.responses.lookup id with
  | none =>
    rw [complete_none outcome present]
    refine { tracked with answered := ?_ }
    intro call member
    rcases mem_arrived_iff.mp member with before | same
    · exact tracked.answered call before
    · by_contra waiting
      have found := (tracked.outstanding id call).mpr ⟨same, waiting⟩
      rw [present] at found
      cases found
  | some answered =>
    obtain ⟨same, waiting⟩ := (tracked.outstanding id answered).mp present
    have below : answered < state.ids.length := (List.getElem?_eq_some_iff.mp same).1
    have only : ∀ call, state.ids[call]? = some id → call ∉ state.done → call = answered := by
      intro call other unfinished
      have found := (tracked.outstanding id call).mpr ⟨other, unfinished⟩
      rw [present] at found
      exact (Option.some.inj found).symm
    rw [complete_some outcome present]
    have done : ({ state with
        responses := state.responses.erase id
        arrived := state.arrived ++
          (List.range state.ids.length).filter (fun call => state.ids[call]? = some id)
        completed := state.completed ++ [(answered, outcome)] } : Client).done =
          state.done ++ [answered] := done_runCallback state answered outcome
    refine ⟨?_, ?_, ?_, ?_, ?_⟩
    · rw [done, ← concat_eq_append]
      exact tracked.once.concat waiting
    · rw [done]
      intro call member
      rcases mem_append.mp member with before | last
      · exact tracked.known call before
      · rw [mem_singleton.mp last]
        exact below
    · intro other call
      rw [done, FiniteMap.lookup_erase_eq, mem_append, mem_singleton, not_or]
      split
      · rename_i equal
        constructor
        · intro impossible
          cases impossible
        · intro found
          rw [equal] at found
          exact absurd (only call found.1 found.2.1) found.2.2
      · rename_i different
        rw [tracked.outstanding other call]
        constructor
        · intro found
          refine ⟨found.1, found.2, ?_⟩
          intro equal
          rw [equal, same] at found
          exact different (Option.some.inj found.1).symm
        · exact fun found => ⟨found.1, found.2.1⟩
    · rw [done]
      intro call member
      by_cases before : call ∈ state.done
      · exact mem_append_left _ before
      · rcases mem_arrived_iff.mp member with old | other
        · exact absurd (tracked.answered call old) before
        · rw [only call other before]
          exact mem_append_right _ (mem_singleton_self answered)
    · intro closed
      have absent := tracked.settled closed id
      rw [present] at absent
      cases absent

/-- A call that is not sent completes at once. -/
def rejectCall (state : Client) (connected onClose closed : Bool) : Client :=
  { state with
    sequence := state.sequence + 1
    ids := state.ids ++ [state.sequence]
    connected := connected
    onClose := onClose
    closed := closed
    completed := state.completed ++ [(state.ids.length, .failed .failedToSendRequest)] }

theorem callMethod_unsent (up : state.connected = true) :
    state.callMethod false = state.rejectCall false false true := by
  unfold callMethod sendMsg
  rw [up]
  rfl

theorem callMethod_unconnected (sent : Bool) (down : state.connected = false) :
    state.callMethod sent = state.rejectCall state.connected state.onClose state.closed := by
  unfold callMethod sendMsg
  rw [down]
  rfl

theorem callMethod_sent (up : state.connected = true)
    (unused : state.responses.lookup state.sequence = none) :
    state.callMethod true =
      { state with
        sequence := state.sequence + 1
        ids := state.ids ++ [state.sequence]
        responses := state.responses.insert state.sequence state.ids.length } := by
  unfold callMethod sendMsg
  dsimp only
  rw [up, if_pos rfl, if_pos rfl]
  dsimp only
  rw [unused]

theorem callMethod_duplicate {old : Nat} (up : state.connected = true)
    (pending : state.responses.lookup state.sequence = some old) :
    state.callMethod true =
      { state with
        sequence := state.sequence + 1
        ids := state.ids ++ [state.sequence]
        responses := state.responses.insert state.sequence state.ids.length
        completed := state.completed ++
          [(state.ids.length, .failed .duplicateRequestFound)] } := by
  unfold callMethod sendMsg
  dsimp only
  rw [up, if_pos rfl, if_pos rfl]
  dsimp only
  rw [pending]
  rfl

theorem Tracked.rejectCall (tracked : Tracked state) (connected onClose : Bool) {closed : Bool}
    (settled : closed = true → ∀ id, state.responses.lookup id = none) :
    Tracked (state.rejectCall connected onClose closed) := by
  have done : (state.rejectCall connected onClose closed).done = state.done ++ [state.ids.length] :=
    done_runCallback state state.ids.length (.failed .failedToSendRequest)
  refine ⟨?_, ?_, ?_, ?_, settled⟩
  · rw [done, ← concat_eq_append]
    exact tracked.once.concat tracked.fresh
  · rw [done]
    change ∀ call ∈ _, call < (state.ids ++ [state.sequence]).length
    rw [length_append, length_singleton]
    intro call member
    rcases mem_append.mp member with before | last
    · exact Nat.lt_succ_of_lt (tracked.known call before)
    · rw [mem_singleton.mp last]
      omega
  · intro id call
    rw [done, mem_append, mem_singleton, not_or]
    change state.responses.lookup id = some call ↔ (state.ids ++ [state.sequence])[call]? = some id ∧ _
    rw [tracked.outstanding id call, getElem_concat_iff]
    constructor
    · intro found
      refine ⟨Or.inl found.1, found.2, ?_⟩
      have below := (List.getElem?_eq_some_iff.mp found.1).1
      omega
    · rintro ⟨before | last, waiting, old⟩
      · exact ⟨before, waiting⟩
      · omega
  · rw [done]
    intro call member
    exact mem_append_left _ (tracked.answered call member)

theorem Tracked.sentCall (tracked : Tracked state) (up : state.connected = true)
    (unused : state.responses.lookup state.sequence = none) (live : state.closed = false) :
    Tracked (state.callMethod true) := by
  rw [callMethod_sent up unused]
  refine ⟨tracked.once, ?_, ?_, tracked.answered, ?_⟩
  · intro call member
    have before := tracked.known call member
    rw [length_append, length_singleton]
    omega
  · intro id call
    rw [FiniteMap.lookup_insert_eq, getElem_concat_iff]
    have others := tracked.outstanding id call
    split
    · rename_i same
      subst same
      rw [unused] at others
      constructor
      · intro found
        cases found
        exact ⟨Or.inr ⟨rfl, rfl⟩, tracked.fresh⟩
      · rintro ⟨before | last, waiting⟩
        · cases others.mpr ⟨before, waiting⟩
        · rw [last.1]
    · rename_i different
      rw [others]
      constructor
      · exact fun found => ⟨Or.inl found.1, found.2⟩
      · rintro ⟨before | last, waiting⟩
        · exact ⟨before, waiting⟩
        · exact absurd last.2 different
  · intro closed
    rw [live] at closed
    cases closed

theorem Tracked.callMethod (tracked : Tracked state) (sent : Bool)
    (orderly : Orderly state (.callMethod sent)) : Tracked (state.callMethod sent) := by
  cases up : state.connected with
  | false =>
    rw [callMethod_unconnected sent up]
    exact tracked.rejectCall _ _ tracked.settled
  | true =>
    have allowed := orderly up
    cases sent with
    | true =>
      rw [if_pos rfl] at allowed
      exact tracked.sentCall up allowed.1 allowed.2
    | false =>
      rw [callMethod_unsent up]
      exact tracked.rejectCall false false (fun _ => allowed)

theorem Tracked.step (tracked : Tracked state) (event : ClientEvent)
    (orderly : Orderly state event) : Tracked (state.step event) := by
  cases event with
  | callMethod sent => exact tracked.callMethod sent orderly
  | response id buffer | failedResponse id buffer | canceledResponse id buffer
  | notImplemented id => exact tracked.complete id _
  | channelClose =>
    exact { tracked with settled := fun _ => orderly }

/-- Neither now nor after one more message does any callback run twice or stay out. -/
def Reliable (state : Client) : Prop :=
  Served state ∧ ∀ id buffer, Served (state.handleResponse id buffer)

theorem Tracked.reliable (tracked : Tracked state) : Reliable state :=
  ⟨tracked.served, fun id _ => (tracked.complete id _).served⟩

/-- With an id that is pending the new callback runs at once and again with the response. -/
theorem duplicate_not_reliable {old : Nat} (up : state.connected = true)
    (pending : state.responses.lookup state.sequence = some old) :
    ¬ Reliable (state.callMethod true) := by
  intro reliable
  have served := reliable.2 state.sequence []
  rw [callMethod_duplicate up pending] at served
  unfold handleResponse at served
  rw [@complete_some _ state.sequence state.ids.length _
    (by rw [FiniteMap.lookup_insert_eq, if_pos rfl])] at served
  have twice := served.once
  unfold done at twice
  simp only [map_append, map_cons, map_nil, append_assoc,
    cons_append, nil_append] at twice
  exact absurd (nodup_append.mp twice).2.1 (by simp)

theorem Tracked.spoiled (tracked : Tracked state) (event : ClientEvent)
    (disorderly : ¬ Orderly state event) : ¬ Reliable (state.step event) := by
  have pending : (∃ id, state.responses.lookup id ≠ none) →
      ∃ call, call < state.ids.length ∧ call ∉ state.done := by
    rintro ⟨id, present⟩
    obtain ⟨call, found⟩ := Option.ne_none_iff_exists'.mp present
    have waiting := (tracked.outstanding id call).mp found
    exact ⟨call, (List.getElem?_eq_some_iff.mp waiting.1).1, waiting.2⟩
  cases event with
  | callMethod sent =>
    unfold Orderly at disorderly
    rw [Classical.not_imp] at disorderly
    obtain ⟨up, refused⟩ := disorderly
    change ¬ Reliable (state.callMethod sent)
    cases sent with
    | true =>
      cases present : state.responses.lookup state.sequence with
      | some old => exact duplicate_not_reliable up present
      | none =>
        have closed : state.closed = true := by
          by_contra live
          exact refused ⟨present, Bool.eq_false_iff.mpr live⟩
        intro reliable
        have served := reliable.1
        rw [callMethod_sent up present] at served
        apply tracked.fresh
        apply served.settled closed
        rw [length_append, length_singleton]
        omega
    | false =>
      rw [if_neg Bool.false_ne_true] at refused
      obtain ⟨call, below, waiting⟩ := pending (not_forall.mp refused)
      intro reliable
      have served := reliable.1
      rw [callMethod_unsent up] at served
      have finished := served.settled rfl call (by
        change call < (state.ids ++ [state.sequence]).length
        rw [length_append, length_singleton]
        omega)
      rw [show (state.rejectCall false false true).done = state.done ++ [state.ids.length] from
        done_runCallback state _ _] at finished
      rcases mem_append.mp finished with before | last
      · exact waiting before
      · rw [mem_singleton.mp last] at below
        omega
  | channelClose =>
    obtain ⟨call, below, waiting⟩ := pending (not_forall.mp disorderly)
    exact fun reliable => waiting (reliable.1.settled rfl call below)
  | response id buffer | failedResponse id buffer | canceledResponse id buffer
  | notImplemented id => exact absurd trivial disorderly

theorem tracked_initial (sequence : UInt32) : Tracked (initial sequence) := by
  refine ⟨nodup_nil, ?_, ?_, ?_, fun _ _ => rfl⟩
  · intro call member
    cases member
  · intro id call
    constructor
    · intro found
      cases found
    · intro found
      cases found.1
  · intro call member
    cases member

end Invariant

/-- The callbacks of a run run once each and are all run, whatever message comes next, exactly
if no id is used while it is pending and the channel closes with no call outstanding. -/
theorem calls_served_iff (sequence : UInt32) (events : List ClientEvent) :
    (∀ count, Served (run step (initial sequence) (events.take count)) ∧ ∀ id buffer,
      Served (run step (initial sequence) (events.take count ++ [.response id buffer]))) ↔
      Permitted step Orderly (initial sequence) events := by
  rw [← @always_iff_permitted _ _ step Orderly Tracked Reliable (fun _ => Tracked.reliable)
    (fun _ event tracked => tracked.step event) (fun _ event tracked => tracked.spoiled event)
    (initial sequence) events (tracked_initial sequence)]
  simp only [run_append]
  rfl

/-- A call is sent and the channel closes: its callback does not run. -/
theorem outstanding_call_lost_at_close :
    ¬ Served (run step (initial 0) [.callMethod true, .channelClose]) := by
  intro served
  exact absurd (served.settled rfl 0 (by decide)) (by decide)

end Client

end OpenLighting.RpcChannel
