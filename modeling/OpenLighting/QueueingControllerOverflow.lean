import OpenLighting.QueueingControllerAttribution

/- What the replies to one request come to. -/
namespace OpenLighting.QueueingController

open OpenLighting.Rdm TransitionSystem List

/-- The responses among the replies to a request. -/
def parts (replies : List Reply) : List Command := replies.filterMap Reply.response

/-- Everything the responses carry. -/
def gathered (replies : List Reply) : List UInt8 := (parts replies).flatMap Command.paramData

/-- All of one class, GET or SET. -/
def Uniform (responses : List Command) : Prop :=
  (∀ response ∈ responses, response.commandClass = .getCommandResponse) ∨
    ∀ response ∈ responses, response.commandClass = .setCommandResponse

/-- The reply asks for the rest of an overflowed response. -/
def Overflows (reply : Reply) : Prop :=
  reply.status = .completedOk ∧
    ∃ response, reply.response = some response ∧ response.portId = ackOverflow

/-- ACK_OVERFLOW responses with one of another type behind them, that fit together. -/
structure Reassembles (front : List Reply) (last : Reply) (final : Command) : Prop where
  overflow : ∀ reply ∈ front, Overflows reply
  completed : last.status = .completedOk
  answered : last.response = some final
  ends : final.portId ≠ ackOverflow
  source : ∀ part ∈ parts front, part.source = final.source
  uniform : Uniform (parts (front ++ [last]))
  small : (gathered (front ++ [last])).length ≤ maxOverflowSize

/-- One response that is not an ACK_OVERFLOW, of any class and size. -/
structure Single (front : List Reply) (last : Reply) (final : Command) : Prop where
  alone : front = []
  completed : last.status = .completedOk
  answered : last.response = some final
  ends : final.portId ≠ ackOverflow

/-- What the callback of a request should be run with. Nothing is said about the response type
where a NACK or an ACK_TIMER ends an overflowed response, or about the response where the
controller below reports success without one. -/
structure Delivered (front : List Reply) (last : Reply) (outcome : Reply) : Prop where
  packets : outcome.packets = (front ++ [last]).flatMap Reply.packets
  own : ∀ response, outcome.response = some response →
    response.paramData = gathered (front ++ [last])
  whole : ∀ final, Reassembles front last final → outcome.status = .completedOk ∧
    ∃ response, outcome.response = some response ∧
      (front = [] ∨ final.portId = ackType → response.portId = final.portId)
  single : ∀ final, Single front last final →
    outcome.status = .completedOk ∧ outcome.response = some final
  failed : (∀ final, ¬ Reassembles front last final) → (∀ final, ¬ Single front last final) →
    outcome.status ≠ .completedOk ∧
      (front = [] ∨ last.status ≠ .completedOk ∨ last.response ≠ none → outcome.response = none)

@[simp] theorem parts_append (first second : List Reply) :
    parts (first ++ second) = parts first ++ parts second := filterMap_append

@[simp] theorem parts_some {reply : Reply} {response : Command}
    (answered : reply.response = some response) : parts [reply] = [response] := by
  simp [parts, answered]

@[simp] theorem parts_none {reply : Reply} (answered : reply.response = none) :
    parts [reply] = [] := by
  simp [parts, answered]

theorem gathered_append (first second : List Reply) :
    gathered (first ++ second) = gathered first ++ gathered second := by
  simp [gathered]

theorem gathered_some {reply : Reply} {response : Command}
    (answered : reply.response = some response) : gathered [reply] = response.paramData := by
  simp [gathered, answered]

theorem gathered_none {reply : Reply} (answered : reply.response = none) :
    gathered [reply] = [] := by
  simp [gathered, answered]

/-- What `m_response` and `m_packets` are while more is asked for. -/
structure Collected (replies : List Reply) (held : Option Command) (packets : List (List UInt8)) :
    Prop where
  overflow : ∀ reply ∈ replies, Overflows reply
  packets : packets = replies.flatMap Reply.packets
  nothing : held = none ↔ replies = []
  data : ∀ whole, held = some whole → whole.paramData = gathered replies
  alike : ∀ whole, held = some whole → ∀ part ∈ parts replies,
    part.source = whole.source ∧ part.commandClass = whole.commandClass

section Progress
variable {replies front : List Reply} {reply last : Reply} {held : Option Command}
  {packets : List (List UInt8)}

theorem combineResponses_eq_some_iff (first second whole : Command) :
    combineResponses first second = some whole ↔
      first.paramData.length + second.paramData.length ≤ maxOverflowSize ∧
        first.source = second.source ∧ Uniform [first, second] ∧
        whole = { first with
          portId := ackType
          messageCount := second.messageCount
          paramData := first.paramData ++ second.paramData } := by
  unfold combineResponses Uniform
  simp only [forall_mem_cons, not_mem_nil, false_implies, implies_true, and_true]
  by_cases large : maxOverflowSize < first.paramData.length + second.paramData.length
  · simp [large]
  · have small := Nat.le_of_not_lt large
    by_cases differs : first.source = second.source
    · by_cases get : first.commandClass = .getCommandResponse ∧
        second.commandClass = .getCommandResponse
      · simp [small, large, differs, get, eq_comm]
      · by_cases set : first.commandClass = .setCommandResponse ∧
          second.commandClass = .setCommandResponse
        · simp [small, large, differs, set, eq_comm]
        · simp [large, differs, get, set]
    · simp [large, differs]

/-- What one reply can do: the status, the new `m_response`, and whether to ask again. -/
inductive Received (held : Option Command) (reply : Reply) :
    ResponseCode → Option Command → Bool → Prop where
  | failed (status : reply.status ≠ .completedOk) : Received held reply reply.status none false
  | missing (status : reply.status = .completedOk) (answered : reply.response = none) :
      Received held reply .invalidResponse held false
  | first (response : Command) (status : reply.status = .completedOk)
      (answered : reply.response = some response) (fresh : held = none) :
      Received held reply .completedOk (some response) (response.portId == ackOverflow)
  | combined (whole response both : Command) (status : reply.status = .completedOk)
      (answered : reply.response = some response) (kept : held = some whole)
      (combines : combineResponses whole response = some both) :
      Received held reply .completedOk (some both) (response.portId == ackOverflow)
  | uncombinable (whole response : Command) (status : reply.status = .completedOk)
      (answered : reply.response = some response) (kept : held = some whole)
      (combines : combineResponses whole response = none) :
      Received held reply .invalidResponse none false

theorem receive_received (held : Option Command) (reply : Reply) :
    Received held reply (World.receive held reply).1 (World.receive held reply).2.1
      (World.receive held reply).2.2 := by
  unfold World.receive
  by_cases status : reply.status = .completedOk
  · rw [if_pos status]
    cases answered : reply.response with
    | none => exact .missing status answered
    | some response =>
      cases held with
      | none => exact .first response status answered rfl
      | some whole =>
        dsimp only
        cases combines : combineResponses whole response with
        | none => exact .uncombinable whole response status answered rfl combines
        | some both => exact .combined whole response both status answered rfl combines
  · rw [if_neg status]
    exact .failed status

/-- The last reply so far. -/
theorem progressFrom_singleton (held : Option Command) (packets : List (List UInt8))
    (reply : Reply) : ∃ status response overflow, Received held reply status response overflow ∧
      progressFrom held packets [reply] =
        if overflow then .waiting response (packets ++ reply.packets)
        else .finished ⟨status, response, packets ++ reply.packets⟩ :=
  ⟨_, _, _, receive_received held reply, rfl⟩

/-- Behind what is finished there is nothing more to come. -/
theorem progressFrom_over (start : Option Command) (earlier : List (List UInt8))
    (finished : ∀ held packets, progressFrom start earlier replies ≠ .waiting held packets)
    (reply : Reply) : progressFrom start earlier (replies ++ [reply]) = .excess := by
  induction replies generalizing start earlier with
  | nil => exact absurd rfl (finished start earlier)
  | cons first rest ih =>
    unfold progressFrom at finished
    rw [cons_append, progressFrom]
    by_cases overflow : (World.receive start first).2.2 = true
    · simp only [overflow, ↓reduceIte] at finished ⊢
      exact ih _ _ finished
    · simp [overflow]

/-- A reply counts only while more is asked for. -/
theorem progress_append (counts : progress (replies ++ [reply]) ≠ .excess) : ∃ held packets,
    progress replies = .waiting held packets ∧
      progress (replies ++ [reply]) = progressFrom held packets [reply] := by
  by_contra finished
  apply counts
  apply progressFrom_over none []
  intro held packets waits
  exact finished ⟨held, packets, waits, progressFrom_append waits reply⟩

theorem collected_nil : Collected [] none [] := by
  constructor <;> simp [gathered, parts]

/-- The first ACK_OVERFLOW response is kept, a later one is put behind what is kept. -/
theorem Collected.append (collected : Collected replies held packets)
    {whole : Option Command} {later : List (List UInt8)}
    (waits : progressFrom held packets [reply] = .waiting whole later) :
    Collected (replies ++ [reply]) whole later := by
  obtain ⟨status, response, overflow, received, next⟩ := progressFrom_singleton held packets reply
  rw [waits] at next
  have behind (part : Command) (member : part ∈ parts (replies ++ [reply])) :
      part ∈ parts replies ∨ reply.response = some part := by
    simpa [parts] using member
  have asks (part : Command) (completed : reply.status = .completedOk)
      (answered : reply.response = some part) (more : part.portId = ackOverflow) :
      ∀ other ∈ replies ++ [reply], Overflows other := by
    intro other member
    rcases mem_append.mp member with before | last
    · exact collected.overflow other before
    · rw [mem_singleton.mp last]
      exact ⟨completed, part, answered, more⟩
  have joined : packets ++ reply.packets = (replies ++ [reply]).flatMap Reply.packets := by
    rw [collected.packets, flatMap_append, flatMap_singleton]
  cases received with
  | failed | missing | uncombinable => cases next
  | first part completed answered fresh =>
    split at next
    · rename_i more
      cases next
      have empty : replies = [] := collected.nothing.mp fresh
      subst empty
      refine ⟨asks part completed answered (beq_iff_eq.mp more), joined, by simp, ?_, ?_⟩
      · rintro _ ⟨rfl⟩
        exact (gathered_some answered).symm
      · rintro _ ⟨rfl⟩ other member
        rw [nil_append, parts_some answered, mem_singleton] at member
        rw [member]
        exact ⟨rfl, rfl⟩
    · cases next
  | combined before part both completed answered kept combines =>
    split at next
    · rename_i more
      cases next
      obtain ⟨-, source, uniform, rfl⟩ := (combineResponses_eq_some_iff _ _ _).mp combines
      have same : part.commandClass = before.commandClass := by
        unfold Uniform at uniform
        simp only [forall_mem_cons] at uniform
        rcases uniform with get | set
        · rw [get.1, get.2.1]
        · rw [set.1, set.2.1]
      refine ⟨asks part completed answered (beq_iff_eq.mp more), joined, by simp, ?_, ?_⟩
      · rintro _ ⟨rfl⟩
        rw [gathered_append, gathered_some answered, ← collected.data before kept]
      · rintro _ ⟨rfl⟩ other member
        rcases behind other member with earlier | last
        · exact collected.alike before kept other earlier
        · rw [answered] at last
          cases last
          exact ⟨source.symm, same⟩
    · cases next

/-- While more is asked for, all replies have been ACK_OVERFLOW responses that fit together. -/
theorem collected_of_waiting (waits : progress replies = .waiting held packets) :
    Collected replies held packets := by
  induction replies using List.reverseRecOn generalizing held packets with
  | nil =>
    cases waits
    exact collected_nil
  | append_singleton rest last ih =>
    obtain ⟨before, earlier, waited, next⟩ := progress_append (by rw [waits]; nofun)
    rw [next] at waits
    exact (ih waited).append waits

/-- What is kept can be combined with the last response exactly if all of them fit together. -/
theorem Collected.combines_iff {before part : Command}
    (collected : Collected front (some before) packets) (completed : last.status = .completedOk)
    (answered : last.response = some part) (ends : part.portId ≠ ackOverflow) :
    (∃ both, combineResponses before part = some both) ↔ Reassembles front last part := by
  have data : gathered (front ++ [last]) = before.paramData ++ part.paramData := by
    rw [gathered_append, gathered_some answered, collected.data before rfl]
  have all : parts (front ++ [last]) = parts front ++ [part] := by
    rw [parts_append, parts_some answered]
  constructor
  · rintro ⟨both, combines⟩
    obtain ⟨small, source, uniform, -⟩ := (combineResponses_eq_some_iff _ _ _).mp combines
    refine ⟨collected.overflow, completed, answered, ends, ?_, ?_, ?_⟩
    · intro other member
      rw [(collected.alike before rfl other member).1, source]
    · rw [all]
      rcases uniform with get | set
      · left
        intro other member
        rcases mem_append.mp member with earlier | final
        · rw [(collected.alike before rfl other earlier).2]
          exact get before mem_cons_self
        · exact get other (mem_cons_of_mem before final)
      · right
        intro other member
        rcases mem_append.mp member with earlier | final
        · rw [(collected.alike before rfl other earlier).2]
          exact set before mem_cons_self
        · exact set other (mem_cons_of_mem before final)
    · rw [data, length_append]
      exact small
  · intro whole
    have given : front ≠ [] := fun empty => nomatch collected.nothing.mpr empty
    obtain ⟨reply, member⟩ := exists_mem_of_ne_nil front given
    obtain ⟨-, first, found, -⟩ := collected.overflow reply member
    have within : first ∈ parts front := mem_filterMap.mpr ⟨reply, member, found⟩
    obtain ⟨source, class'⟩ := collected.alike before rfl first within
    have small := whole.small
    rw [data, length_append] at small
    refine ⟨_, (combineResponses_eq_some_iff _ _ _).mpr ⟨small, ?_, ?_, rfl⟩⟩
    · rw [← source, whole.source first within]
    · have uniform := whole.uniform
      rw [all] at uniform
      rcases uniform with get | set
      · left
        simp only [forall_mem_cons]
        rw [← class']
        exact ⟨get first (mem_append_left _ within), get part (by simp), by simp⟩
      · right
        simp only [forall_mem_cons]
        rw [← class']
        exact ⟨set first (mem_append_left _ within), set part (by simp), by simp⟩

/-- The reply that ends a request decides what its callback is run with. -/
theorem Collected.delivered {outcome : Reply} (collected : Collected front held packets)
    (finished : progressFrom held packets [last] = .finished outcome) :
    Delivered front last outcome := by
  obtain ⟨status, response, overflow, received, next⟩ := progressFrom_singleton held packets last
  rw [finished] at next
  have joined : packets ++ last.packets = (front ++ [last]).flatMap Reply.packets := by
    rw [collected.packets, flatMap_append, flatMap_singleton]
  cases received with
  | failed failed =>
    cases next
    exact {
      packets := joined
      own := nofun
      whole := fun final whole => absurd whole.completed failed
      single := fun final single => absurd single.completed failed
      failed := fun _ _ => ⟨failed, fun _ => rfl⟩ }
  | missing completed answered =>
    cases next
    exact {
      packets := joined
      own := by
        intro whole kept
        rw [gathered_append, gathered_none answered, append_nil]
        exact collected.data whole kept
      whole := fun final whole => by
        have none := whole.answered
        rw [answered] at none
        cases none
      single := fun final single => by
        have none := single.answered
        rw [answered] at none
        cases none
      failed := by
        intro _ _
        refine ⟨nofun, ?_⟩
        rintro (empty | wrong | wrong)
        · exact collected.nothing.mpr empty
        · exact absurd completed wrong
        · exact absurd answered wrong }
  | first part completed answered fresh =>
    have empty : front = [] := collected.nothing.mp fresh
    split at next
    · cases next
    · rename_i ends
      cases next
      subst empty
      have single : Single [] last part :=
        ⟨rfl, completed, answered, fun more => ends (beq_iff_eq.mpr more)⟩
      exact {
        packets := joined
        own := by
          rintro _ ⟨rfl⟩
          exact (gathered_some answered).symm
        whole := fun final whole => by
          have same := whole.answered
          rw [answered] at same
          cases same
          exact ⟨rfl, part, rfl, fun _ => rfl⟩
        single := fun final single => by
          have same := single.answered
          rw [answered] at same
          cases same
          exact ⟨rfl, rfl⟩
        failed := fun _ none => absurd single (none part) }
  | combined before part both completed answered kept combines =>
    have given : front ≠ [] := fun empty => by
      rw [collected.nothing.mpr empty] at kept
      cases kept
    split at next
    · cases next
    · rename_i ends
      cases next
      subst kept
      have whole : Reassembles front last part :=
        (collected.combines_iff completed answered
          (fun more => ends (beq_iff_eq.mpr more))).mp ⟨_, combines⟩
      obtain ⟨-, -, -, rfl⟩ := (combineResponses_eq_some_iff _ _ _).mp combines
      exact {
        packets := joined
        own := by
          rintro _ ⟨rfl⟩
          rw [gathered_append, gathered_some answered, ← collected.data before rfl]
        whole := fun final whole => by
          have same := whole.answered
          rw [answered] at same
          cases same
          refine ⟨rfl, _, rfl, ?_⟩
          rintro (empty | ack)
          · exact absurd empty given
          · exact ack.symm
        single := fun final single => absurd single.alone given
        failed := fun none _ => absurd whole (none part) }
  | uncombinable before part completed answered kept combines =>
    cases next
    have given : front ≠ [] := fun empty => by
      rw [collected.nothing.mpr empty] at kept
      cases kept
    exact {
      packets := joined
      own := nofun
      whole := fun final whole => by
        have same := whole.answered
        rw [answered] at same
        cases same
        subst kept
        obtain ⟨both, made⟩ := (collected.combines_iff completed answered whole.ends).mpr whole
        rw [combines] at made
        cases made
      single := fun final single => absurd single.alone given
      failed := fun _ _ => ⟨nofun, fun _ => rfl⟩ }

theorem delivered_of_finished {outcome : Reply} (finished : progress replies = .finished outcome) :
    ∃ front last, replies = front ++ [last] ∧ Delivered front last outcome := by
  cases replies using List.reverseRecOn with
  | nil => cases finished
  | append_singleton front last =>
    obtain ⟨held, packets, waited, next⟩ := progress_append (by rw [finished]; nofun)
    rw [next] at finished
    exact ⟨front, last, rfl, (collected_of_waiting waited).delivered finished⟩

end Progress

end OpenLighting.QueueingController
