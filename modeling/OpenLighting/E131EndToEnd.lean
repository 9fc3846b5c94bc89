import OpenLighting.E131Delivery

namespace OpenLighting.E131

open TransitionSystem FiniteMap

/-- A sender and a receiver of its packets, which get no packets from others. -/
structure Link where
  sender : E131Node
  receiver : E131Node

/-- The calls of the sender, and when their packets arrive. -/
inductive Call where
  | setSourceName (universeId : Nat) (source : List UInt8)
  | sendDMX (now : Int) (universeId : UInt16) (buffer : DmxBuffer)
      (priority : { priority : UInt8 // priority ≤ maxPriority })
  | streamTerminated (now : Int) (universeId : UInt16) (buffer : DmxBuffer) (priority : UInt8)

namespace Link

def handler (link : Link) (universeId : Nat) : Option (UniverseHandler CID) :=
  link.receiver.inflator.handlers.lookup universeId

/-- The sender has gone on, and what it sent arrives. -/
def deliver (link : Link) (now : Int) (result : E131Node × Option Datagram) : Link :=
  ⟨result.1,
    match result.2 with
    | none => link.receiver
    | some datagram => link.receiver.receive now datagram⟩

def call (link : Link) : Call → Option Link
  | .setSourceName universeId source =>
    some { link with sender := link.sender.setSourceName universeId source }
  | .sendDMX now universeId buffer priority =>
    some (link.deliver now (link.sender.sendDMX universeId buffer priority false))
  | .streamTerminated now universeId buffer priority =>
    (link.sender.streamTerminated universeId buffer priority).map (link.deliver now)

/-- A call. Nothing comes after a call that does not return. -/
def step (state : Option Link) (call : Call) : Option Link :=
  state.bind (fun link => link.call call)

/-- A new sender, and a receiver with some handlers. -/
def initial (sender receiver : CID) (useRev2 draft ignorePreview : Bool)
    (handlers : List (Nat × DmxBuffer × Option UInt8)) : Link :=
  ⟨.new sender useRev2 ignorePreview,
    handlers.foldl (fun node handler => node.setHandler handler.1 handler.2.1 handler.2.2)
      (.new receiver draft ignorePreview)⟩

/-- The receiver does not track the sender for a universe. -/
def Untracked (link : Link) (universeId : Nat) : Prop :=
  ∀ handler ∈ link.handler universeId, ∀ source ∈ handler.sources, source.cid ≠ link.sender.cid

/-- What a call should lead to. -/
def Followed (before after : Link) : Call → Prop
  | .setSourceName _ _ => True
  | .sendDMX _ universeId buffer priority =>
    (before.sender.sendDMX universeId buffer priority false).2.isSome →
      ∀ handler ∈ after.handler universeId.toNat, handler.buffer.slots = buffer.slots ∧
        ∀ active ∈ handler.priority, active = priority
  | .streamTerminated _ universeId _ _ => after.Untracked universeId.toNat

/-- A call returns and is followed. -/
def Meets (state : Option Link) (call : Call) : Prop :=
  ∃ before after, state = some before ∧ before.call call = some after ∧
    Followed before after call

/-- Where a stream is terminated, the final standard is used and the priority is not too high; or
the receiver does not track the sender, and there are no slots if the draft is used. -/
def Terminable (state : Option Link) : Call → Prop
  | .streamTerminated _ universeId buffer priority =>
    ∃ link, state = some link ∧
      (link.sender.useRev2 = false ∧ priority ≤ maxPriority ∨
        link.Untracked universeId.toNat ∧ (link.sender.useRev2 = true → buffer.slots = []))
  | _ => True

/-- The receiver has handlers where there is a multicast group, and they track nobody but the
sender, whose next sequence number is next for them too. -/
structure Synced (link : Link) : Prop where
  group : ∀ universeId, ∀ handler ∈ link.handler universeId, (universeIP universeId).isSome
  alone : ∀ universeId, ∀ handler ∈ link.handler universeId,
    handler.Alone link.sender.cid (link.sender.next universeId)

end Link

section Calls
variable {link after : Link}

theorem receive_handlers {node : E131Node} {now : Int} {datagram : Datagram}
    {message : DMPMessage CID} (messages : datagramMessages datagram.bytes = [message])
    (universeId : Nat) :
    (node.receive now datagram).inflator.handlers.lookup universeId =
      if universeId = message.header.universeId.toNat then
        (node.inflator.handlers.lookup universeId).map (fun handler =>
          handler.handle node.inflator.ignorePreview now message)
      else node.inflator.handlers.lookup universeId := by
  unfold E131Node.receive
  rw [messages, List.foldl_cons, List.foldl_nil, DMPE131Inflator.handlePDUData]
  by_cases same : universeId = message.header.universeId.toNat
  · rw [if_pos same, same]
    cases known : node.inflator.handlers.lookup message.header.universeId.toNat with
    | none => exact known
    | some handler => exact AList.lookup_insert _
  · rw [if_neg same]
    cases known : node.inflator.handlers.lookup message.header.universeId.toNat with
    | none => rfl
    | some handler => exact AList.lookup_insert_ne same

/-- It is enough to look at the universe of a call. -/
theorem Link.Synced.change {universeId : Nat} (synced : link.Synced)
    (same : after.sender.cid = link.sender.cid)
    (others : ∀ other ≠ universeId, after.handler other = link.handler other ∧
      after.sender.next other = link.sender.next other)
    (here : ∀ handler ∈ after.handler universeId, (link.handler universeId).isSome ∧
      handler.Alone link.sender.cid (after.sender.next universeId)) : after.Synced := by
  constructor
  · intro other handler member
    by_cases equal : other = universeId
    · rw [equal] at member ⊢
      obtain ⟨before, known⟩ := Option.isSome_iff_exists.mp (here handler member).1
      exact synced.group universeId before known
    · rw [(others other equal).1] at member
      exact synced.group other handler member
  · intro other handler member
    rw [same]
    by_cases equal : other = universeId
    · rw [equal] at member ⊢
      exact (here handler member).2
    · rw [(others other equal).1] at member
      rw [(others other equal).2]
      exact synced.alone other handler member

/-- Another sequence number does not matter where nothing is tracked. -/
theorem UniverseHandler.Alone.of_next {handler : UniverseHandler CID} {cid : CID}
    {next other : Option UInt8} (alone : handler.Alone cid next)
    (kept : ∀ sequence, next = some sequence → other = some sequence) :
    handler.Alone cid other := by
  rcases alone with idle | ⟨source, one, same, known⟩
  · exact .inl idle
  · exact .inr ⟨source, one, same, kept _ known⟩

theorem Link.Synced.setSourceName (synced : link.Synced) (universeId : Nat)
    (source : List UInt8) :
    Link.Synced { link with sender := link.sender.setSourceName universeId source } := by
  refine @Link.Synced.change link { link with sender := link.sender.setSourceName universeId source }
    universeId synced rfl ?_ ?_
  · intro other different
    refine ⟨rfl, ?_⟩
    unfold E131Node.setSourceName E131Node.next
    rw [AList.lookup_insert_ne different]
  · intro handler member
    change link.handler universeId = some handler at member
    refine ⟨by rw [member]; rfl, ?_⟩
    apply (synced.alone universeId handler member).of_next
    intro sequence known
    unfold E131Node.next at known ⊢
    obtain ⟨settings, found, rfl⟩ := Option.map_eq_some_iff.mp known
    unfold E131Node.setSourceName
    rw [AList.lookup_insert, found]
    rfl

/-- What a packet does to the handlers of the receiver. -/
theorem deliver_handler {node : E131Node} {datagram : Datagram} {cid : CID} {header : E131Header}
    {address data : List UInt8}
    (messages : datagramMessages datagram.bytes = [rangeMessage cid header address data])
    (now : Int) (universeId : Nat) :
    (link.deliver now (node, some datagram)).handler universeId =
      if universeId = header.universeId.toNat then
        (link.handler universeId).map (fun handler =>
          handler.handle link.receiver.inflator.ignorePreview now
            (rangeMessage cid header address data))
      else link.handler universeId := receive_handlers messages universeId

/-- Without a packet only the sequence number can change. -/
theorem Link.Synced.silent {node : E131Node} {universeId : Nat} (synced : link.Synced) (now : Int)
    (same : node.cid = link.sender.cid)
    (others : ∀ other ≠ universeId, node.next other = link.sender.next other)
    (kept : ∀ sequence, link.sender.next universeId = some sequence →
      node.next universeId = some sequence) : (link.deliver now (node, none)).Synced := by
  refine @Link.Synced.change link (link.deliver now (node, none)) universeId synced same ?_ ?_
  · exact fun other different => ⟨rfl, others other different⟩
  · intro handler member
    change link.handler universeId = some handler at member
    refine ⟨by rw [member]; rfl, ?_⟩
    exact (synced.alone universeId handler member).of_next kept

/-- A packet with data keeps the two in step, and the receiver has its data. -/
theorem Link.Synced.sendDMX (synced : link.Synced) (now : Int) (universeId : UInt16)
    (buffer : DmxBuffer) {priority : UInt8} (allowed : priority ≤ maxPriority) :
    (link.deliver now (link.sender.sendDMX universeId buffer priority false)).Synced ∧
      ((link.sender.sendDMX universeId buffer priority false).2.isSome →
        ∀ handler ∈ (link.deliver now
            (link.sender.sendDMX universeId buffer priority false)).handler universeId.toNat,
          handler.buffer.slots = buffer.slots ∧
            ∀ active ∈ handler.priority, active = priority) := by
  have others (other : Nat) (different : other ≠ universeId.toNat) :=
    @sendDMX_next_of_ne link.sender universeId buffer priority other different
  have same : (link.sender.sendDMX universeId buffer priority false).1.cid = link.sender.cid := rfl
  have failed := @sendDMX_failed link.sender universeId buffer priority
  have succeeded (datagram : Datagram) :=
    @sendDMX_sent link.sender universeId buffer priority datagram
  generalize link.sender.sendDMX universeId buffer priority false = result at *
  obtain ⟨node, sent⟩ := result
  cases sent with
  | none =>
    refine ⟨synced.silent now same others ?_, fun some => by cases some⟩
    intro sequence known
    rw [failed rfl, known]
    rfl
  | some datagram =>
    obtain ⟨header, count, data, messages, goes, shown, rfl, rfl, sequence, code, slots, next⟩ :=
      succeeded datagram rfl
    -- The handler of the universe, before and after.
    have reached : ∀ handler ∈ (link.deliver now (node, some datagram)).handler
        header.universeId.toNat, ∃ before ∈ link.handler header.universeId.toNat,
          handler.Alone link.sender.cid (some (header.sequence + 1)) ∧
            handler.buffer.slots = buffer.slots ∧
            ∀ active ∈ handler.priority, active = header.priority := by
      intro handler member
      rw [deliver_handler messages, if_pos rfl] at member
      obtain ⟨before, known, rfl⟩ := Option.map_eq_some_iff.mp member
      obtain ⟨_, rfl, result⟩ := @handle_data before link.sender.cid _ header
        link.receiver.inflator.ignorePreview count data buffer.slots
        (synced.alone _ before known) now goes shown allowed sequence code slots buffer.bounded
      exact ⟨before, known, result⟩
    constructor
    · refine @Link.Synced.change link (link.deliver now (node, some datagram))
        header.universeId.toNat synced same ?_ ?_
      · intro other different
        rw [deliver_handler messages]
        exact ⟨if_neg different, others other different⟩
      · intro handler member
        obtain ⟨before, known, alone, _⟩ := reached handler member
        change _ ∧ handler.Alone link.sender.cid (node.next header.universeId.toNat)
        rw [next]
        exact ⟨Option.isSome_iff_exists.mpr ⟨before, known⟩, alone⟩
    · intro _ handler member
      obtain ⟨_, _, _, content⟩ := reached handler member
      exact content

theorem alone_untracked {handler : UniverseHandler CID} {cid : CID} {next : Option UInt8}
    (alone : handler.Alone cid next) (untracked : ∀ source ∈ handler.sources, source.cid ≠ cid)
    (other : Option UInt8) : handler.Alone cid other := by
  rcases alone with idle | ⟨source, one, same, _⟩
  · exact .inl idle
  · rw [one] at untracked
    exact absurd same (untracked source (List.mem_singleton_self source))

/-- Where the sender is not tracked, its sequence number does not matter. -/
theorem Link.Synced.untracked {universeId : Nat} (synced : link.Synced)
    (same : after.sender.cid = link.sender.cid)
    (others : ∀ other ≠ universeId, after.handler other = link.handler other ∧
      after.sender.next other = link.sender.next other)
    (here : ∀ handler ∈ after.handler universeId, (link.handler universeId).isSome ∧
      ∃ next, handler.Alone link.sender.cid next)
    (untracked : after.Untracked universeId) : after.Synced := by
  apply synced.change same others
  intro handler member
  obtain ⟨known, next, alone⟩ := here handler member
  have missing := untracked handler member
  rw [same] at missing
  exact ⟨known, alone_untracked alone missing _⟩

section End
variable {node : E131Node} {datagram : Datagram} {header : E131Header} {count : UInt16}
  {data : List UInt8}

/-- The end of a stream leaves nothing tracked. -/
theorem Link.Synced.deliver_end (synced : link.Synced) (now : Int)
    (messages : datagramMessages datagram.bytes =
      [rangeMessage link.sender.cid header (packTwoByteRange 0 1 count) data])
    (ends : header.streamTerminated = true) (shown : header.previewData = false)
    (allowed : header.priority ≤ maxPriority)
    (sequence : header.sequence = (link.sender.next header.universeId.toNat).getD 0) :
    ∀ handler ∈ (link.deliver now (node, some datagram)).handler header.universeId.toNat,
      (link.handler header.universeId.toNat).isSome ∧ handler.sources = [] ∧
        handler.activePriority = 0 := by
  intro handler member
  rw [deliver_handler messages, if_pos rfl] at member
  obtain ⟨before, known, rfl⟩ := Option.map_eq_some_iff.mp member
  have alone := synced.alone _ before known
  exact ⟨Option.isSome_iff_exists.mpr ⟨before, known⟩,
    handle_end alone now ends shown allowed sequence⟩

/-- A packet with a priority that is too high does nothing. -/
theorem deliver_refused (now : Int) {cid : CID} {address : List UInt8}
    (messages : datagramMessages datagram.bytes = [rangeMessage cid header address data])
    (refused : maxPriority < header.priority) (universeId : Nat) :
    (link.deliver now (node, some datagram)).handler universeId = link.handler universeId := by
  have nothing (handler : UniverseHandler CID) :
      handler.handle link.receiver.inflator.ignorePreview now
        (rangeMessage cid header address data) = handler := by
    unfold UniverseHandler.handle
    rw [rangeMessage_dropped _ _ refused]
  rw [deliver_handler messages]
  simp only [nothing, Option.map_id', ite_self]

end End

/-- With the final standard the end of a stream is noticed if its priority is not too high. -/
theorem Link.Synced.streamTerminated_final (synced : link.Synced) (now : Int)
    (universeId : UInt16) (buffer : DmxBuffer) (priority : UInt8)
    (final : link.sender.useRev2 = false) :
    ∃ after, link.call (.streamTerminated now universeId buffer priority) = some after ∧
      (after.Untracked universeId.toNat ↔
        priority ≤ maxPriority ∨ link.Untracked universeId.toNat) ∧
      (after.Untracked universeId.toNat → after.Synced) := by
  obtain ⟨node, sent, returned, failed, packet⟩ :=
    @OpenLighting.E131.streamTerminated_final link.sender universeId buffer priority final
  obtain ⟨same, _, others⟩ := streamTerminated_kept returned
  refine ⟨link.deliver now (node, sent), ?_, ?_⟩
  · show (link.sender.streamTerminated universeId buffer priority).map (link.deliver now) = _
    rw [returned]
    rfl
  cases sent with
  | none =>
    -- There is no group for the universe, so nobody listens.
    have absent (handler : UniverseHandler CID) :
        handler ∉ link.handler universeId.toNat := by
      intro member
      have group := synced.group _ handler member
      rw [failed rfl] at group
      cases group
    have untracked : link.Untracked universeId.toNat :=
      fun handler member => absurd member (absent handler)
    have still : (link.deliver now (node, none)).Untracked universeId.toNat :=
      fun handler member => absurd member (absent handler)
    refine ⟨⟨fun _ => .inr untracked, fun _ => still⟩, ?_⟩
    apply @Link.Synced.untracked link (link.deliver now (node, none)) universeId.toNat synced same
    · exact fun other different => ⟨rfl, others other different⟩
    · exact fun handler member => absurd member (absent handler)
  | some datagram =>
    obtain ⟨header, count, data, messages, ends, shown, rfl, rfl, sequence⟩ := packet datagram rfl
    have elsewhere (other : Nat) (different : other ≠ header.universeId.toNat) :
        (link.deliver now (node, some datagram)).handler other = link.handler other ∧
          node.next other = link.sender.next other := by
      rw [deliver_handler messages]
      exact ⟨if_neg different, others other different⟩
    by_cases allowed : header.priority ≤ maxPriority
    · have ended := @Link.Synced.deliver_end link node datagram header count data synced now
        messages ends shown allowed sequence
      have untracked : (link.deliver now (node, some datagram)).Untracked
          header.universeId.toNat := by
        intro handler member source tracked
        rw [(ended handler member).2.1] at tracked
        cases tracked
      refine ⟨⟨fun _ => .inl allowed, fun _ => untracked⟩, ?_⟩
      apply synced.untracked same elsewhere
      exact fun handler member => ⟨(ended handler member).1, none, .inl (ended handler member).2⟩
    · have ignored := @deliver_refused link node datagram header data now _ _ messages
        (UInt8.not_le.mp allowed) header.universeId.toNat
      have untracked : (link.deliver now (node, some datagram)).Untracked
          header.universeId.toNat ↔ link.Untracked header.universeId.toNat := by
        unfold Link.Untracked
        rw [ignored, show (link.deliver now (node, some datagram)).sender.cid = link.sender.cid
          from same]
      refine ⟨by simp [untracked, allowed], ?_⟩
      apply synced.untracked same elsewhere
      intro handler member
      rw [ignored] at member
      exact ⟨Option.isSome_iff_exists.mpr ⟨handler, member⟩, _, synced.alone _ handler member⟩

/-- With the draft nothing is sent, and the call does not return if there are slots. -/
theorem call_streamTerminated_draft (now : Int) (universeId : UInt16) (buffer : DmxBuffer)
    (priority : UInt8) (draft : link.sender.useRev2 = true) :
    link.call (.streamTerminated now universeId buffer priority) =
      if buffer.slots = [] then some link else none := by
  show (link.sender.streamTerminated universeId buffer priority).map (link.deliver now) = _
  rw [streamTerminated_draft draft]
  by_cases empty : buffer.slots = []
  · rw [if_pos empty, if_pos empty]
    rfl
  · rw [if_neg empty, if_neg empty]
    rfl

theorem meets_some {call : Call} : Link.Meets (some link) call ↔
    ∃ after, link.call call = some after ∧ Link.Followed link after call := by
  constructor
  · rintro ⟨before, after, same, returned, followed⟩
    rw [← Option.some.inj same] at returned followed
    exact ⟨after, returned, followed⟩
  · exact fun ⟨after, returned, followed⟩ => ⟨link, after, rfl, returned, followed⟩

theorem terminable_some {now : Int} {universeId : UInt16} {buffer : DmxBuffer} {priority : UInt8} :
    Link.Terminable (some link) (.streamTerminated now universeId buffer priority) ↔
      link.sender.useRev2 = false ∧ priority ≤ maxPriority ∨
        link.Untracked universeId.toNat ∧ (link.sender.useRev2 = true → buffer.slots = []) := by
  constructor
  · rintro ⟨other, same, either⟩
    rwa [← Option.some.inj same] at either
  · exact fun either => ⟨link, rfl, either⟩

/-- Where a call is terminable, the two stay in step; and just there it is followed. -/
theorem Link.Synced.call (synced : link.Synced) (call : Call) :
    (Link.Meets (some link) call ↔ Link.Terminable (some link) call) ∧
      (Link.Terminable (some link) call → ∃ after, link.call call = some after ∧ after.Synced) := by
  cases call with
  | setSourceName universeId source =>
    exact ⟨⟨fun _ => trivial, fun _ => ⟨link, _, rfl, rfl, trivial⟩⟩,
      fun _ => ⟨_, rfl, synced.setSourceName universeId source⟩⟩
  | sendDMX now universeId buffer priority =>
    have result := synced.sendDMX now universeId buffer priority.property
    exact ⟨⟨fun _ => trivial, fun _ => ⟨link, _, rfl, rfl, result.2⟩⟩,
      fun _ => ⟨_, rfl, result.1⟩⟩
  | streamTerminated now universeId buffer priority =>
    rw [meets_some, terminable_some]
    by_cases draft : link.sender.useRev2 = true
    · have returned := @call_streamTerminated_draft link now universeId buffer priority draft
      simp only [returned, draft, true_implies, Bool.true_eq_false, false_and, false_or]
      by_cases empty : buffer.slots = []
      · simp only [empty, if_true, Option.some.injEq, exists_eq_left', and_true]
        exact ⟨Iff.rfl, fun _ => synced⟩
      · simp [empty]
    · have final : link.sender.useRev2 = false := by simpa using draft
      obtain ⟨after, returned, untracked, still⟩ :=
        synced.streamTerminated_final now universeId buffer priority final
      simp only [returned, final, Option.some.injEq, exists_eq_left', true_and, false_implies,
        Bool.false_eq_true, and_true]
      exact ⟨untracked, fun either => still (untracked.mpr either)⟩

end Calls

/-- Handlers that were just set track nobody. -/
theorem setHandlers_idle {node : E131Node} (handlers : List (Nat × DmxBuffer × Option UInt8))
    (idle : ∀ universeId, ∀ handler ∈ node.inflator.handlers.lookup universeId,
      (universeIP universeId).isSome ∧ handler.sources = [] ∧ handler.activePriority = 0) :
    ∀ universeId, ∀ handler ∈ (handlers.foldl (fun node handler =>
        node.setHandler handler.1 handler.2.1 handler.2.2) node).inflator.handlers.lookup universeId,
      (universeIP universeId).isSome ∧ handler.sources = [] ∧ handler.activePriority = 0 := by
  induction handlers generalizing node with
  | nil => exact idle
  | cons first rest ih =>
    apply ih
    intro universeId handler member
    unfold E131Node.setHandler at member
    dsimp only at member
    by_cases group : (universeIP first.1).isSome = true
    · rw [if_pos group] at member
      unfold DMPE131Inflator.setHandler at member
      rw [lookup_insert_eq] at member
      split at member
      · rename_i same
        rw [same]
        refine ⟨group, ?_⟩
        cases known : node.inflator.handlers.lookup first.1 with
        | none =>
          rw [known] at member
          rw [← Option.some.inj member]
          exact ⟨rfl, rfl⟩
        | some before =>
          rw [known] at member
          rw [← Option.some.inj member]
          exact (idle first.1 before known).2
      · exact idle universeId handler member
    · rw [if_neg group] at member
      exact idle universeId handler member

/-- When the calls of a sender are answered by packets that arrive in order, the receiver has the
slots and the priority that were sent, and does not track the sender after the end of its stream,
exactly if streams are only terminated with the final standard and a priority that is not too high,
or where they are not tracked and, with the draft, without slots. -/
theorem streams_followed_iff (sender receiver : CID) (useRev2 draft ignorePreview : Bool)
    (handlers : List (Nat × DmxBuffer × Option UInt8)) (calls : List Call) :
    (∀ past call future, calls = past ++ call :: future →
        Link.Meets (run Link.step
          (some (Link.initial sender receiver useRev2 draft ignorePreview handlers)) past) call) ↔
      Permitted Link.step Link.Terminable
        (some (Link.initial sender receiver useRev2 draft ignorePreview handlers)) calls := by
  have synced : (Link.initial sender receiver useRev2 draft ignorePreview handlers).Synced := by
    have idle := @setHandlers_idle (.new receiver draft ignorePreview) handlers
      (fun _ _ none => by cases none)
    constructor
    · exact fun universeId handler member => (idle universeId handler member).1
    · exact fun universeId handler member => .inl (idle universeId handler member).2
  apply @steps_iff_permitted _ _ Link.step Link.Terminable Link.Meets
    (fun state => ∃ link, state = some link ∧ link.Synced)
  · rintro _ call ⟨link, rfl, synced⟩ terminable
    exact (synced.call call).2 terminable
  · rintro _ call ⟨link, rfl, synced⟩
    exact (synced.call call).1
  · exact ⟨_, rfl, synced⟩

/-- A sender that uses the draft, and a receiver with a handler for universe 1. -/
def draftLink : Link :=
  .initial ⟨List.replicate 16 1, rfl⟩ ⟨List.replicate 16 2, rfl⟩ true true true
    [(1, .new, some 0)]

/-- One slot, and the end of the stream. -/
def draftCalls : List Call :=
  [.sendDMX 0 1 (.holding [10]) ⟨100, by decide⟩, .streamTerminated 5 1 .new 100]

theorem draft_stream_stays_tracked :
    ∃ link, run Link.step (some draftLink) draftCalls = some link ∧
      (link.handler 1).map (fun handler => handler.sources.map DmxSource.cid) =
        some [draftLink.sender.cid] := by
  refine ⟨_, rfl, ?_⟩
  decide +kernel

end OpenLighting.E131
