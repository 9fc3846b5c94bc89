import OpenLighting.FiniteMap
import OpenLighting.TransitionSystem

namespace OpenLighting.RpcChannel

open TransitionSystem List

/-- What the channel asks the service and the messages of its methods. `create` says whether
the prototypes give a request and a response. -/
structure Service (Method : Type) where
  findMethodByName : List UInt8 → Option Method
  create : Method → Bool
  parseFromString : Method → List UInt8 → Bool

/-- An `OutstandingRequest`, with its controller. -/
structure OutstandingRequest where
  id : UInt32
  failed : Bool
  errorText : List UInt8
  deriving DecidableEq

inductive ResponseType where
  | response
  | responseFailed
  | responseNotImplemented
  deriving DecidableEq

/-- A message that is sent. `request` is the number of the request that it answers. -/
structure Response where
  request : Nat
  type : ResponseType
  id : UInt32
  buffer : List UInt8
  deriving DecidableEq

/-- The serving half of an `RpcChannel`. The incoming requests are numbered, and the object
made for one goes by its number; `objects` has those that are not deleted. `received` has the
ids of all requests, `held` the objects for which the service has a callback to run, and
`misused` those that the service used after they were deleted. -/
structure Server where
  requests : AList (fun _ : UInt32 => Nat)
  objects : AList (fun _ : Nat => OutstandingRequest)
  received : List UInt32
  held : List Nat
  sent : List Response
  misused : List Nat

namespace Server

def initial : Server := ⟨∅, ∅, [], [], [], []⟩

variable (state : Server)

def sendMsg (message : Response) : Server :=
  { state with sent := state.sent ++ [message] }

variable (number : Nat)

def deleteOutstandingRequest (request : OutstandingRequest) : Server :=
  { state with requests := state.requests.erase request.id, objects := state.objects.erase number }

def sendRequestFailed (request : OutstandingRequest) : Server :=
  (state.sendMsg ⟨number, .responseFailed, request.id, request.errorText⟩).deleteOutstandingRequest
    number request

def sendNotImplemented (id : UInt32) : Server :=
  state.sendMsg ⟨number, .responseNotImplemented, id, []⟩

/-- The lookup that precedes the insertion of a new request, and what it answers. -/
def failDuplicate (id : UInt32) : Server :=
  match state.requests.lookup id with
  | none => state
  | some old =>
    match state.objects.lookup old with
    | some request => state.sendRequestFailed old request
    | none => { state with misused := state.misused ++ [old] }

/-- `HandleRequest` for a registered service. It returns with the callback in the hands of
the service. -/
def handleRequest {Method : Type} (service : Service Method) (state : Server) (id : UInt32)
    (name buffer : List UInt8) : Server :=
  let number := state.received.length
  let state := { state with received := state.received ++ [id] }
  match service.findMethodByName name with
  | none => state.sendNotImplemented number id
  | some method =>
    if !service.create method then state
    else if !service.parseFromString method buffer then state
    else
      let state := state.failDuplicate id
      { state with
        requests := state.requests.insert id number
        objects := state.objects.insert number ⟨id, false, []⟩
        held := state.held ++ [number] }

/-- `RequestComplete`, run by the single-use callback that the service holds. -/
def requestComplete (output : List UInt8) : Server :=
  if number ∈ state.held then
    let state := { state with held := state.held.filter (· ≠ number) }
    match state.objects.lookup number with
    | none => { state with misused := state.misused ++ [number] }
    | some request =>
      if request.failed then state.sendRequestFailed number request
      else (state.sendMsg ⟨number, .response, request.id, output⟩).deleteOutstandingRequest
        number request
  else state

/-- The service fails the controller of a request before it runs the callback. -/
def setFailed (text : List UInt8) : Server :=
  if number ∈ state.held then
    match state.objects.lookup number with
    | none => { state with misused := state.misused ++ [number] }
    | some request =>
      { state with objects := state.objects.insert number ⟨request.id, true, text⟩ }
  else state

end Server

/-- What happens to the serving half, while sends succeed. -/
inductive ServerEvent where
  | request (id : UInt32) (name buffer : List UInt8)
  | setFailed (number : Nat) (text : List UInt8)
  | complete (number : Nat) (output : List UInt8)

def Server.step {Method : Type} (service : Service Method) (state : Server) :
    ServerEvent → Server
  | .request id name buffer => state.handleRequest service id name buffer
  | .setFailed number text => state.setFailed number text
  | .complete number output => state.requestComplete number output

namespace Server

/-- The requests to which a response was sent, once for each time. -/
def answered (state : Server) : List Nat := state.sent.map Response.request

/-- No deleted request is used, no request is answered twice or under another id, and all
but those that the service still has are answered. -/
structure Sound (state : Server) : Prop where
  unused : state.misused = []
  once : state.answered.Nodup
  labelled : ∀ message ∈ state.sent, state.received[message.request]? = some message.id
  all : ∀ number < state.received.length, number ∈ state.held ∨ number ∈ state.answered

/-- A request for a known method has a payload that parses and an id that is not in use. -/
def Distinct {Method : Type} (service : Service Method) (state : Server) : ServerEvent → Prop
  | .request id name buffer =>
    ∀ method, service.findMethodByName name = some method →
      service.create method = true ∧ service.parseFromString method buffer = true ∧
        state.requests.lookup id = none
  | _ => True

/-- The map, the objects and the callbacks that the service has are about the same requests. -/
structure Matched (state : Server) : Prop where
  unused : state.misused = []
  once : state.answered.Nodup
  labelled : ∀ message ∈ state.sent, state.received[message.request]? = some message.id
  waiting : ∀ number, number ∈ state.held ↔
    number < state.received.length ∧ number ∉ state.answered
  live : ∀ number ∈ state.held, ∃ request, state.objects.lookup number = some request
  mapped : ∀ number request, state.objects.lookup number = some request →
    number ∈ state.held ∧ state.received[number]? = some request.id ∧
      state.requests.lookup request.id = some number
  listed : ∀ id number, state.requests.lookup id = some number →
    ∃ request, state.objects.lookup number = some request ∧ request.id = id

section Invariant

variable {Method : Type} {service : Service Method} {state : Server}

theorem Matched.sound (matched : Matched state) : Sound state := by
  refine { matched with all := ?_ }
  intro number below
  by_cases answered : number ∈ state.answered
  · exact Or.inr answered
  · exact Or.inl ((matched.waiting number).mpr ⟨below, answered⟩)

theorem Matched.answered_lt (matched : Matched state) {number : Nat}
    (member : number ∈ state.answered) : number < state.received.length := by
  obtain ⟨message, sent, rfl⟩ := mem_map.mp member
  exact (List.getElem?_eq_some_iff.mp (matched.labelled message sent)).1

variable {number : Nat} {name buffer : List UInt8} {method : Method}

theorem getElem_received_append {received : List UInt32} {id : UInt32}
    (found : received[number]? = some id) (last : UInt32) :
    (received ++ [last])[number]? = some id := by
  rw [List.getElem?_append_left (List.getElem?_eq_some_iff.mp found).1]
  exact found

/-- A response goes out for an object, which is deleted with its entry. -/
def respond (state : Server) (number : Nat) (request : OutstandingRequest) (type : ResponseType)
    (buffer : List UInt8) : Server :=
  { state with
    requests := state.requests.erase request.id
    objects := state.objects.erase number
    held := state.held.filter (· ≠ number)
    sent := state.sent ++ [⟨number, type, request.id, buffer⟩] }

theorem Matched.respond (matched : Matched state) {request : OutstandingRequest}
    (live : state.objects.lookup number = some request) (type : ResponseType) (buffer : List UInt8) :
    Matched (state.respond number request type buffer) := by
  have entry := matched.mapped number request live
  have fresh := ((matched.waiting number).mp entry.1).2
  have answered : (state.respond number request type buffer).answered =
      state.answered ++ [number] := map_append
  have held : ∀ other, other ∈ (state.respond number request type buffer).held ↔
      other ∈ state.held ∧ other ≠ number := by
    intro other
    change other ∈ state.held.filter (· ≠ number) ↔ _
    rw [mem_filter, decide_eq_true_eq]
  have objects : ∀ other, (state.respond number request type buffer).objects.lookup other =
      if other = number then none else state.objects.lookup other :=
    FiniteMap.lookup_erase_eq state.objects number
  have requests : ∀ id, (state.respond number request type buffer).requests.lookup id =
      if id = request.id then none else state.requests.lookup id :=
    FiniteMap.lookup_erase_eq state.requests request.id
  refine ⟨matched.unused, ?_, ?_, ?_, ?_, ?_, ?_⟩
  · rw [answered, ← concat_eq_append]
    exact matched.once.concat fresh
  · intro message member
    rcases mem_append.mp member with before | last
    · exact matched.labelled message before
    · rw [mem_singleton.mp last]
      exact entry.2.1
  · intro other
    rw [held, answered, mem_append, mem_singleton, not_or, matched.waiting other]
    exact and_assoc
  · intro other member
    have kept := (held other).mp member
    rw [objects, if_neg kept.2]
    exact matched.live other kept.1
  · intro other found present
    rw [objects] at present
    split at present
    · cases present
    · rename_i different
      have old := matched.mapped other found present
      refine ⟨(held other).mpr ⟨old.1, different⟩, old.2.1, ?_⟩
      rw [requests, if_neg]
      · exact old.2.2
      · intro same
        rw [same, entry.2.2] at old
        exact different (Option.some.inj old.2.2).symm
  · intro id other present
    rw [requests] at present
    split at present
    · cases present
    · rename_i different
      obtain ⟨found, present, same⟩ := matched.listed id other present
      refine ⟨found, ?_, same⟩
      rw [objects, if_neg]
      · exact present
      · intro equal
        rw [equal, live] at present
        cases present
        exact different same.symm

theorem requestComplete_eq {request : OutstandingRequest} (output : List UInt8)
    (held : number ∈ state.held) (live : state.objects.lookup number = some request) :
    state.requestComplete number output =
      if request.failed then state.respond number request .responseFailed request.errorText
      else state.respond number request .response output := by
  unfold requestComplete
  rw [if_pos held]
  dsimp only
  rw [live]
  rfl

theorem Matched.requestComplete (matched : Matched state) (number : Nat) (output : List UInt8) :
    Matched (state.requestComplete number output) := by
  by_cases held : number ∈ state.held
  · obtain ⟨request, live⟩ := matched.live number held
    rw [requestComplete_eq output held live]
    split
    · exact matched.respond live _ _
    · exact matched.respond live _ _
  · unfold Server.requestComplete
    rw [if_neg held]
    exact matched

theorem Matched.setFailed (matched : Matched state) (number : Nat) (text : List UInt8) :
    Matched (state.setFailed number text) := by
  unfold Server.setFailed
  split
  · rename_i held
    obtain ⟨request, live⟩ := matched.live number held
    rw [live]
    have entry := matched.mapped number request live
    refine { matched with live := ?_, mapped := ?_, listed := ?_ }
    · intro other member
      rw [FiniteMap.lookup_insert_eq]
      split
      · exact ⟨_, rfl⟩
      · exact matched.live other member
    · intro other found present
      rw [FiniteMap.lookup_insert_eq] at present
      split at present
      · rename_i same
        cases present
        rw [same]
        exact entry
      · exact matched.mapped other found present
    · intro id other present
      obtain ⟨found, object, same⟩ := matched.listed id other present
      rw [FiniteMap.lookup_insert_eq]
      split
      · rename_i equal
        rw [equal, live] at object
        cases object
        exact ⟨_, rfl, same⟩
      · exact ⟨found, object, same⟩
  · exact matched

/-- A request for an unknown method is answered and forgotten. -/
theorem Matched.sendNotImplemented (matched : Matched state) (id : UInt32) :
    Matched ({ state with received := state.received ++ [id] }.sendNotImplemented
      state.received.length id) := by
  have answered : ({ state with received := state.received ++ [id] }.sendNotImplemented
      state.received.length id).answered = state.answered ++ [state.received.length] :=
    map_append
  have length : (state.received ++ [id]).length = state.received.length + 1 := by
    rw [length_append, length_singleton]
  refine ⟨matched.unused, ?_, ?_, ?_, matched.live, ?_, matched.listed⟩
  · rw [answered, ← concat_eq_append]
    exact matched.once.concat (fun member => absurd (matched.answered_lt member) (lt_irrefl _))
  · intro message member
    rcases mem_append.mp member with before | last
    · exact getElem_received_append (matched.labelled message before) id
    · rw [mem_singleton.mp last]
      exact List.getElem?_concat_length
  · intro number
    rw [answered, mem_append, mem_singleton, not_or]
    change number ∈ state.held ↔ number < (state.received ++ [id]).length ∧ _
    rw [matched.waiting number, length]
    constructor
    · exact fun before => ⟨by omega, before.2, by omega⟩
    · exact fun fresh => ⟨by omega, fresh.2.1⟩
  · intro number request present
    obtain ⟨held, same, entry⟩ := matched.mapped number request present
    exact ⟨held, getElem_received_append same id, entry⟩

/-- A request with an id of its own is entered and handed to the service. -/
def enter (state : Server) (id : UInt32) : Server :=
  { state with
    requests := state.requests.insert id state.received.length
    objects := state.objects.insert state.received.length ⟨id, false, []⟩
    received := state.received ++ [id]
    held := state.held ++ [state.received.length] }

theorem Matched.enter (matched : Matched state) {id : UInt32}
    (unused : state.requests.lookup id = none) : Matched (state.enter id) := by
  have held : ∀ number, number ∈ (state.enter id).held ↔
      number ∈ state.held ∨ number = state.received.length := by
    intro number
    change number ∈ state.held ++ [state.received.length] ↔ _
    rw [mem_append, mem_singleton]
  have length : (state.enter id).received.length = state.received.length + 1 := by
    change (state.received ++ [id]).length = _
    rw [length_append, length_singleton]
  have objects : ∀ number, (state.enter id).objects.lookup number =
      if number = state.received.length then some ⟨id, false, []⟩
      else state.objects.lookup number :=
    fun number => FiniteMap.lookup_insert_eq state.objects _ number _
  have requests : ∀ other, (state.enter id).requests.lookup other =
      if other = id then some state.received.length else state.requests.lookup other :=
    fun other => FiniteMap.lookup_insert_eq state.requests _ other _
  refine ⟨matched.unused, matched.once, ?_, ?_, ?_, ?_, ?_⟩
  · intro message member
    exact getElem_received_append (matched.labelled message member) id
  · intro number
    rw [held, length, matched.waiting number]
    have bound := @Matched.answered_lt _ matched number
    constructor
    · rintro (before | rfl)
      · exact ⟨by omega, before.2⟩
      · exact ⟨by omega, fun member => absurd (bound member) (lt_irrefl _)⟩
    · intro fresh
      by_cases last : number = state.received.length
      · exact Or.inr last
      · exact Or.inl ⟨by omega, fresh.2⟩
  · intro number member
    rw [objects]
    split
    · exact ⟨_, rfl⟩
    · rename_i old
      exact matched.live number (((held number).mp member).resolve_right old)
  · intro number request present
    rw [objects] at present
    split at present
    · rename_i last
      cases present
      refine ⟨(held number).mpr (Or.inr last), ?_, ?_⟩
      · rw [last]
        exact List.getElem?_concat_length
      · rw [requests, if_pos rfl, last]
    · obtain ⟨member, same, entry⟩ := matched.mapped number request present
      refine ⟨(held number).mpr (Or.inl member), getElem_received_append same id, ?_⟩
      rw [requests, if_neg]
      · exact entry
      · intro equal
        rw [equal, unused] at entry
        cases entry
  · intro other number present
    rw [requests] at present
    split at present
    · rename_i same
      cases present
      exact ⟨_, by rw [objects, if_pos rfl], same.symm⟩
    · obtain ⟨request, object, same⟩ := matched.listed other number present
      refine ⟨request, ?_, same⟩
      have below := ((matched.waiting number).mp (matched.mapped number request object).1).1
      rw [objects, if_neg (by omega)]
      exact object

theorem handleRequest_unknown (id : UInt32) (buffer : List UInt8)
    (unknown : service.findMethodByName name = none) :
    state.handleRequest service id name buffer =
      { state with received := state.received ++ [id] }.sendNotImplemented
        state.received.length id := by
  unfold handleRequest
  rw [unknown]

theorem handleRequest_dropped (id : UInt32) (known : service.findMethodByName name = some method)
    (dropped : ¬ (service.create method = true ∧ service.parseFromString method buffer = true)) :
    state.handleRequest service id name buffer =
      { state with received := state.received ++ [id] } := by
  unfold handleRequest
  rw [known]
  cases created : service.create method with
  | false => simp [created]
  | true =>
    have malformed : service.parseFromString method buffer = false :=
      Bool.eq_false_iff.mpr (fun parses => dropped ⟨created, parses⟩)
    simp [created, malformed]

theorem handleRequest_parsed (id : UInt32) (known : service.findMethodByName name = some method)
    (created : service.create method = true) (parses : service.parseFromString method buffer = true) :
    state.handleRequest service id name buffer =
      let after := { state with received := state.received ++ [id] }.failDuplicate id
      { after with
        requests := after.requests.insert id state.received.length
        objects := after.objects.insert state.received.length ⟨id, false, []⟩
        held := after.held ++ [state.received.length] } := by
  unfold handleRequest
  rw [known]
  simp [created, parses]

theorem Matched.handleRequest (matched : Matched state) (id : UInt32) (name buffer : List UInt8)
    (distinct : Distinct service state (.request id name buffer)) :
    Matched (state.handleRequest service id name buffer) := by
  cases known : service.findMethodByName name with
  | none =>
    rw [handleRequest_unknown id buffer known]
    exact matched.sendNotImplemented id
  | some method =>
    obtain ⟨created, parses, unused⟩ := distinct method known
    rw [handleRequest_parsed id known created parses]
    unfold failDuplicate
    rw [unused]
    exact matched.enter unused

theorem Matched.step (matched : Matched state) (event : ServerEvent)
    (distinct : Distinct service state event) : Matched (state.step service event) := by
  cases event with
  | request id name buffer => exact matched.handleRequest id name buffer distinct
  | setFailed number text => exact matched.setFailed number text
  | complete number output => exact matched.requestComplete number output

/-- Neither now nor after the service completes one more request is anything wrong. -/
def Safe (state : Server) : Prop :=
  Sound state ∧ ∀ number output, Sound (state.requestComplete number output)

theorem Matched.safe (matched : Matched state) : Safe state :=
  ⟨matched.sound, fun number output => (matched.requestComplete number output).sound⟩

theorem Matched.dropped_unanswered (matched : Matched state) (id : UInt32) :
    ¬ Sound { state with received := state.received ++ [id] } := by
  intro sound
  have settled := sound.all state.received.length (by
    rw [length_append, length_singleton]
    omega)
  rcases settled with held | answered
  · exact absurd ((matched.waiting _).mp held).1 (lt_irrefl _)
  · exact absurd (matched.answered_lt answered) (lt_irrefl _)

theorem requestComplete_deleted (output : List UInt8) (held : number ∈ state.held)
    (gone : state.objects.lookup number = none) :
    ¬ Sound (state.requestComplete number output) := by
  intro sound
  have unused := sound.unused
  unfold requestComplete at unused
  rw [if_pos held] at unused
  dsimp only at unused
  rw [gone] at unused
  exact absurd unused (append_ne_nil_of_right_ne_nil _ (cons_ne_nil _ _))

/-- With an id in use the old object is deleted while the service has a callback for it. -/
theorem Matched.duplicate_misused (matched : Matched state) {id : UInt32} {old : Nat}
    (known : service.findMethodByName name = some method) (created : service.create method = true)
    (parses : service.parseFromString method buffer = true)
    (pending : state.requests.lookup id = some old) :
    ¬ Sound ((state.handleRequest service id name buffer).requestComplete old []) := by
  obtain ⟨request, live, _⟩ := matched.listed id old pending
  have held := (matched.mapped old request live).1
  have below := ((matched.waiting old).mp held).1
  have failed : { state with received := state.received ++ [id] }.failDuplicate id =
      { state with received := state.received ++ [id] }.sendRequestFailed old request := by
    unfold failDuplicate
    rw [pending]
    dsimp only
    rw [live]
  rw [handleRequest_parsed id known created parses, failed]
  apply requestComplete_deleted
  · exact mem_append_left _ held
  · rw [FiniteMap.lookup_insert_eq, if_neg (by omega)]
    exact AList.lookup_erase old state.objects

theorem Matched.spoiled (matched : Matched state) (event : ServerEvent)
    (indistinct : ¬ Distinct service state event) : ¬ Safe (state.step service event) := by
  cases event with
  | request id name buffer =>
    obtain ⟨method, refused⟩ := not_forall.mp indistinct
    obtain ⟨known, refused⟩ := Classical.not_imp.mp refused
    change ¬ Safe (state.handleRequest service id name buffer)
    by_cases accepted :
        service.create method = true ∧ service.parseFromString method buffer = true
    · cases pending : state.requests.lookup id with
      | none => exact absurd ⟨accepted.1, accepted.2, pending⟩ refused
      | some old =>
        intro safe
        exact matched.duplicate_misused known accepted.1 accepted.2 pending (safe.2 old [])
    · rw [handleRequest_dropped id known accepted]
      exact fun safe => matched.dropped_unanswered id safe.1
  | setFailed number text | complete number output => exact absurd trivial indistinct

theorem matched_initial : Matched initial := by
  refine ⟨rfl, nodup_nil, ?_, ?_, ?_, ?_, ?_⟩
  · intro message member
    cases member
  · intro number
    constructor
    · intro member
      cases member
    · intro below
      exact absurd below.1 (Nat.not_lt_zero number)
  · intro number member
    cases member
  · intro number request present
    cases present
  · intro id number present
    cases present

end Invariant

/-- In a run each request is answered once under its id and no deleted request is used,
whatever the service completes next, exactly if every payload for a known method parses and
no such request has an id in use. -/
theorem requests_answered_iff {Method : Type} (service : Service Method)
    (events : List ServerEvent) :
    (∀ count, Sound (run (step service) initial (events.take count)) ∧ ∀ number output,
      Sound (run (step service) initial (events.take count ++ [.complete number output]))) ↔
      Permitted (step service) (Distinct service) initial events := by
  rw [← @always_iff_permitted _ _ (step service) (Distinct service) Matched Safe
    (fun _ => Matched.safe) (fun _ event matched => matched.step event)
    (fun _ event matched => matched.spoiled event) initial events matched_initial]
  simp only [run_append]
  rfl

/-- Two requests with one id, and the service completes the first: its object is gone. -/
theorem repeated_id_misused :
    ¬ Sound (run (step (⟨fun _ => some (), fun _ => true, fun _ _ => true⟩ : Service Unit)) initial
      [.request 1 [] [], .request 1 [] [], .complete 0 []]) := by
  intro sound
  exact absurd sound.unused (by decide)

end Server

end OpenLighting.RpcChannel
