import OpenLighting.EnttecPortLedger

namespace OpenLighting.Enttec

open OpenLighting.Rdm TransitionSystem EnttecPort

/-- Where the callback of the outstanding operation is kept. -/
def slot (outstanding : Option (Kind × Callback)) (kind : Kind) : Option Callback :=
  match outstanding with
  | none => none
  | some (other, callback) => if other = kind then some callback else none

/-- The invariant of a port. -/
structure Books (port : EnttecPort) (outstanding : Option (Kind × Callback)) : Prop where
  mute : port.muteCallback = slot outstanding .mute
  unmute : port.unmuteCallback = slot outstanding .unmuteAll
  branch : port.branchCallback = slot outstanding .branch
  request : port.rdmRequestCallback = slot outstanding .request
  pending : port.pendingRequest.isSome = port.rdmRequestCallback.isSome
  fresh : (∀ callback, outstanding ≠ some (.branch, callback)) → port.discoveryResponse = none
  ledger : Ledger false port.trace port.issued
    (outstanding.map fun operation => (operation.1, operation.2.id)) port.discoveryResponse

theorem slot_eq_some {outstanding : Option (Kind × Callback)} {kind : Kind} {callback : Callback}
    (waits : slot outstanding kind = some callback) : outstanding = some (kind, callback) := by
  unfold slot at waits
  cases outstanding with
  | none => cases waits
  | some operation =>
    have ⟨other, kept⟩ := operation
    dsimp only at waits
    by_cases same : other = kind
    · rw [if_pos same] at waits
      rw [same, Option.some.inj waits]
    · rw [if_neg same] at waits
      cases waits

section Ports
variable {port : EnttecPort} {outstanding : Option (Kind × Callback)} {callback : Callback}
  {kind : Kind}

theorem Books.idle_response (books : Books port none) : port.discoveryResponse = none :=
  books.fresh fun _ same => by cases same

theorem books_waits (books : Books port outstanding) : port.waits = outstanding.isSome := by
  unfold waits
  rw [books.mute, books.unmute, books.branch, books.request]
  cases outstanding with
  | none => rfl
  | some operation =>
    have ⟨kind, callback⟩ := operation
    cases kind <;> rfl

theorem Books.issued (books : Books port none) (kind : Kind) :
    Ledger false (port.trace ++ [.started port.issued kind]) (port.issued + 1)
      (some (kind, port.issued)) none := books.ledger.start kind

/-- An operation that fails at once. -/
theorem Books.failed (books : Books port none) {kind : Kind} {result : Result}
    (told : ∀ answer, result = .branched answer → kind = .branch ∧ answer = none) :
    Ledger false (port.trace ++ [.started port.issued kind] ++ [.ran port.issued result])
      (port.issued + 1) none port.discoveryResponse :=
  (books.issued kind).run told false _

theorem books_start (books : Books port none) (operations : List Operation) :
    ∃ outstanding, Books (port.start operations) outstanding := by
  induction operations generalizing port with
  | nil => exact ⟨none, books⟩
  | cons operation next ih =>
    have fresh := books.idle_response
    have issued := books.issued
    rw [← fresh] at issued
    cases operation with
    | muteDevice sends =>
      cases sends with
      | true =>
        exact ⟨some (.mute, ⟨port.issued, next⟩), rfl, books.unmute, books.branch,
          books.request, books.pending, fun _ => fresh, issued .mute⟩
      | false =>
        apply ih
        exact ⟨books.mute, books.unmute, books.branch, books.request, books.pending,
          books.fresh, books.failed fun _ same => by cases same⟩
    | unMuteAll sends =>
      cases sends with
      | true =>
        exact ⟨some (.unmuteAll, ⟨port.issued, next⟩), books.mute, rfl, books.branch,
          books.request, books.pending, fun _ => fresh, issued .unmuteAll⟩
      | false =>
        apply ih
        exact ⟨books.mute, books.unmute, books.branch, books.request, books.pending,
          books.fresh, books.failed fun _ same => by cases same⟩
    | branch sends =>
      cases sends with
      | true =>
        exact ⟨some (.branch, ⟨port.issued, next⟩), books.mute, books.unmute, rfl,
          books.request, books.pending, fun _ => fresh, issued .branch⟩
      | false =>
        apply ih
        exact ⟨books.mute, books.unmute, books.branch, books.request, books.pending,
          books.fresh, books.failed fun _ same => by cases same; exact ⟨rfl, rfl⟩⟩
    | sendRDMRequest request packs sends =>
      have absent : port.rdmRequestCallback = none := books.request
      have told : ∀ answer, Result.completed .failedToSend none [] = .branched answer →
          Kind.request = .branch ∧ answer = none := fun _ same => by cases same
      unfold start
      rw [absent]
      cases packs with
      | false =>
        apply ih
        exact { books with ledger := books.failed told }
      | true =>
        cases sends with
        | true =>
          exact ⟨some (.request, ⟨port.issued, next⟩), books.mute, books.unmute,
            books.branch, rfl, rfl, fun _ => fresh, issued .request⟩
        | false =>
          apply ih
          exact ⟨books.mute, books.unmute, books.branch, rfl, rfl, books.fresh,
            books.failed told⟩

/-- A callback that is run when nothing waits any more. -/
theorem books_finish {result : Result} (mute : port.muteCallback = none)
    (unmute : port.unmuteCallback = none) (branch : port.branchCallback = none)
    (request : port.rdmRequestCallback = none) (pending : port.pendingRequest = none)
    (response : port.discoveryResponse = none) {due : Bool} {heard : Option (List UInt8)}
    (ledger : Ledger due port.trace port.issued (some (kind, callback.id)) heard)
    (told : ∀ answer, result = .branched answer → kind = .branch ∧ answer = heard) :
    ∃ outstanding, Books (port.finish callback result) outstanding := by
  apply books_start
  refine ⟨mute, unmute, branch, request, ?_, fun _ => response, ledger.run told false _⟩
  show port.pendingRequest.isSome = port.rdmRequestCallback.isSome
  rw [pending, request]
  rfl

/-- What was heard does not matter to the operations that are started. -/
theorem start_forget (port : EnttecPort) (operations : List Operation)
    (response : Option (List UInt8)) :
    { port.start operations with discoveryResponse := response } =
      { port with discoveryResponse := response }.start operations := by
  induction operations generalizing port with
  | nil => rfl
  | cons operation next ih =>
    cases operation with
    | muteDevice sends | unMuteAll sends | branch sends =>
      cases sends with
      | true => rfl
      | false => exact ih _
    | sendRDMRequest request packs sends =>
      unfold start
      cases present : port.rdmRequestCallback.isSome with
      | true => exact ih _
      | false =>
        cases packs with
        | false => exact ih _
        | true =>
          cases sends with
          | true => rfl
          | false => exact ih _

/-- A port that does not wait for the answer to a request has none. -/
theorem Books.noPending (books : Books port outstanding)
    (other : port.rdmRequestCallback = none) : port.pendingRequest = none := by
  have pending := books.pending
  rw [other] at pending
  exact Option.isNone_iff_eq_none.mp (Option.isSome_eq_false_iff.mp pending)

theorem timeout_books (books : Books port outstanding) :
    ∃ after, Books (port.record .timeout).handleRDMTimeout after := by
  have arrived := books.ledger.arrive (Or.inr rfl)
  rw [show firstFrame [Entry.timeout] = none from rfl, Option.or_none] at arrived
  have fresh := books.fresh
  unfold handleRDMTimeout record
  cases outstanding with
  | none =>
    have unmute : port.unmuteCallback = none := books.unmute
    have mute : port.muteCallback = none := books.mute
    have branch : port.branchCallback = none := books.branch
    have request : port.rdmRequestCallback = none := books.request
    rw [unmute, mute, branch, request]
    exact ⟨none, rfl, rfl, rfl, rfl, books.pending.trans (by rw [request]), fresh,
      arrived.forget false _⟩
  | some operation =>
    have ⟨kind, callback⟩ := operation
    cases kind with
    | unmuteAll =>
      have unmute : port.unmuteCallback = some callback := books.unmute
      rw [unmute]
      apply @books_finish _ callback .unmuteAll
      · exact books.mute
      · rfl
      · exact books.branch
      · exact books.request
      · exact books.noPending books.request
      · exact fresh fun _ same => by cases same
      · exact arrived
      · exact fun _ same => by cases same
    | mute =>
      have unmute : port.unmuteCallback = none := books.unmute
      have mute : port.muteCallback = some callback := books.mute
      rw [unmute, mute]
      apply @books_finish _ callback .mute
      · rfl
      · rfl
      · exact books.branch
      · exact books.request
      · exact books.noPending books.request
      · exact fresh fun _ same => by cases same
      · exact arrived
      · exact fun _ same => by cases same
    | branch =>
      have unmute : port.unmuteCallback = none := books.unmute
      have mute : port.muteCallback = none := books.mute
      have branch : port.branchCallback = some callback := books.branch
      rw [unmute, mute, branch]
      unfold finish
      dsimp only
      rw [start_forget]
      apply @books_finish { port with
        muteCallback := none
        unmuteCallback := none
        branchCallback := none
        discoveryResponse := none
        trace := port.trace ++ [.timeout] } callback .branch
      · rfl
      · rfl
      · rfl
      · exact books.request
      · exact books.noPending books.request
      · rfl
      · exact arrived
      · exact fun _ same => by cases same; exact ⟨rfl, rfl⟩
    | request =>
      have unmute : port.unmuteCallback = none := books.unmute
      have mute : port.muteCallback = none := books.mute
      have branch : port.branchCallback = none := books.branch
      have request : port.rdmRequestCallback = some callback := books.request
      have pending := books.pending
      rw [request] at pending
      have ⟨command, known⟩ := Option.isSome_iff_exists.mp pending
      rw [unmute, mute, branch, request, known]
      apply @books_finish _ callback .request
      · rfl
      · rfl
      · rfl
      · rfl
      · rfl
      · exact fresh fun _ same => by cases same
      · exact arrived
      · exact fun _ same => by cases same

theorem handleDMX_eq (port : EnttecPort) (message : List UInt8) :
    ∃ buffer, port.handleDMX message = { port with inputBuffer := buffer } := by
  unfold handleDMX
  split
  · split
    · exact ⟨_, rfl⟩
    · split
      · exact ⟨_, rfl⟩
      · exact ⟨_, rfl⟩
  · exact ⟨_, rfl⟩

/-- Which good frames are taken for DMX. -/
theorem dmx_iff (port : EnttecPort) (status : UInt8) (data : List UInt8) :
    (¬ port.waitingForDub ∧ 2 ≤ (status :: data).length ∧
      (status :: data).getD 1 0 ≠ startCode) ↔
    ¬ port.waitingForDub ∧ data.getD 0 startCode ≠ startCode := by
  cases data with
  | nil | cons first rest => simp

/-- A corrupted frame is dropped. -/
theorem handle_corrupted (port : EnttecPort) {status : UInt8} (bad : status ≠ 0)
    (data : List UInt8) :
    port.handleIncommingDataMessage (status :: data) = some port := by
  unfold handleIncommingDataMessage
  split
  · cases data with
    | nil => rfl
    | cons first rest =>
      show some (if status ≠ 0 then port else _) = some port
      rw [if_pos bad]
  · dsimp only
    rw [if_pos bad]

/-- A good frame that nothing waits for. -/
theorem Books.heard (books : Books port outstanding)
    (other : ∀ callback, outstanding ≠ some (.branch, callback)) (data : List UInt8)
    (buffer : DmxBuffer) :
    Books { port.record (.frame data) with inputBuffer := buffer } outstanding where
  mute := books.mute
  unmute := books.unmute
  branch := books.branch
  request := books.request
  pending := books.pending
  fresh := books.fresh
  ledger := by
    have arrived := books.ledger.arrive (Or.inl ⟨data, rfl⟩)
    cases outstanding with
    | none => exact arrived.forget false _
    | some operation =>
      apply arrived.ignore
      intro same
      apply other operation.2
      rw [← same]

/-- A good frame that comes while a discovery branch waits. -/
theorem Books.branched (books : Books port (some (.branch, callback))) (data : List UInt8) :
    Books { port.record (.frame data) with
      discoveryResponse := port.discoveryResponse.or (some data) } (some (.branch, callback)) where
  mute := books.mute
  unmute := books.unmute
  branch := books.branch
  request := books.request
  pending := books.pending
  fresh other := absurd rfl (other callback)
  ledger := books.ledger.arrive (Or.inl ⟨data, rfl⟩)

/-- The port waits for the answer to a request that is no discovery message. -/
def EnttecPort.AwaitsAnswer (port : EnttecPort) : Prop :=
  port.branchCallback = none ∧ port.muteCallback = none ∧ port.rdmRequestCallback.isSome ∧
    ¬ port.waitingForDub

theorem mem_answer {data message : List UInt8} :
    data ∈ port.answer message ↔ port.branchCallback = none ∧ port.muteCallback = none ∧
      port.rdmRequestCallback.isSome ∧ ¬ port.waitingForDub ∧ message = 0 :: data ∧
      data.getD 0 startCode = startCode := by
  unfold answer
  have good : data ∈ goodFrame message ↔ message = 0 :: data := by
    cases message with
    | nil => simp [goodFrame]
    | cons status rest =>
      by_cases zero : status = 0
      · simp [goodFrame, zero]
      · simp [goodFrame, zero]
  split
  next waits =>
    simp only [Option.mem_def, Option.filter_eq_some_iff] at good ⊢
    rw [good]
    simp only [Option.isNone_iff_eq_none] at waits
    simp [waits]
  next other =>
    simp only [Option.isNone_iff_eq_none] at other
    constructor
    · intro member
      cases member
    · intro all
      exact absurd ⟨all.1, all.2.1, all.2.2.1, all.2.2.2.1⟩ other

/-- What a good frame with these data comes to, or `none` where it is read behind. -/
inductive Handled (port : EnttecPort) (data : List UInt8) : Option EnttecPort → Prop
  | dmx (other : ¬ port.waitingForDub) (code : data.getD 0 startCode ≠ startCode) :
      Handled port data (some (port.handleDMX (0 :: data)))
  | branch (callback : Callback) (waits : port.branchCallback = some callback) :
      Handled port data
        (some { port with discoveryResponse := port.discoveryResponse.or (some data) })
  | mute (callback : Callback) (branch : port.branchCallback = none)
      (waits : port.muteCallback = some callback) :
      Handled port data
        (some ({ port with muteCallback := none }.finish callback (.muted true)))
  | idle (branch : port.branchCallback = none) (mute : port.muteCallback = none)
      (request : port.rdmRequestCallback = none) : Handled port data (some port)
  | dub (callback : Callback) (branch : port.branchCallback = none)
      (mute : port.muteCallback = none) (waits : port.rdmRequestCallback = some callback)
      (dub : port.waitingForDub) :
      Handled port data (some ({ port with
        rdmRequestCallback := none
        pendingRequest := none }.finish callback (.completed .dubResponse none [data])))
  | short (awaits : port.AwaitsAnswer) (empty : data = []) : Handled port data none
  | beyond (awaits : port.AwaitsAnswer) (packet : List UInt8) (same : data = startCode :: packet)
      (overread : inflateFromData packet port.pendingRequest = .error .overread) :
      Handled port data none
  | answered (callback : Callback) (awaits : port.AwaitsAnswer)
      (waits : port.rdmRequestCallback = some callback) (packet : List UInt8)
      (same : data = startCode :: packet) (code : ResponseCode) (response : Option Command)
      (inflates : inflateFromData packet port.pendingRequest = .ok (code, response)) :
      Handled port data (some ({ port with
        rdmRequestCallback := none
        pendingRequest := none }.finish callback (.completed code response [packet])))

theorem handled_good (port : EnttecPort) (data : List UInt8) :
    Handled port data (port.handleIncommingDataMessage (0 :: data)) := by
  unfold handleIncommingDataMessage
  by_cases dmx : ¬ port.waitingForDub ∧ data.getD 0 startCode ≠ startCode
  · rw [if_pos ((dmx_iff port 0 data).mpr dmx)]
    exact .dmx dmx.1 dmx.2
  · rw [if_neg fun other => dmx ((dmx_iff port 0 data).mp other)]
    dsimp only
    rw [if_neg (not_not_intro rfl)]
    split
    · rename_i callback branch
      have handled := @Handled.branch port data callback branch
      cases heard : port.discoveryResponse with
      | none =>
        rw [heard] at handled
        exact handled
      | some response =>
        rw [heard, Option.some_or, ← heard] at handled
        exact handled
    · rename_i branch
      split
      · rename_i callback mute
        exact .mute callback branch mute
      · rename_i mute
        split
        · rename_i callback waits
          by_cases dub : port.waitingForDub = true
          · rw [if_pos dub]
            exact .dub callback branch mute waits dub
          · have awaits : port.AwaitsAnswer := ⟨branch, mute, by rw [waits]; rfl, dub⟩
            rw [if_neg dub]
            cases data with
            | nil => exact .short awaits rfl
            | cons first packet =>
              have plain : first = startCode := not_not.mp fun other => dmx ⟨dub, other⟩
              subst plain
              dsimp only
              cases inflates : inflateFromData packet port.pendingRequest with
              | error beyond =>
                cases beyond
                exact .beyond awaits packet rfl inflates
              | ok answer => exact .answered callback awaits waits packet rfl _ _ inflates
        · rename_i request
          exact .idle branch mute request

theorem good_books (books : Books port outstanding) {data : List UInt8}
    (sound : Sound (some port) (.data (0 :: data))) :
    ∃ after, (port.record (.frame data)).handleIncommingDataMessage (0 :: data) = some after ∧
      ∃ outstanding, Books after outstanding := by
  have arrived := books.ledger.arrive (Or.inl ⟨data, rfl⟩)
  have fresh := books.fresh
  have handled := handled_good (port.record (.frame data)) data
  have answered {callback : Callback} (branch : port.branchCallback = none)
      (mute : port.muteCallback = none) (waits : port.rdmRequestCallback = some callback)
      (code : ResponseCode) (response : Option Command) (packets : List (List UInt8)) :
      ∃ outstanding, Books ({ port.record (.frame data) with
        rdmRequestCallback := none
        pendingRequest := none }.finish callback
          (.completed code response packets)) outstanding := by
    have same := slot_eq_some (books.request.symm.trans waits)
    subst same
    apply @books_finish _ callback .request
    · exact mute
    · exact books.unmute
    · exact branch
    · rfl
    · rfl
    · exact fresh fun _ same => by cases same
    · exact arrived
    · exact fun _ same => by cases same
  generalize (port.record (.frame data)).handleIncommingDataMessage (0 :: data) = result at handled
  cases handled with
  | dmx other code =>
    have ⟨buffer, equal⟩ := handleDMX_eq (port.record (.frame data)) (0 :: data)
    rw [equal]
    refine ⟨_, rfl, outstanding, books.heard ?_ data buffer⟩
    intro callback same
    apply other
    show port.waitingForDub = true
    unfold waitingForDub
    rw [books.branch, same]
    rfl
  | branch callback waits =>
    have same := slot_eq_some (books.branch.symm.trans waits)
    subst same
    exact ⟨_, rfl, _, books.branched data⟩
  | mute callback branch waits =>
    have same := slot_eq_some (books.mute.symm.trans waits)
    subst same
    refine ⟨_, rfl, ?_⟩
    apply @books_finish _ callback .mute
    · rfl
    · exact books.unmute
    · exact branch
    · exact books.request
    · exact books.noPending books.request
    · exact fresh fun _ same => by cases same
    · exact arrived
    · exact fun _ same => by cases same
  | idle branch mute request =>
    refine ⟨_, rfl, outstanding, books.heard ?_ data port.inputBuffer⟩
    intro callback same
    subst same
    cases books.branch.symm.trans branch
  | dub callback branch mute waits dub => exact ⟨_, rfl, answered branch mute waits _ _ _⟩
  | short awaits empty =>
    have ⟨behind, _⟩ := sound.2 data (mem_answer.mpr ⟨awaits.1, awaits.2.1, awaits.2.2.1,
      awaits.2.2.2, rfl, by rw [empty]; rfl⟩)
    exact absurd empty behind
  | beyond awaits packet same overread =>
    have ⟨_, inflates⟩ := sound.2 data (mem_answer.mpr ⟨awaits.1, awaits.2.1, awaits.2.2.1,
      awaits.2.2.2, rfl, by rw [same]; rfl⟩)
    rw [same, List.tail_cons, show inflateFromData packet port.pendingRequest = _ from overread]
      at inflates
    cases inflates
  | answered callback awaits waits packet same code response inflates =>
    exact ⟨_, rfl, answered awaits.1 awaits.2.1 waits _ _ _⟩

/-- The port goes on with any message that it gets right. -/
theorem data_books (books : Books port outstanding) {message : List UInt8}
    (sound : Sound (some port) (.data message)) :
    ∃ after, step (some port) (.data message) = some after ∧
      ∃ outstanding, Books after outstanding := by
  cases message with
  | nil => exact absurd rfl sound.1
  | cons status data =>
    by_cases good : status = 0
    · subst good
      exact good_books books sound
    · refine ⟨port, ?_, outstanding, books⟩
      simp only [step, goodFrame, if_neg good]
      exact handle_corrupted port good data

/-- On any other it reads behind the message. -/
theorem data_overread {message : List UInt8} (unsound : ¬ Sound (some port) (.data message)) :
    step (some port) (.data message) = none := by
  cases message with
  | nil =>
    show port.handleIncommingDataMessage [] = none
    unfold handleIncommingDataMessage
    rw [if_neg (by simp)]
  | cons status data =>
    have ⟨answer, member, wrong⟩ : ∃ answer ∈ port.answer (status :: data),
        ¬ (answer ≠ [] ∧ (inflateFromData answer.tail port.pendingRequest).isOk = true) := by
      by_contra never
      apply unsound
      refine ⟨List.cons_ne_nil _ _, ?_⟩
      intro answer member
      by_contra wrong
      exact never ⟨answer, member, wrong⟩
    have ⟨branch, mute, request, dub, same, plain⟩ := mem_answer.mp member
    cases same
    show (port.record (.frame data)).handleIncommingDataMessage (0 :: data) = none
    have handled := handled_good (port.record (.frame data)) data
    generalize (port.record (.frame data)).handleIncommingDataMessage (0 :: data) = result
      at handled
    cases handled with
    | dmx _ code => exact absurd plain code
    | branch callback waits => cases branch.symm.trans waits
    | mute callback _ waits => cases mute.symm.trans waits
    | idle _ _ idle =>
      rw [show port.rdmRequestCallback = none from idle] at request
      cases request
    | dub callback _ _ _ waits => exact absurd waits dub
    | short _ _ | beyond _ _ _ _ => rfl
    | answered callback _ _ packet same _ _ inflates =>
      apply absurd _ wrong
      subst same
      refine ⟨List.cons_ne_nil _ _, ?_⟩
      rw [List.tail_cons, show inflateFromData packet port.pendingRequest = _ from inflates]
      rfl

end Ports

section Runs
variable {world : Option EnttecPort} {event : Event}

/-- A port that has gone on, with all that it waits for. -/
def Proper (world : Option EnttecPort) : Prop :=
  ∃ port outstanding, world = some port ∧ Books port outstanding

/-- The port goes on, and its trace is what it should be. -/
def Told (world : Option EnttecPort) : Prop :=
  ∃ port, world = some port ∧ Complete port.trace

theorem new_proper (uid : UID) : Proper (some (.new uid)) :=
  ⟨_, none, rfl, rfl, rfl, rfl, rfl, rfl, fun _ => rfl, ledger_nil⟩

theorem Proper.told (proper : Proper world) : Told world := by
  have ⟨port, outstanding, same, books⟩ := proper
  exact ⟨port, same, books.ledger.complete⟩

theorem step_proper (proper : Proper world) (alone : Alone world event)
    (sound : Sound world event) : Proper (step world event) := by
  have ⟨port, outstanding, same, books⟩ := proper
  subst same
  cases event with
  | start operations =>
    have idle := books_waits books
    rw [show port.waits = false from alone] at idle
    cases outstanding with
    | none =>
      have ⟨after, started⟩ := books_start books operations
      exact ⟨_, after, rfl, started⟩
    | some operation => cases idle
  | data message =>
    have ⟨after, ran, waits, done⟩ := data_books books sound
    exact ⟨after, waits, ran, done⟩
  | timeout =>
    have ⟨after, done⟩ := timeout_books books
    exact ⟨_, after, rfl, done⟩
  | stop =>
    have idle := books_waits books
    rw [show port.waits = false from sound] at idle
    cases outstanding with
    | none =>
      exact ⟨_, none, rfl, books.mute, books.unmute, books.branch, books.request,
        books.pending, books.fresh, books.ledger.stop⟩
    | some operation => cases idle

theorem step_spoiled (proper : Proper world) (unsound : ¬ Sound world event) :
    ¬ Told (step world event) := by
  have ⟨port, outstanding, same, books⟩ := proper
  subst same
  cases event with
  | start operations | timeout => exact absurd trivial unsound
  | data message =>
    rw [data_overread unsound]
    rintro ⟨after, stuck, _⟩
    cases stuck
  | stop =>
    rintro ⟨after, stopped, complete⟩
    cases stopped
    cases outstanding with
    | none => exact absurd (books_waits books) unsound
    | some operation => exact books.ledger.stop_waiting complete

/-- In a run with one operation at a time every callback is run as it should be if and only if all
that comes is something the port gets right. -/
theorem operations_complete_iff {uid : UID} {events : List Event}
    (alone : Permitted step Alone (some (.new uid)) events) :
    (∀ count, Told (run step (some (.new uid)) (events.take count))) ↔
      Permitted step Sound (some (.new uid)) events := by
  apply always_iff_permitted_within _ _ _ (new_proper uid) alone
  · exact fun _ => Proper.told
  · exact fun _ _ => step_proper
  · exact fun _ _ proper _ => step_spoiled proper

/-- A discovery branch with two answers, of which the first is reported, and a mute that is started
from its callback. -/
theorem operations_complete_branched :
    Permitted step Sound (some (.new ⟨0x7a70, 1⟩)) [.start [.branch true, .muteDevice true],
      .data [1, 7], .data [0, 0xfe, 0xfe], .data [0, 0xaa], .timeout, .data [0, 0xcc]] ∧
    ∀ count, Told (run step (some (.new ⟨0x7a70, 1⟩)) ([.start [.branch true, .muteDevice true],
      .data [1, 7], .data [0, 0xfe, 0xfe], .data [0, 0xaa], .timeout,
      .data [0, 0xcc]].take count)) := by
  have sound : Permitted step Sound (some (.new ⟨0x7a70, 1⟩)) [.start [.branch true,
      .muteDevice true], .data [1, 7], .data [0, 0xfe, 0xfe], .data [0, 0xaa], .timeout,
      .data [0, 0xcc]] := by decide
  exact ⟨sound, (operations_complete_iff (by decide)).mpr sound⟩

/-- A port that is stopped while a mute is outstanding never runs its callback. -/
theorem stopped_mute_lost :
    Permitted step Alone (some (.new ⟨0x7a70, 1⟩)) [.start [.muteDevice true], .stop] ∧
    ¬ ∀ count, Told (run step (some (.new ⟨0x7a70, 1⟩))
      ([.start [.muteDevice true], .stop].take count)) := by
  refine ⟨by decide, ?_⟩
  intro always
  have ⟨port, same, complete⟩ := always 2
  cases same
  have ⟨result, member⟩ := complete.justified [.started 0 .mute] .stopped [] rfl 0 .mute
    (List.mem_singleton_self _)
  cases List.mem_singleton.mp member

end Runs

end OpenLighting.Enttec
