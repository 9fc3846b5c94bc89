import OpenLighting.DmxTriWidgetPolling

namespace OpenLighting.DmxTri

open OpenLighting.Rdm OperationLedger TransitionSystem Widget

/-- The operation is not over: for a request a command of its own is outstanding, or a frame in
front of it; for a discovery too, or the timer is registered that asks for its status. -/
def Underway (widget : Widget) (id : Nat) : Kind → Prop
  | .request =>
    (∃ callback, widget.rdmRequestCallback = some callback ∧ callback.id = id) ∧
      widget.pendingRdmRequest.isSome = true ∧ ∃ command,
        widget.expectedCommand = some command ∧
          (command = .singleTx ∨ TriCommandId.forRequest command = true)
  | .discovery =>
    (∃ callback, widget.discoveryCallback = some callback ∧ callback.id = id) ∧
      ((∃ command, widget.expectedCommand = some command ∧
          (command = .singleTx ∧ widget.discoveryState ≠ .noDiscoveryAction ∨
            command = .discoverAuto ∨ command = .discoverStatus ∨ command = .remoteUid)) ∨
        ∃ timer ∈ widget.timers, timer.discovery = id)

/-- Every callback is run once at most, and has been run where its operation is over; and the
discovery of every timer that is registered is not. -/
structure Completes (widget : Widget) : Prop where
  inside : widget.overrun = false
  once : Justified Backs widget.trace
  ended : ∀ id kind, .started id kind ∈ widget.trace →
    (∃ result, .ran id result ∈ widget.trace) ∨ Underway widget id kind
  timers : ∀ timer ∈ widget.timers, ∀ result, .ran timer.discovery result ∉ widget.trace

/-- There is one operation at a time. -/
def Alone (widget : Widget) : Event → Prop
  | .ask _ => widget.rdmRequestCallback.isNone = true ∧ widget.discoveryCallback.isNone = true
  | _ => True

/-- The parameter data of a request fits a packet. -/
def Operation.Short : Operation → Prop
  | .sendRDMRequest request => request.paramData.length ≤ maxParamDataLength
  | .runIncrementalDiscovery => True

instance : ∀ operation, Decidable (Operation.Short operation)
  | .sendRDMRequest _ => inferInstanceAs (Decidable (_ ≤ _))
  | .runIncrementalDiscovery => .isTrue trivial

/-- The answers to a raw request that complete it. -/
def Completing (returnCode : UInt8) (data : List UInt8) (request : Command) : Prop :=
  let code := ErrorCode.ofByte returnCode
  code = .unknownCommand ∨ code = .responseNone ∨
    if isDUBRequest request then code = .noError ∨ code = .responseDiscovery
    else request.destination.isBroadcast = true ∨
      (inflateFromData data (some request)).isOk = true

instance (returnCode : UInt8) (data : List UInt8) (request : Command) :
    Decidable (Completing returnCode data request) := by
  unfold Completing
  infer_instance

/-- The events that the widget gets right: requests are short, and operations are asked for while
no command of a discovery is outstanding; and the answers to raw requests complete them. -/
def Sound (widget : Widget) : Event → Prop
  | .ask operations =>
    (∀ command ∈ widget.expectedCommand, command = .singleTx) ∧
      ∀ operation ∈ operations, Operation.Short operation
  | .answer returnCode data _ =>
    widget.expectedCommand = some .rawRdm → ∀ request ∈ widget.pendingRdmRequest,
      Completing returnCode data request
  | _ => True

variable (outstanding : Option (Kind × Callback))

/-- Where the callback of the outstanding operation is kept. -/
def slot (kind : Kind) : Option Callback :=
  match outstanding with
  | none => none
  | some (other, callback) => if other = kind then some callback else none

/-- No status timer is registered. -/
def Unwatched (widget : Widget) : Prop := widget.timers = [] ∧ widget.discStatTimeout = none

/-- No command but a frame is outstanding. -/
def Free (widget : Widget) : Prop :=
  widget.expectedCommand = none ∨ widget.expectedCommand = some .singleTx

/-- How far the outstanding operation has got. A discovery is to be started, its status is checked,
or its UIDs are fetched. Commands for a status or a UID can be left over from an earlier one. -/
inductive Stage (widget : Widget) : Option (Kind × Callback) → Prop
  | idle (unwatched : Unwatched widget) (state : widget.discoveryState ≠ .discoverAutoRequired)
      (command : ∀ command ∈ widget.expectedCommand,
        TriCommandId.forRequest command = false ∧ command ≠ .discoverAuto) : Stage widget none
  | request (callback : Callback) (unwatched : Unwatched widget)
      (state : widget.discoveryState ≠ .discoverAutoRequired)
      (command : ∀ command ∈ widget.expectedCommand,
        command = .singleTx ∨ TriCommandId.forRequest command = true) :
      Stage widget (some (.request, callback))
  | wanted (callback : Callback) (unwatched : Unwatched widget)
      (state : widget.discoveryState = .discoverAutoRequired) (free : Free widget)
      (own : widget.discovering = callback.id) : Stage widget (some (.discovery, callback))
  | checked (callback : Callback) (timeout : Nat)
      (timers : widget.timers = [⟨timeout, callback.id⟩])
      (watched : widget.discStatTimeout = some timeout)
      (state : widget.discoveryState = .noDiscoveryAction ∨
        widget.discoveryState = .discoverStatusRequired)
      (command : ∀ command ∈ widget.expectedCommand,
        command = .singleTx ∨ command = .discoverAuto ∨ command = .discoverStatus) :
      Stage widget (some (.discovery, callback))
  | fetching (callback : Callback) (unwatched : Unwatched widget) (left : widget.uidCount ≠ 0)
      (next : (widget.discoveryState = .fetchUidRequired ∧ Free widget) ∨
        (widget.discoveryState = .noDiscoveryAction ∧
          widget.expectedCommand = some .remoteUid)) :
      Stage widget (some (.discovery, callback))

/-- What is asked for behind the outstanding operation is short. -/
def ShortChain : Prop :=
  ∀ operation ∈ outstanding, ∀ next ∈ operation.2.next, Operation.Short next

/-- The invariant of a widget. -/
structure Books (widget : Widget) (outstanding : Option (Kind × Callback)) : Prop where
  inside : widget.overrun = false
  request : widget.rdmRequestCallback = slot outstanding .request
  discovery : widget.discoveryCallback = slot outstanding .discovery
  pending : widget.pendingRdmRequest.isSome = widget.rdmRequestCallback.isSome
  short : ∀ request ∈ widget.pendingRdmRequest, request.paramData.length ≤ maxParamDataLength
  chain : ShortChain outstanding
  ledger : Ledger widget.trace widget.issued
    (outstanding.map fun operation => (operation.1, operation.2.id))
  stage : Stage widget outstanding

/-- There is something to wait for. -/
def Busy (widget : Widget) (outstanding : Option (Kind × Callback)) : Prop :=
  outstanding ≠ none → widget.expectedCommand.isSome = true ∨ widget.timers ≠ []

variable {returnCode : UInt8} {data : List UInt8}

section Widgets
variable {link : Nat → TriCommandId → Bool} {widget : Widget}
  {outstanding : Option (Kind × Callback)} {callback : Callback}

/-- A widget that has looked for something to do waits for something. -/
theorem Books.busy (books : Books widget outstanding) (rests : widget.resting = true) :
    Busy widget outstanding := by
  intro some
  rcases Option.eq_none_or_eq_some widget.expectedCommand with idle | ⟨command, expected⟩
  · have ⟨_, state, pending⟩ := (resting_idle idle).mp rests
    cases books.stage with
    | idle => exact absurd rfl some
    | request callback _ _ _ =>
      have held := books.pending
      rw [books.request, pending] at held
      cases held
    | wanted callback _ required _ _ =>
      rw [required] at state
      cases state
    | checked callback timeout timers _ _ _ =>
      right
      rw [timers]
      exact List.cons_ne_nil _ _
    | fetching callback _ _ next =>
      rcases next with ⟨required, _⟩ | ⟨_, expected⟩
      · rw [required] at state
        cases state
      · rw [expected] at idle
        cases idle
  · left
    rw [expected]
    rfl

/-- Where no timer is registered, it is a frame that is waited for. -/
theorem Free.frame (free : Free widget) (unwatched : Unwatched widget)
    (busy : widget.expectedCommand.isSome ∨ widget.timers ≠ []) :
    widget.expectedCommand = some .singleTx := by
  rcases free with idle | frame
  · rcases busy with outstanding | watched
    · rw [idle] at outstanding
      cases outstanding
    · exact absurd unwatched.1 watched
  · exact frame

theorem Books.completes (books : Books widget outstanding) (busy : Busy widget outstanding) :
    Completes widget where
  inside := books.inside
  once := books.ledger.justified
  ended id kind member := by
    rcases books.ledger.opened id kind member with done | current
    · exact .inl done
    · right
      cases books.stage with
      | idle => cases current
      | request callback unwatched _ command =>
        cases current
        refine ⟨⟨callback, books.request, rfl⟩, ?_, ?_⟩
        · rw [books.pending, books.request]
          rfl
        · rcases busy (by simp) with outstanding | watched
          · have ⟨other, expected⟩ := Option.isSome_iff_exists.mp outstanding
            exact ⟨other, expected, command other expected⟩
          · exact absurd unwatched.1 watched
      | wanted callback unwatched state free _ =>
        cases current
        refine ⟨⟨callback, books.discovery, rfl⟩, .inl ?_⟩
        refine ⟨.singleTx, free.frame unwatched (busy (by simp)), .inl ⟨rfl, ?_⟩⟩
        rw [state]
        decide
      | checked callback timeout timers _ _ _ =>
        cases current
        refine ⟨⟨callback, books.discovery, rfl⟩, .inr ⟨⟨timeout, callback.id⟩, ?_, rfl⟩⟩
        rw [timers]
        exact List.mem_singleton_self _
      | fetching callback unwatched _ next =>
        cases current
        refine ⟨⟨callback, books.discovery, rfl⟩, .inl ?_⟩
        rcases next with ⟨state, free⟩ | ⟨_, expected⟩
        · refine ⟨.singleTx, free.frame unwatched (busy (by simp)), .inl ⟨rfl, ?_⟩⟩
          rw [state]
          decide
        · exact ⟨.remoteUid, expected, .inr (.inr (.inr rfl))⟩
  timers timer member result := by
    cases books.stage with
    | checked callback timeout timers _ _ _ =>
      rw [timers] at member
      cases List.mem_singleton.mp member
      exact (books.ledger.held .discovery callback.id rfl).2 result
    | idle unwatched _ _ | request _ unwatched _ _ | wanted _ unwatched _ _ _
    | fetching _ unwatched _ _ =>
      rw [unwatched.1] at member
      cases member

/-- What a function leaves behind: it has `MaybeSendNextRequest` called, or all operations are
over. -/
def Done (result : Widget × Bool) : Prop :=
  ∃ outstanding, Books result.1 outstanding ∧ (result.2 = false → outstanding = none)

/-- An operation that is over at once. -/
theorem Books.refused (books : Books widget none) (kind : Kind) (result : Result) :
    Books ((widget.issue kind).record (.ran widget.issued result)) none where
  inside := books.inside
  request := books.request
  discovery := books.discovery
  pending := books.pending
  short := books.short
  chain := books.chain
  ledger := (books.ledger.start kind).run result
  stage := by
    cases books.stage with
    | idle unwatched state command => exact .idle unwatched state command

theorem ask_books (books : Books widget none) (free : Free widget) (operations : List Operation)
    (short : ∀ operation ∈ operations, Operation.Short operation) :
    Done (widget.ask operations) := by
  induction operations generalizing widget with
  | nil => exact ⟨none, books, fun _ => rfl⟩
  | cons operation next ih =>
    have ⟨first, rest⟩ := List.forall_mem_cons.mp short
    have unwatched : Unwatched widget ∧
        widget.discoveryState ≠ .discoverAutoRequired := by
      cases books.stage with
      | idle unwatched state _ => exact ⟨unwatched, state⟩
    cases operation with
    | sendRDMRequest request =>
      cases taken : widget.refusal request with
      | some result =>
        rw [ask_refused taken]
        exact ih (books.refused .request result) free rest
      | none =>
        rw [ask_taken taken]
        refine ⟨some (.request, ⟨widget.issued, next⟩), ?_, nofun⟩
        refine ⟨books.inside, rfl, books.discovery, rfl, ?_, ?_, ?_, ?_⟩
        · intro other same
          cases same
          exact first
        · intro other same
          cases same
          exact rest
        · exact books.ledger.start .request
        · refine .request _ unwatched.1 unwatched.2 ?_
          intro command expected
          rcases free with idle | frame
          · cases idle.symm.trans expected
          · cases frame.symm.trans expected
            exact .inl rfl
    | runIncrementalDiscovery =>
      rw [ask_starts books.discovery]
      refine ⟨some (.discovery, ⟨widget.issued, next⟩), ?_, nofun⟩
      refine ⟨books.inside, books.request, rfl, books.pending, books.short, ?_, ?_, ?_⟩
      · intro other same
        cases same
        exact rest
      · exact books.ledger.start .discovery
      · exact Stage.wanted _ unwatched.1 rfl free rfl

/-- A callback that is run when nothing waits any more. -/
theorem finish_books {kind : Kind} (inside : widget.overrun = false)
    (request : widget.rdmRequestCallback = none) (discovery : widget.discoveryCallback = none)
    (pending : widget.pendingRdmRequest = none) (idle : widget.expectedCommand = none)
    (unwatched : Unwatched widget) (state : widget.discoveryState ≠ .discoverAutoRequired)
    (ledger : Ledger widget.trace widget.issued (some (kind, callback.id)))
    (short : ∀ operation ∈ callback.next, Operation.Short operation) (result : Result) :
    Done (widget.finish callback result) := by
  apply @ask_books (widget.record (.ran callback.id result)) _ (.inl idle) callback.next short
  refine ⟨inside, request, discovery, ?_, ?_, nofun, ledger.run result, ?_⟩
  · show widget.pendingRdmRequest.isSome = widget.rdmRequestCallback.isSome
    rw [pending, request]
    rfl
  · intro other held
    cases pending.symm.trans held
  · refine .idle unwatched state ?_
    intro command expected
    cases idle.symm.trans expected

/-- What the next command is does not matter to how far the operation has got. -/
theorem Stage.of_eq {other : Widget} (stage : Stage widget outstanding)
    (timers : other.timers = widget.timers)
    (timeout : other.discStatTimeout = widget.discStatTimeout)
    (state : other.discoveryState = widget.discoveryState)
    (left : other.uidCount = widget.uidCount) (own : other.discovering = widget.discovering)
    (expected : other.expectedCommand = widget.expectedCommand ∨
      (widget.expectedCommand = none ∧ other.expectedCommand = some .singleTx)) :
    Stage other outstanding := by
  have unwatched : Unwatched widget → Unwatched other := fun unwatched =>
    ⟨timers.trans unwatched.1, timeout.trans unwatched.2⟩
  have free : Free widget → Free other := by
    intro free
    rcases expected with same | ⟨_, frame⟩
    · unfold Free
      rw [same]
      exact free
    · exact .inr frame
  have command : ∀ ok : TriCommandId → Prop, ok .singleTx →
      (∀ command ∈ widget.expectedCommand, ok command) →
      ∀ command ∈ other.expectedCommand, ok command := by
    intro ok frame all
    rcases expected with same | ⟨_, sent⟩
    · rw [same]
      exact all
    · rw [sent]
      intro command member
      cases member
      exact frame
  cases stage with
  | idle still other commands =>
    refine .idle (unwatched still) (by rw [state]; exact other) ?_
    exact command _ ⟨rfl, by decide⟩ commands
  | request callback still other commands =>
    refine .request callback (unwatched still) (by rw [state]; exact other) ?_
    exact command _ (.inl rfl) commands
  | wanted callback still required idle mine =>
    exact .wanted callback (unwatched still) (state.trans required) (free idle)
      (own.trans mine)
  | checked callback timer registered watched states commands =>
    refine .checked callback timer (timers.trans registered) (timeout.trans watched)
      (by rw [state]; exact states) ?_
    exact command _ (.inl rfl) commands
  | fetching callback still some next =>
    refine .fetching callback (unwatched still) (by rw [left]; exact some) ?_
    rw [state]
    rcases next with ⟨required, idle⟩ | ⟨required, sent⟩
    · exact .inl ⟨required, free idle⟩
    · right
      rcases expected with same | ⟨idle, _⟩
      · exact ⟨required, same.trans sent⟩
      · cases sent.symm.trans idle

/-- A function leaves something to wait for behind, or it has `MaybeSendNextRequest` called. -/
def Answered (result : Widget × Bool) : Prop :=
  ∃ outstanding, Books result.1 outstanding ∧ (result.2 = false → Busy result.1 outstanding)

theorem Done.answered {result : Widget × Bool} (done : Done result) : Answered result := by
  have ⟨outstanding, books, ended⟩ := done
  exact ⟨outstanding, books, fun quiet some => absurd (ended quiet) some⟩

theorem handleRDMError_books (books : Books widget (some (.request, callback)))
    (idle : widget.expectedCommand = none) (code : ResponseCode) :
    Done (widget.handleRDMError code) := by
  have held : widget.rdmRequestCallback = some callback := books.request
  have ⟨unwatched, state⟩ : Unwatched widget ∧
      widget.discoveryState ≠ .discoverAutoRequired := by
    cases books.stage with
    | request _ unwatched state _ => exact ⟨unwatched, state⟩
  unfold handleRDMError
  rw [held]
  exact @finish_books { widget with pendingRdmRequest := none, rdmRequestCallback := none }
    callback .request books.inside rfl books.discovery rfl idle unwatched state books.ledger
    (books.chain _ rfl) _

theorem completeDiscovery_books (inside : widget.overrun = false)
    (request : widget.rdmRequestCallback = none)
    (discovery : widget.discoveryCallback = some callback)
    (pending : widget.pendingRdmRequest = none) (idle : widget.expectedCommand = none)
    (unwatched : Unwatched widget) (state : widget.discoveryState ≠ .discoverAutoRequired)
    (ledger : Ledger widget.trace widget.issued (some (.discovery, callback.id)))
    (short : ∀ operation ∈ callback.next, Operation.Short operation) :
    Done widget.completeDiscovery := by
  unfold completeDiscovery
  rw [discovery]
  exact @finish_books { widget with discoveryCallback := none } callback .discovery inside request
    rfl pending idle unwatched state ledger short _

/-- A widget that does not wait for the answer to a request has none. -/
theorem Books.noPending (books : Books widget outstanding)
    (other : slot outstanding .request = none) : widget.pendingRdmRequest = none := by
  have pending := books.pending
  rw [books.request, other] at pending
  exact Option.isNone_iff_eq_none.mp (Option.isSome_eq_false_iff.mp pending)

/-- What has been written does not matter. -/
theorem Books.wrote (books : Books widget outstanding) (written : List (List UInt8)) :
    Books { widget with written := written } outstanding :=
  { books with stage := books.stage.of_eq rfl rfl rfl rfl rfl (.inl rfl) }

theorem sendForRequest_books (books : Books widget (some (.request, callback)))
    (idle : widget.expectedCommand = none) {command : TriCommandId}
    (own : TriCommandId.forRequest command = true) (arguments : List UInt8) :
    Answered (widget.sendForRequest link command arguments) := by
  rcases sendForRequest_cases link widget command arguments with ⟨_, sent⟩ | ⟨_, failed⟩
  · rw [sent]
    refine ⟨some (.request, callback), ?_, fun _ _ => .inl rfl⟩
    refine { books with stage := ?_ }
    cases books.stage with
    | request _ unwatched state _ =>
      refine .request callback unwatched state ?_
      intro other same
      cases same
      exact .inr own
  · rw [failed]
    have wrote := books.wrote (widget.written ++ [command.value :: arguments])
    exact (handleRDMError_books wrote idle .failedToSend).answered

variable {request : Command} {command : TriCommandId}

theorem message_forRequest {arguments : List UInt8}
    (message : widget.message request = .ok (command, arguments)) :
    TriCommandId.forRequest command = true := by
  unfold Widget.message at message
  by_cases queue : request.paramId = pidQueuedMessage ∧ request.commandClass = .getCommand
  · rw [if_pos queue] at message
    split at message
    · cases message
    · split at message
      · cases message
      · cases message
        rfl
  · rw [if_neg queue] at message
    dsimp only at message
    split at message
    · cases message
    next known =>
      have own : TriCommandId.forRequest ‹TriCommandId› = true := by
        split at known
        · cases known
          rfl
        · cases known
          rfl
        · cases known
      split at message
      · cases message
        exact own
      · split at message
        · cases message
        · cases message
          exact own

section
variable (books : Books widget (some (.request, callback))) (idle : widget.expectedCommand = none)
  (held : widget.pendingRdmRequest = some request)
include books idle held

theorem dispatchRequest_books :
    Answered (widget.dispatchRequest link request) := by
  unfold dispatchRequest
  cases message : widget.message request with
  | error code => exact (handleRDMError_books books idle code).answered
  | ok command =>
    have ⟨command, arguments⟩ := command
    have fits := books.short request held
    have inside : (widget.copyParamData command request).overrun = false := by
      show (widget.overrun || (_ && decide (maxParamDataLength < _))) = false
      rw [books.inside, decide_eq_false (Nat.not_lt.mpr fits), Bool.and_false, Bool.or_false]
    have stage : Stage (widget.copyParamData command request) (some (.request, callback)) :=
      books.stage.of_eq rfl rfl rfl rfl rfl (.inl rfl)
    exact @sendForRequest_books link (widget.copyParamData command request) callback
      ⟨inside, books.request, books.discovery, books.pending, books.short, books.chain,
        books.ledger, stage⟩ idle command (message_forRequest message) arguments

theorem sendRawRDMRequest_books :
    Answered (widget.sendRawRDMRequest link request) := by
  have pending : true = widget.rdmRequestCallback.isSome := by
    rw [← books.pending, held]
    rfl
  have own : Books { widget with
      pendingRdmRequest := some { request with
        transactionNumber := widget.transactionNumber, portId := 1 } }
      (some (.request, callback)) := by
    refine { books with
      pending := pending
      short := ?_
      stage := books.stage.of_eq rfl rfl rfl rfl rfl (.inl rfl) }
    intro other same
    cases same
    exact books.short request held
  unfold sendRawRDMRequest
  dsimp only
  split
  · exact (handleRDMError_books own idle .failedToSend).answered
  next packet size packed =>
    rcases sendCommand_cases link { widget with
      pendingRdmRequest := some { request with
        transactionNumber := widget.transactionNumber, portId := 1 } } .rawRdm
      ((if isDUBRequest { request with
        transactionNumber := widget.transactionNumber, portId := 1 } then 2 else 0) :: packet)
      with ⟨_, sent⟩ | ⟨_, failed⟩
    · rw [sent]
      refine ⟨some (.request, callback), ?_, fun _ _ => .inl rfl⟩
      refine { own with stage := ?_ }
      cases books.stage with
      | request _ unwatched state _ =>
        refine .request callback unwatched state ?_
        intro other same
        cases same
        exact .inr rfl
    · rw [failed]
      exact (handleRDMError_books (own.wrote _) idle .failedToSend).answered

end

theorem sendQueuedRDMCommand_books (books : Books widget (some (.request, callback)))
    (idle : widget.expectedCommand = none) {request : Command}
    (held : widget.pendingRdmRequest = some request) :
    Answered (widget.sendQueuedRDMCommand link request) := by
  unfold sendQueuedRDMCommand
  split_ifs
  · exact (handleRDMError_books books idle .unknownUid).answered
  · exact sendRawRDMRequest_books books idle held
  · exact sendForRequest_books books idle rfl _
  · exact dispatchRequest_books books idle held

theorem sendDMXBuffer_books (books : Books widget outstanding)
    (idle : widget.expectedCommand = none) :
    Books (widget.sendDMXBuffer link) outstanding := by
  unfold sendDMXBuffer
  rcases sendCommand_cases link { widget with outgoingDmx := widget.outgoingDmx.reset } .singleTx
    ([0, 0] ++ widget.outgoingDmx.slots) with ⟨_, sent⟩ | ⟨_, failed⟩
  · rw [sent]
    exact { books with stage := books.stage.of_eq rfl rfl rfl rfl rfl (.inr ⟨idle, rfl⟩) }
  · rw [failed]
    exact { books with stage := books.stage.of_eq rfl rfl rfl rfl rfl (.inl rfl) }

/-- The commands of a discovery that has to be gone on with are sent. -/
def Reliable (link : Nat → TriCommandId → Bool) : Prop :=
  ∀ count, link count .discoverStatus = true ∧ link count .remoteUid = true

theorem noAction_ne :
    TriDiscoveryState.noDiscoveryAction ≠ .discoverAutoRequired := by decide

theorem fetch_ne : TriDiscoveryState.fetchUidRequired ≠ .discoverAutoRequired := by decide

theorem sendDiscoveryStart_books (books : Books widget outstanding)
    (idle : widget.expectedCommand = none)
    (required : widget.discoveryState = .discoverAutoRequired) :
    ∃ after, Books (widget.sendDiscoveryStart link).1 after := by
  have ⟨callback, unwatched, own, same⟩ : ∃ callback, Unwatched widget ∧
      widget.discovering = callback.id ∧ outstanding = some (.discovery, callback) := by
    cases books.stage with
    | idle _ state _ | request _ _ state _ => exact absurd required state
    | wanted callback unwatched _ _ own => exact ⟨callback, unwatched, own, rfl⟩
    | checked _ _ _ _ state _ =>
      rw [required] at state
      rcases state with other | other <;> cases other
    | fetching _ _ _ next =>
      rw [required] at next
      rcases next with ⟨other, _⟩ | ⟨other, _⟩ <;> cases other
  subst same
  unfold sendDiscoveryStart
  rcases sendCommand_cases link { widget with discoveryState := .noDiscoveryAction } .discoverAuto
    [] with ⟨_, sent⟩ | ⟨_, failed⟩
  · rw [sent]
    refine ⟨some (.discovery, callback), { books with stage := ?_ }⟩
    refine .checked callback widget.registered ?_ rfl (.inl rfl) ?_
    · show widget.timers ++ [⟨widget.registered, widget.discovering⟩] = _
      rw [unwatched.1, own, List.nil_append]
    · intro command same
      cases same
      exact .inr (.inl rfl)
  · rw [failed]
    have ⟨after, done, _⟩ := @completeDiscovery_books { widget with
      discoveryState := .noDiscoveryAction
      written := widget.written ++ [[TriCommandId.discoverAuto.value]] } callback books.inside
      books.request books.discovery (books.noPending rfl) idle unwatched noAction_ne books.ledger
      (books.chain _ rfl)
    exact ⟨after, done⟩

section

variable (reliable : Reliable link) (books : Books widget outstanding)
include reliable books

theorem sendDiscoveryStat_books (nothing : widget.pendingRdmRequest = none)
    (required : widget.discoveryState = .discoverStatusRequired) :
    ∃ after, Books (widget.sendDiscoveryStat link).1 after := by
  unfold sendDiscoveryStat
  rcases sendCommand_cases link { widget with discoveryState := .noDiscoveryAction }
    .discoverStatus [] with ⟨_, sent⟩ | ⟨fails, _⟩
  · rw [sent]
    refine ⟨outstanding, { books with stage := ?_ }⟩
    cases books.stage with
    | idle unwatched _ _ =>
      refine .idle unwatched noAction_ne ?_
      intro command same
      cases same
      exact ⟨rfl, by decide⟩
    | request callback _ _ _ =>
      have held := books.pending
      rw [nothing, books.request] at held
      cases held
    | wanted _ _ state _ _ =>
      rw [required] at state
      cases state
    | checked callback timeout timers watched _ _ =>
      refine .checked callback timeout timers watched (.inl rfl) ?_
      intro command same
      cases same
      exact .inr (.inr rfl)
    | fetching _ _ _ next =>
      rw [required] at next
      rcases next with ⟨other, _⟩ | ⟨other, _⟩ <;> cases other
  · have sends := (reliable widget.written.length).1
    rw [show link widget.written.length .discoverStatus = false from fails] at sends
    cases sends

theorem fetchNextUID_books (nothing : widget.pendingRdmRequest = none)
    (idle : widget.expectedCommand = none) (required : widget.discoveryState = .fetchUidRequired) :
    Books (widget.fetchNextUID link) outstanding := by
  unfold fetchNextUID
  dsimp only
  rcases sendCommand_cases link { widget with discoveryState := .noDiscoveryAction } .remoteUid
    [widget.uidCount] with ⟨_, sent⟩ | ⟨fails, _⟩
  · rw [sent]
    cases books.stage with
    | idle unwatched _ _ =>
      split_ifs
      · refine { books with stage := .idle unwatched noAction_ne ?_ }
        intro command same
        cases idle.symm.trans same
      · refine { books with stage := .idle unwatched noAction_ne ?_ }
        intro command same
        cases same
        exact ⟨rfl, by decide⟩
    | request callback _ _ _ =>
      have held := books.pending
      rw [nothing, books.request] at held
      cases held
    | wanted _ _ state _ _ =>
      rw [required] at state
      cases state
    | checked _ _ _ _ state _ =>
      rw [required] at state
      rcases state with other | other <;> cases other
    | fetching callback unwatched left _ =>
      rw [if_neg left]
      exact { books with stage := .fetching callback unwatched left (.inr ⟨rfl, rfl⟩) }
  · have sends := (reliable widget.written.length).2
    rw [show link widget.written.length .remoteUid = false from fails] at sends
    cases sends

theorem pass_books : ∃ after, Books (widget.pass link) after := by
  unfold Widget.pass
  rcases Option.eq_none_or_eq_some widget.expectedCommand with idle | ⟨command, expected⟩
  · rw [if_neg (by rw [idle]; decide)]
    by_cases frame : widget.outgoingDmx.size ≠ 0 ∧ widget.lastCommand ≠ some .singleTx
    · rw [if_pos frame]
      exact ⟨outstanding, sendDMXBuffer_books books idle⟩
    · rw [if_neg frame]
      rcases Option.eq_none_or_eq_some widget.pendingRdmRequest with nothing | ⟨request, held⟩
      · rw [nothing]
        cases required : widget.discoveryState with
        | discoverAutoRequired => exact sendDiscoveryStart_books books idle required
        | discoverStatusRequired => exact sendDiscoveryStat_books reliable books nothing required
        | fetchUidRequired =>
          exact ⟨outstanding, fetchNextUID_books reliable books nothing idle required⟩
        | noDiscoveryAction =>
          split_ifs
          · exact ⟨outstanding, sendDMXBuffer_books books idle⟩
          · exact ⟨outstanding, books⟩
      · rw [held]
        have pending := books.pending
        rw [held, books.request] at pending
        cases outstanding with
        | none => cases pending
        | some operation =>
          have ⟨kind, callback⟩ := operation
          cases kind with
          | discovery => cases pending
          | request =>
            have ⟨after, done, _⟩ := @sendQueuedRDMCommand_books link _ _ books idle _ held
            exact ⟨after, done⟩
  · rw [if_pos (by rw [expected]; rfl)]
    exact ⟨outstanding, books⟩

end

/-- What holds of a widget whenever the event loop is in control. -/
def Proper (widget : Widget) : Prop :=
  ∃ outstanding, Books widget outstanding ∧ Busy widget outstanding

theorem Proper.completes (proper : Proper widget) : Completes widget := by
  have ⟨_, books, busy⟩ := proper
  exact books.completes busy

theorem maybeSendNextRequest_proper (reliable : Reliable link)
    (books : Books widget outstanding) : Proper (widget.maybeSendNextRequest link) := by
  have ⟨after, done⟩ : ∃ after, Books (widget.maybeSendNextRequest link) after := by
    refine @iterate_invariant Widget (Widget.pass link) (fun widget => ∃ after, Books widget after) ?_
      widget ⟨_, books⟩ widget.load
    intro state ⟨_, held⟩
    exact pass_books reliable held
  exact ⟨after, done, done.busy (maybeSendNextRequest_resting widget)⟩

theorem settle_proper (reliable : Reliable link) {result : Widget × Bool}
    (answered : Answered result) : Proper (settle link result) := by
  have ⟨outstanding, books, busy⟩ := answered
  unfold settle
  cases polls : result.2 with
  | true => exact maybeSendNextRequest_proper reliable books
  | false => exact ⟨outstanding, books, busy polls⟩

/-- The widget while it handles the answer to a command. -/
def Handling (widget : Widget) (command : TriCommandId) : Widget :=
  { widget with lastCommand := some command, expectedCommand := none }

/-- The answer to any command but that for a UID leaves the operation where it is. -/
theorem Books.handling (books : Books widget outstanding)
    (expected : widget.expectedCommand = some command) (other : command ≠ .remoteUid) :
    Books (Handling widget command) outstanding := by
  refine { books with stage := ?_ }
  cases books.stage with
  | idle unwatched state _ => exact .idle unwatched state nofun
  | request callback unwatched state _ => exact .request callback unwatched state nofun
  | wanted callback unwatched state _ own =>
    exact .wanted callback unwatched state (.inl rfl) own
  | checked callback timeout timers watched state _ =>
    exact .checked callback timeout timers watched state nofun
  | fetching callback unwatched left next =>
    rcases next with ⟨state, _⟩ | ⟨_, uid⟩
    · exact .fetching callback unwatched left (.inl ⟨state, .inl rfl⟩)
    · cases expected.symm.trans uid
      exact absurd rfl other

theorem Books.ofRequest (books : Books widget outstanding)
    (expected : widget.expectedCommand = some command)
    (own : TriCommandId.forRequest command = true) :
    ∃ callback, outstanding = some (.request, callback) := by
  cases books.stage with
  | request callback _ _ _ => exact ⟨callback, rfl⟩
  | idle _ _ commands =>
    have other := (commands command expected).1
    rw [own] at other
    cases other
  | wanted _ _ _ free _ =>
    rcases free with idle | frame
    · cases expected.symm.trans idle
    · cases expected.symm.trans frame
      cases own
  | checked _ _ _ _ _ commands =>
    rcases commands command expected with same | same | same
    all_goals
      rw [same] at own
      cases own
  | fetching _ _ _ next =>
    rcases next with ⟨_, free⟩ | ⟨_, uid⟩
    · rcases free with idle | frame
      · cases expected.symm.trans idle
      · cases expected.symm.trans frame
        cases own
    · cases expected.symm.trans uid
      cases own

theorem stopDiscovery_watched {timeout discovery : Nat}
    (timers : widget.timers = [⟨timeout, discovery⟩])
    (watched : widget.discStatTimeout = some timeout) :
    widget.stopDiscovery = { widget with timers := [], discStatTimeout := none } := by
  unfold stopDiscovery
  rw [watched]
  rw [timers]
  simp

theorem stopDiscovery_unwatched (unwatched : Unwatched widget) : widget.stopDiscovery = widget := by
  unfold stopDiscovery
  rw [unwatched.2]

/-- A discovery that is checked comes to an end. -/
theorem stop_books (books : Books widget (some (.discovery, callback)))
    (idle : widget.expectedCommand = none)
    (state : widget.discoveryState ≠ .discoverAutoRequired) :
    Done { widget with timers := [], discStatTimeout := none }.completeDiscovery :=
  @completeDiscovery_books { widget with timers := [], discStatTimeout := none } callback
    books.inside books.request books.discovery (books.noPending rfl) idle ⟨rfl, rfl⟩ state
    books.ledger (books.chain _ rfl)

theorem checked_state (state : widget.discoveryState = .noDiscoveryAction ∨
    widget.discoveryState = .discoverStatusRequired) :
    widget.discoveryState ≠ .discoverAutoRequired := by
  intro other
  rw [other] at state
  rcases state with wrong | wrong <;> cases wrong

theorem auto_answered (books : Books widget outstanding)
    (expected : widget.expectedCommand = some .discoverAuto) (returnCode : UInt8) :
    Answered ((Handling widget .discoverAuto).handleDiscoveryAutoResponse returnCode) := by
  have handling := books.handling expected (by decide)
  have ⟨callback, timeout, timers, watched, state, same⟩ : ∃ callback timeout,
      widget.timers = [⟨timeout, callback.id⟩] ∧ widget.discStatTimeout = some timeout ∧
        widget.discoveryState ≠ .discoverAutoRequired ∧
        outstanding = some (.discovery, callback) := by
    cases books.stage with
    | checked callback timeout timers watched state _ =>
      exact ⟨callback, timeout, timers, watched, checked_state state, rfl⟩
    | idle _ _ commands => exact absurd rfl (commands _ expected).2
    | request _ _ _ commands => rcases commands _ expected with wrong | wrong <;> cases wrong
    | wanted _ _ _ free _ =>
      rcases free with other | other <;> cases expected.symm.trans other
    | fetching _ _ _ next =>
      rcases next with ⟨_, free⟩ | ⟨_, uid⟩
      · rcases free with other | other <;> cases expected.symm.trans other
      · cases expected.symm.trans uid
  subst same
  unfold handleDiscoveryAutoResponse
  split_ifs
  · rw [@stopDiscovery_watched (Handling widget .discoverAuto) timeout callback.id timers watched]
    exact (stop_books handling rfl state).answered
  · refine ⟨_, handling, fun _ _ => .inr ?_⟩
    show widget.timers ≠ []
    rw [timers]
    exact List.cons_ne_nil _ _

/-- There is no discovery to come to an end. -/
theorem stray_books (books : Books widget none) : Done widget.completeDiscovery := by
  have absent : widget.discoveryCallback = none := books.discovery
  have same : widget.completeDiscovery = (widget, false) := by
    unfold completeDiscovery
    rw [absent]
  rw [same]
  exact ⟨none, books, fun _ => rfl⟩

/-- A status that is answered once the discovery it was asked for has come to its end. -/
theorem stray_answered (books : Books widget none)
    (expected : widget.expectedCommand = some .discoverStatus) (returnCode : UInt8)
    (data : List UInt8) (behind : UInt8) :
    Done ((Handling widget .discoverStatus).handleDiscoverStatResponse returnCode data behind) := by
  have handling := books.handling expected (by decide)
  have ⟨unwatched, state⟩ : Unwatched widget ∧
      widget.discoveryState ≠ .discoverAutoRequired := by
    cases books.stage with
    | idle unwatched state _ => exact ⟨unwatched, state⟩
  unfold handleDiscoverStatResponse
  rw [@stopDiscovery_unwatched (Handling widget .discoverStatus) unwatched,
    @stopDiscovery_unwatched { Handling widget .discoverStatus with uidIndexMap := ∅ } unwatched]
  split_ifs
  · split
    · exact ⟨none, handling, fun _ => rfl⟩
    next count rest =>
      split_ifs
      · exact ⟨none, { books with stage := .idle unwatched fetch_ne nofun }, nofun⟩
      · exact @stray_books { Handling widget .discoverStatus with
          uidCount := count
          uidIndexMap := ∅ } { books with stage := .idle unwatched state nofun }
      · exact ⟨none, handling, fun _ => rfl⟩
  · exact @stray_books { Handling widget .discoverStatus with uidIndexMap := ∅ }
      { books with stage := .idle unwatched state nofun }

theorem status_answered (books : Books widget outstanding)
    (expected : widget.expectedCommand = some .discoverStatus) (returnCode : UInt8)
    (data : List UInt8) (behind : UInt8) :
    Answered ((Handling widget .discoverStatus).handleDiscoverStatResponse returnCode data
      behind) := by
  have handling := books.handling expected (by decide)
  cases books.stage with
  | idle _ _ _ => exact (stray_answered books expected returnCode data behind).answered
  | request _ _ _ commands => rcases commands _ expected with wrong | wrong <;> cases wrong
  | wanted _ _ _ free _ => rcases free with other | other <;> cases expected.symm.trans other
  | fetching _ _ _ next =>
    rcases next with ⟨_, free⟩ | ⟨_, uid⟩
    · rcases free with other | other <;> cases expected.symm.trans other
    · cases expected.symm.trans uid
  | checked callback timeout timers watched state _ =>
    have still : Answered (Handling widget .discoverStatus, false) := by
      refine ⟨_, handling, fun _ _ => .inr ?_⟩
      show widget.timers ≠ []
      rw [timers]
      exact List.cons_ne_nil _ _
    unfold handleDiscoverStatResponse
    rw [@stopDiscovery_watched (Handling widget .discoverStatus) timeout callback.id timers
      watched, @stopDiscovery_watched { Handling widget .discoverStatus with uidIndexMap := ∅ }
        timeout callback.id timers watched]
    split_ifs
    · split
      · exact still
      next count rest =>
        split_ifs
        next some =>
          refine ⟨_, { books with stage := ?_ }, nofun⟩
          exact .fetching callback ⟨rfl, rfl⟩ some (.inl ⟨rfl, .inl rfl⟩)
        · exact (@stop_books { Handling widget .discoverStatus with
            uidCount := count
            uidIndexMap := ∅ } callback
              { books with stage := .checked callback timeout timers watched state nofun } rfl
              (checked_state state)).answered
        · exact still
    · exact (@stop_books { Handling widget .discoverStatus with uidIndexMap := ∅ } callback
        { books with stage := .checked callback timeout timers watched state nofun } rfl
          (checked_state state)).answered

theorem uid_answered (books : Books widget outstanding)
    (expected : widget.expectedCommand = some .remoteUid) (returnCode : UInt8)
    (data : List UInt8) :
    Answered ((Handling widget .remoteUid).handleRemoteUIDResponse returnCode data) := by
  unfold handleRemoteUIDResponse
  dsimp only
  cases books.stage with
  | request _ _ _ commands => rcases commands _ expected with wrong | wrong <;> cases wrong
  | wanted _ _ _ free _ => rcases free with other | other <;> cases expected.symm.trans other
  | checked _ _ _ _ _ commands =>
    rcases commands _ expected with wrong | wrong | wrong <;> cases wrong
  | idle unwatched state _ =>
    split_ifs
    · exact ⟨none, { books with stage := .idle unwatched state nofun },
        fun _ some => absurd rfl some⟩
    · exact ⟨none, { books with stage := .idle unwatched fetch_ne nofun }, nofun⟩
    · exact (@stray_books { Handling widget .remoteUid with
        uidIndexMap := (Handling widget .remoteUid).fetched returnCode data
        uidCount := widget.uidCount - 1 } { books with stage := .idle unwatched state nofun }).answered
  | fetching callback unwatched left next =>
    have state : widget.discoveryState = .noDiscoveryAction := by
      rcases next with ⟨_, free⟩ | ⟨state, _⟩
      · rcases free with other | other <;> cases expected.symm.trans other
      · exact state
    rw [if_neg (show ¬ (Handling widget .remoteUid).uidCount = 0 from left)]
    split_ifs with more
    · refine ⟨some (.discovery, callback), { books with stage := ?_ }, nofun⟩
      exact .fetching callback unwatched more (.inl ⟨rfl, .inl rfl⟩)
    · exact (@completeDiscovery_books { Handling widget .remoteUid with
        uidIndexMap := (Handling widget .remoteUid).fetched returnCode data
        uidCount := widget.uidCount - 1 } callback books.inside books.request books.discovery
          (books.noPending rfl) rfl unwatched
          (by show widget.discoveryState ≠ _; rw [state]; decide) books.ledger
          (books.chain _ rfl)).answered

section
variable (books : Books widget (some (.request, callback))) (idle : widget.expectedCommand = none)
include books idle

theorem request_answered (result : Result) :
    Done ({ widget with pendingRdmRequest := none, rdmRequestCallback := none }.finish callback
      result) := by
  cases books.stage with
  | request _ unwatched state _ =>
    exact @finish_books { widget with pendingRdmRequest := none, rdmRequestCallback := none }
      callback .request books.inside rfl books.discovery rfl idle unwatched state books.ledger
      (books.chain _ rfl) result

theorem generic_answered (returnCode : UInt8) (pid : UInt16) (data : List UInt8) :
    Done (widget.handleGenericRDMResponse returnCode pid data) := by
  have held : widget.rdmRequestCallback = some callback := books.request
  have pending := books.pending
  rw [held] at pending
  have ⟨request, stored⟩ := Option.isSome_iff_exists.mp pending
  unfold handleGenericRDMResponse
  rw [held, stored]
  exact request_answered books idle _

/-- The request is submitted once more, for the managed mode. -/
theorem resubmit_books (stored : widget.pendingRdmRequest = some request) :
    Done ({ widget with
      pendingRdmRequest := none
      rdmRequestCallback := none
      useRawRdm := false }.resubmit request callback) := by
  unfold resubmit refusal
  cases isDUBRequest request with
  | true =>
    cases books.stage with
    | request _ unwatched state _ =>
      exact @finish_books { widget with
        pendingRdmRequest := none
        rdmRequestCallback := none
        useRawRdm := false } callback .request books.inside rfl books.discovery rfl idle
          unwatched state books.ledger (books.chain _ rfl) _
  | false =>
    refine ⟨some (.request, callback), ⟨books.inside, rfl, books.discovery, rfl, ?_,
      books.chain, books.ledger, books.stage.of_eq rfl rfl rfl rfl rfl (.inl rfl)⟩, nofun⟩
    intro other same
    cases same
    exact books.short request stored

theorem raw_answered (stored : widget.pendingRdmRequest = some request)
    (completing : Completing returnCode data request) :
    Done (widget.handleRawRDMResponse returnCode data) := by
  have held : widget.rdmRequestCallback = some callback := books.request
  have finished := fun result => request_answered books idle result
  unfold handleRawRDMResponse
  rw [held, stored]
  dsimp only
  by_cases unknown : ErrorCode.ofByte returnCode = .unknownCommand
  · rw [if_pos unknown]
    exact resubmit_books books idle stored
  · have done := completing.resolve_left unknown
    by_cases none : ErrorCode.ofByte returnCode = .responseNone
    · rw [if_pos none]
      split_ifs
      · exact finished _
      · exact finished _
      · exact finished _
    · have found := done.resolve_left none
      split_ifs at found ⊢ with dub broadcast
      · exact finished _
      · exact finished _
      · have inflates := found.resolve_left broadcast
        split
        next reason wrong =>
          rw [wrong] at inflates
          cases inflates
        · exact finished _

theorem filter_answered (returnCode : UInt8) :
    Answered (widget.handleSetFilterResponse link returnCode) := by
  have pending := books.pending
  rw [show widget.rdmRequestCallback = some callback from books.request] at pending
  have ⟨request, stored⟩ := Option.isSome_iff_exists.mp pending
  rw [handleSetFilterResponse_eq stored]
  split_ifs
  · have filtered : Books { widget with lastEstaId := request.destination.estaId }
        (some (.request, callback)) :=
      { books with stage := books.stage.of_eq rfl rfl rfl rfl rfl (.inl rfl) }
    exact dispatchRequest_books filtered idle stored
  · exact (handleRDMError_books books idle .failedToSend).answered

theorem remote_answered (returnCode : UInt8) (data : List UInt8) :
    Done (widget.handleRemoteRDMResponse returnCode data) := by
  have pending := books.pending
  rw [show widget.rdmRequestCallback = some callback from books.request] at pending
  have ⟨request, stored⟩ := Option.isSome_iff_exists.mp pending
  unfold handleRemoteRDMResponse
  rw [stored]
  exact generic_answered books idle returnCode request.paramId data

theorem queuedGet_answered (returnCode : UInt8) (data : List UInt8) :
    Done (widget.handleQueuedGetResponse returnCode data) := by
  unfold handleQueuedGetResponse
  split
  next high low rest => exact generic_answered books idle returnCode (word (high, low)) rest
  · exact handleRDMError_books books idle .invalidResponse

end

theorem command_answered (books : Books widget outstanding)
    (expected : widget.expectedCommand = some command) (behind : UInt8)
    (completing : command = .rawRdm → ∀ request ∈ widget.pendingRdmRequest,
      Completing returnCode data request) :
    Answered ((Handling widget command).handleCommand link (some command) returnCode data
      behind) := by
  cases own : TriCommandId.forRequest command with
  | false =>
    cases command with
    | singleTx => exact ⟨outstanding, books.handling expected (by decide), nofun⟩
    | discoverAuto => exact auto_answered books expected returnCode
    | discoverStatus => exact status_answered books expected returnCode data behind
    | remoteUid => exact uid_answered books expected returnCode data
    | rawRdm | remoteGet | remoteSet | queuedGet | setFilter => cases own
  | true =>
    have ⟨callback, same⟩ := books.ofRequest expected own
    subst same
    have handling := books.handling expected (by rintro rfl; cases own)
    have pending := books.pending
    rw [show widget.rdmRequestCallback = some callback from books.request] at pending
    have ⟨request, stored⟩ := Option.isSome_iff_exists.mp pending
    cases command with
    | singleTx | discoverAuto | discoverStatus | remoteUid => cases own
    | rawRdm => exact (raw_answered handling rfl stored (completing rfl request stored)).answered
    | remoteGet | remoteSet => exact (remote_answered handling rfl returnCode data).answered
    | queuedGet => exact (queuedGet_answered handling rfl returnCode data).answered
    | setFilter => exact filter_answered handling rfl returnCode

end Widgets

section Runs
variable {link : Nat → TriCommandId → Bool} {widget : Widget} {event : Event}

instance (widget : Widget) : ∀ event, Decidable (Alone widget event)
  | .ask _ => inferInstanceAs (Decidable (_ ∧ _))
  | .sendDMX _ | .useRawRDM _ | .answer _ _ _ | .tick _ => .isTrue trivial

instance (widget : Widget) : ∀ event, Decidable (Sound widget event)
  | .ask _ => inferInstanceAs (Decidable (_ ∧ ∀ operation ∈ _, Operation.Short operation))
  | .answer _ _ _ => inferInstanceAs (Decidable (_ → ∀ request ∈ _, Completing _ _ request))
  | .sendDMX _ | .useRawRDM _ | .tick _ => .isTrue trivial

theorem new_proper (useRawRdm : Bool) : Proper (.new useRawRdm) :=
  ⟨none, ⟨rfl, rfl, rfl, rfl, nofun, nofun, ledger_nil, .idle ⟨rfl, rfl⟩ noAction_ne nofun⟩,
    fun some => absurd rfl some⟩

section
variable (reliable : Reliable link) (proper : Proper widget)
include reliable proper

theorem ask_proper {operations : List Operation} (alone : Alone widget (.ask operations))
    (sound : Sound widget (.ask operations)) :
    Proper (settle link (widget.ask operations)) := by
  have ⟨outstanding, books, _⟩ := proper
  have nothing : outstanding = none := by
    cases outstanding with
    | none => rfl
    | some operation =>
      have ⟨kind, callback⟩ := operation
      unfold Alone at alone
      rw [books.request, books.discovery] at alone
      cases kind with
      | request => cases alone.1
      | discovery => cases alone.2
  subst nothing
  apply settle_proper reliable
  apply (ask_books books _ operations sound.2).answered
  rcases Option.eq_none_or_eq_some widget.expectedCommand with idle | ⟨command, expected⟩
  · exact .inl idle
  · right
    rw [expected, sound.1 command expected]

theorem answer_proper {behind : UInt8} {command : TriCommandId}
    (expected : widget.expectedCommand = some command)
    (sound : Sound widget (.answer returnCode data behind)) :
    Proper (step link widget (.answer returnCode data behind)) := by
  have ⟨outstanding, books, _⟩ := proper
  rw [step_answer books.inside expected]
  apply settle_proper reliable
  apply command_answered books expected behind
  intro raw request stored
  exact sound (by rw [expected, raw]) request stored

/-- A status is asked for by the timer of the discovery that is checked. -/
theorem tick_proper {timer : Nat} (registered : timer ∈ widget.timers.map Timer.id) :
    Proper (widget.checkDiscoveryStatus link) := by
  have ⟨outstanding, books, _⟩ := proper
  have stage : Stage { widget with discoveryState := .discoverStatusRequired } outstanding := by
    have watched : ¬ Unwatched widget := by
      intro unwatched
      rw [unwatched.1] at registered
      cases registered
    cases books.stage with
    | idle unwatched _ _ | request _ unwatched _ _ | wanted _ unwatched _ _ _
    | fetching _ unwatched _ _ => exact absurd unwatched watched
    | checked callback timeout timers watched _ commands =>
      exact .checked callback timeout timers watched (.inr rfl) commands
  exact @maybeSendNextRequest_proper link { widget with
    discoveryState := .discoverStatusRequired } outstanding reliable { books with stage := stage }

theorem step_proper (alone : Alone widget event) (sound : Sound widget event) :
    Proper (step link widget event) := by
  have ⟨outstanding, books, busy⟩ := proper
  have going : ¬ widget.overrun = true := by rw [books.inside]; decide
  cases event with
  | ask operations =>
    rw [step, if_neg going]
    exact ask_proper reliable proper alone sound
  | sendDMX buffer =>
    rw [step, if_neg going]
    have stage : Stage { widget with outgoingDmx := buffer } outstanding :=
      books.stage.of_eq rfl rfl rfl rfl rfl (.inl rfl)
    exact @maybeSendNextRequest_proper link { widget with outgoingDmx := buffer } outstanding
      reliable { books with stage := stage }
  | useRawRDM useRawRdm =>
    rw [step, if_neg going]
    exact ⟨outstanding,
      { books with stage := books.stage.of_eq rfl rfl rfl rfl rfl (.inl rfl) }, busy⟩
  | answer returnCode data behind =>
    rcases Option.eq_none_or_eq_some widget.expectedCommand with idle | ⟨command, expected⟩
    · rw [step, if_neg going, idle]
      exact proper
    · exact answer_proper reliable proper expected sound
  | tick timer =>
    rw [step, if_neg going]
    split
    next registered => exact tick_proper reliable proper registered
    · exact proper

end

/-- In a run with one operation at a time all of whose events the widget gets right, and in which
no command for a status or a UID fails to be sent, every callback is run as it should be. -/
theorem operations_complete {useRawRdm : Bool} {events : List Event} (reliable : Reliable link)
    (alone : Permitted (step link) Alone (.new useRawRdm) events)
    (sound : Permitted (step link) Sound (.new useRawRdm) events) :
    Completes (run (step link) (.new useRawRdm) events) := by
  apply Proper.completes
  have both := alone.and sound
  exact run_invariant (fun _ _ proper ok => step_proper reliable proper ok.1 ok.2)
    (new_proper useRawRdm) both

/-- A discovery that finds one device, and from its callback a request for this device, with a
frame in between. -/
def discoverAndGet : List Event :=
  [.ask [.runIncrementalDiscovery, .sendRDMRequest ⟨⟨1, 1⟩, ⟨0x7a70, 9⟩, 0, 1, 0, 0, .getCommand,
      0x60, []⟩], .answer 0 [] 0, .tick 0, .sendDMX (.holding [1, 2]), .answer 0 [1, 0] 0,
    .answer 0 [] 0, .answer 0 [0x7a, 0x70, 0, 0, 0, 9] 0, .answer 0 [1, 2] 0]

theorem operations_complete_both :
    Completes (run (step fun _ _ => true) (.new false) discoverAndGet) :=
  operations_complete (fun _ => ⟨rfl, rfl⟩) (by decide +kernel) (by decide +kernel)

/-- The operation was started, and its callback has not been run. -/
def waits (trace : List (Entry Kind Result)) (id : Nat) : Bool :=
  trace.any (fun entry => match entry with | .started other _ => other == id | _ => false) &&
    trace.all (fun entry => match entry with | .ran other _ => other != id | _ => true)

/-- An operation that waits for nothing. -/
theorem not_completes {id : Nat} (waits : waits widget.trace id = true)
    (idle : widget.expectedCommand.isNone = true) (unwatched : widget.timers.isEmpty = true) :
    ¬ Completes widget := by
  intro completes
  rw [DmxTri.waits, Bool.and_eq_true, List.any_eq_true, List.all_eq_true] at waits
  have ⟨⟨entry, member, started⟩, never⟩ := waits
  rw [Option.isNone_iff_eq_none] at idle
  rw [List.isEmpty_iff] at unwatched
  cases entry with
  | ran other result => cases started
  | started other kind =>
    rw [beq_iff_eq.mp started] at member
    rcases completes.ended id kind member with ⟨result, done⟩ | underway
    · have other := never _ done
      simp at other
    · cases kind with
      | request =>
        have ⟨_, _, command, expected, _⟩ := underway
        cases idle.symm.trans expected
      | discovery =>
        rcases underway.2 with ⟨command, expected, _⟩ | ⟨timer, registered, _⟩
        · cases idle.symm.trans expected
        · rw [unwatched] at registered
          cases registered

/-- A run with one operation at a time that goes wrong. -/
def Lost (link : Nat → TriCommandId → Bool) (useRawRdm : Bool) (events : List Event) : Prop :=
  Permitted (step link) Alone (.new useRawRdm) events ∧
    ¬ Completes (run (step link) (.new useRawRdm) events)

/-- A DUB whose answer has another code; a UID that cannot be asked for; a status that cannot; and
a request that waits for a status left over from an earlier discovery. -/
theorem operations_lost :
    Lost (fun _ _ => true) true [.ask [.sendRDMRequest ⟨⟨1, 1⟩, .allDevices, 0, 1, 0, 0,
      .discoverCommand, pidDiscUniqueBranch, []⟩], .answer 0x15 [] 0] ∧
    Lost (fun _ command => decide (command ≠ .remoteUid)) false [.ask [.runIncrementalDiscovery],
      .answer 0 [] 0, .tick 0, .answer 0 [1, 0] 0] ∧
    Lost (fun _ command => decide (command ≠ .discoverStatus)) false
      [.ask [.runIncrementalDiscovery], .answer 0 [] 0, .tick 0] ∧
    Lost (fun _ _ => true) false [.ask [.runIncrementalDiscovery], .answer 0 [] 0, .tick 0,
      .tick 0, .answer 0 [0, 0] 0, .sendDMX (.holding [1]), .answer 0 [] 0, .ask [.sendRDMRequest
        ⟨⟨1, 1⟩, .allDevices, 0, 1, 0, 0, .getCommand, 0x60, []⟩], .answer 0 [0, 1] 0] := by
  refine ⟨⟨by decide +kernel, ?_⟩, ⟨by decide +kernel, ?_⟩, ⟨by decide +kernel, ?_⟩,
    by decide +kernel, ?_⟩
  · exact @not_completes _ 0 (by decide +kernel) (by decide +kernel) (by decide +kernel)
  · exact @not_completes _ 0 (by decide +kernel) (by decide +kernel) (by decide +kernel)
  · intro completes
    refine completes.timers ⟨0, 0⟩ ?_ (.discovered ∅) ?_
    · decide +kernel
    · decide +kernel
  · exact @not_completes _ 1 (by decide +kernel) (by decide +kernel) (by decide +kernel)

end Runs

end OpenLighting.DmxTri
