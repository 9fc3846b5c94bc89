import OpenLighting.DmxTriWidget

/- The loop of `MaybeSendNextRequest`. -/
namespace OpenLighting.DmxTri.Widget

open OpenLighting.Rdm OperationLedger TransitionSystem

/-- A command is outstanding, or there is less to do. -/
def Advances (before after : Widget) : Prop :=
  after.expectedCommand.isSome = true ∨ after.load < before.load

section Loads
variable {link : Nat → TriCommandId → Bool} {widget : Widget}

theorem refusal_none {request : Command} (taken : widget.refusal request = none) :
    widget.rdmRequestCallback = none := by
  unfold refusal at taken
  split_ifs at taken with dub present
  exact Option.not_isSome_iff_eq_none.mp present

theorem ask_refused {request : Command} {result : Result}
    (refused : widget.refusal request = some result) (next : List Operation) :
    widget.ask (.sendRDMRequest request :: next) =
      ((widget.issue .request).record (.ran widget.issued result)).ask next := by
  rw [ask, refused]

theorem ask_taken {request : Command} (taken : widget.refusal request = none)
    (next : List Operation) :
    widget.ask (.sendRDMRequest request :: next) =
      ((widget.issue .request).hold request ⟨widget.issued, next⟩, true) := by
  rw [ask, taken]

theorem ask_running (running : widget.discoveryCallback.isSome = true) (next : List Operation) :
    widget.ask (.runIncrementalDiscovery :: next) =
      ((widget.issue .discovery).record (.ran widget.issued (.discovered widget.uids))).ask
        next := by
  rw [ask, if_pos running]

theorem ask_starts (idle : widget.discoveryCallback = none) (next : List Operation) :
    widget.ask (.runIncrementalDiscovery :: next) =
      ({ widget.issue .discovery with
          discoveryCallback := some ⟨widget.issued, next⟩
          discoveryState := .discoverAutoRequired
          discovering := widget.issued }, true) := by
  rw [ask, idle]
  rfl

/-- Every operation that is asked for adds at most two passes. -/
theorem load_ask (widget : Widget) (operations : List Operation) :
    (widget.ask operations).1.load ≤ widget.load + 2 * operations.length := by
  induction operations generalizing widget with
  | nil => exact Nat.le_refl _
  | cons operation next ih =>
    rw [List.length_cons]
    cases operation with
    | sendRDMRequest request =>
      cases taken : widget.refusal request with
      | some result =>
        have rest := ih ((widget.issue .request).record (.ran widget.issued result))
        have same : ((widget.issue .request).record (.ran widget.issued result)).load =
            widget.load := rfl
        rw [ask_refused taken]
        omega
      | none =>
        have absent := refusal_none taken
        rw [ask_taken taken]
        simp only [load, hold, issue, chain, absent, Option.isSome_some, if_true]
        omega
    | runIncrementalDiscovery =>
      cases present : widget.discoveryCallback with
      | some callback =>
        have rest := ih ((widget.issue .discovery).record
          (.ran widget.issued (.discovered widget.uids)))
        have same : ((widget.issue .discovery).record
            (.ran widget.issued (.discovered widget.uids))).load = widget.load := rfl
        rw [ask_running (by rw [present]; rfl)]
        omega
      | none =>
        rw [ask_starts present]
        simp only [load, issue, chain, present]
        split <;> split <;> split <;> omega

theorem load_finish (widget : Widget) (callback : Callback) (result : Result) :
    (widget.finish callback result).1.load ≤ widget.load + 2 * callback.next.length :=
  load_ask (widget.record (.ran callback.id result)) callback.next

/-- An error takes the request away. -/
theorem load_handleRDMError (held : widget.pendingRdmRequest.isSome = true) (code : ResponseCode) :
    (widget.handleRDMError code).1.load < widget.load := by
  unfold handleRDMError
  cases present : widget.rdmRequestCallback with
  | some callback =>
    have done := load_finish
      { widget with pendingRdmRequest := none, rdmRequestCallback := none } callback
      (.completed code none [])
    have less : Widget.load
        { widget with pendingRdmRequest := none, rdmRequestCallback := none } + 1 +
          2 * callback.next.length = widget.load := by
      simp only [load, chain, present, held]
      simp
      omega
    dsimp only
    omega
  | none =>
    simp only [load, chain, present, held]
    simp

theorem load_completeDiscovery (widget : Widget) :
    widget.completeDiscovery.1.load ≤ widget.load := by
  unfold completeDiscovery
  cases present : widget.discoveryCallback with
  | some callback =>
    have done := load_finish { widget with discoveryCallback := none } callback
      (.discovered widget.uids)
    have less : Widget.load { widget with discoveryCallback := none } +
        2 * callback.next.length = widget.load := by
      simp only [load, chain, present]
      omega
    dsimp only
    omega
  | none => exact Nat.le_refl _

theorem sendCommand_cases (link : Nat → TriCommandId → Bool) (widget : Widget)
    (command : TriCommandId) (arguments : List UInt8) :
    (link widget.written.length command = true ∧
      widget.sendCommandToTRI link command arguments =
        ({ widget with
            written := widget.written ++ [command.value :: arguments]
            expectedCommand := some command }, true)) ∨
    (link widget.written.length command = false ∧
      widget.sendCommandToTRI link command arguments =
        ({ widget with written := widget.written ++ [command.value :: arguments] }, false)) := by
  unfold sendCommandToTRI
  cases sent : link widget.written.length command with
  | true => exact .inl ⟨rfl, rfl⟩
  | false => exact .inr ⟨rfl, rfl⟩

theorem sendForRequest_cases (link : Nat → TriCommandId → Bool) (widget : Widget)
    (command : TriCommandId) (arguments : List UInt8) :
    (link widget.written.length command = true ∧
      widget.sendForRequest link command arguments =
        ({ widget with
            written := widget.written ++ [command.value :: arguments]
            expectedCommand := some command }, false)) ∨
    (link widget.written.length command = false ∧
      widget.sendForRequest link command arguments =
        { widget with
          written := widget.written ++ [command.value :: arguments] }.handleRDMError
            .failedToSend) := by
  unfold sendForRequest
  rcases sendCommand_cases link widget command arguments with ⟨sends, sent⟩ | ⟨fails, sent⟩
  · rw [sent]
    exact .inl ⟨sends, rfl⟩
  · rw [sent]
    exact .inr ⟨fails, rfl⟩

theorem sendForRequest_advances (held : widget.pendingRdmRequest.isSome = true)
    (command : TriCommandId) (arguments : List UInt8) :
    widget.Advances (widget.sendForRequest link command arguments).1 := by
  rcases sendForRequest_cases link widget command arguments with ⟨_, sent⟩ | ⟨_, failed⟩
  · rw [sent]
    exact .inl rfl
  · rw [failed]
    exact .inr (@load_handleRDMError { widget with
      written := widget.written ++ [command.value :: arguments] } held .failedToSend)

section
variable (held : widget.pendingRdmRequest.isSome = true) (request : Command)
include held request

theorem dispatchRequest_advances : widget.Advances (widget.dispatchRequest link request).1 := by
  unfold dispatchRequest
  cases widget.message request with
  | error code => exact .inr (load_handleRDMError held code)
  | ok message =>
    have ⟨command, arguments⟩ := message
    exact @sendForRequest_advances link (widget.copyParamData command request) held command
      arguments

theorem sendRawRDMRequest_advances : widget.Advances (widget.sendRawRDMRequest link request).1 := by
  have heavier : Widget.load { widget with
      pendingRdmRequest := some { request with
        transactionNumber := widget.transactionNumber, portId := 1 } } = widget.load := by
    simp only [load, held, Option.isSome_some]
  unfold sendRawRDMRequest
  dsimp only
  cases pack { request with transactionNumber := widget.transactionNumber, portId := 1 }
      (List.replicate (requiredSize { request with
        transactionNumber := widget.transactionNumber, portId := 1 }) 0) with
  | none =>
    right
    rw [← heavier]
    exact load_handleRDMError rfl .failedToSend
  | some packed =>
    have ⟨packet, size⟩ := packed
    dsimp only
    rcases sendCommand_cases link { widget with
      pendingRdmRequest := some { request with
        transactionNumber := widget.transactionNumber, portId := 1 } } .rawRdm
      ((if isDUBRequest { request with
        transactionNumber := widget.transactionNumber, portId := 1 } then 2 else 0) :: packet)
      with ⟨_, sent⟩ | ⟨_, sent⟩
    · rw [sent]
      exact .inl rfl
    · rw [sent]
      right
      rw [← heavier]
      exact load_handleRDMError rfl .failedToSend

theorem sendQueuedRDMCommand_advances :
    widget.Advances (widget.sendQueuedRDMCommand link request).1 := by
  unfold sendQueuedRDMCommand
  split_ifs
  · exact .inr (load_handleRDMError held .unknownUid)
  · exact sendRawRDMRequest_advances held request
  · exact sendForRequest_advances held _ _
  · exact dispatchRequest_advances held request

end

/-- A frame is taken out of the buffer, whether it is sent or not. -/
theorem sendDMXBuffer_advances (frame : widget.outgoingDmx.size ≠ 0) :
    widget.Advances (widget.sendDMXBuffer link) := by
  unfold sendDMXBuffer
  rcases sendCommand_cases link { widget with outgoingDmx := widget.outgoingDmx.reset } .singleTx
    ([0, 0] ++ widget.outgoingDmx.slots) with ⟨_, sent⟩ | ⟨_, sent⟩
  · rw [sent]
    exact .inl rfl
  · rw [sent]
    right
    have empty : widget.outgoingDmx.reset.size = 0 := by
      rw [DmxBuffer.size, DmxBuffer.reset_slots, List.length_nil]
    simp only [load, empty, if_pos frame, ne_eq, not_true_eq_false, if_false]
    omega

section
variable (required : widget.discoveryState ≠ .noDiscoveryAction)
include required

/-- The discovery step is not required any more. -/
theorem load_required :
    Widget.load { widget with discoveryState := .noDiscoveryAction } < widget.load := by
  simp only [load, if_pos required, ne_eq, not_true_eq_false, if_false]
  omega

theorem sendDiscoveryStart_advances :
    widget.Advances (widget.sendDiscoveryStart link).1 := by
  have less := load_required required
  unfold sendDiscoveryStart
  rcases sendCommand_cases link { widget with discoveryState := .noDiscoveryAction } .discoverAuto
    [] with ⟨_, sent⟩ | ⟨_, sent⟩
  · rw [sent]
    exact .inl rfl
  · rw [sent]
    exact .inr (Nat.lt_of_le_of_lt (load_completeDiscovery _) less)

theorem sendDiscoveryStat_advances :
    widget.Advances (widget.sendDiscoveryStat link).1 := by
  have less := load_required required
  unfold sendDiscoveryStat
  rcases sendCommand_cases link { widget with discoveryState := .noDiscoveryAction }
    .discoverStatus [] with ⟨_, sent⟩ | ⟨_, sent⟩
  · rw [sent]
    exact .inl rfl
  · rw [sent]
    exact .inr (Nat.lt_of_le_of_lt (load_completeDiscovery _) less)

theorem fetchNextUID_advances :
    widget.Advances (widget.fetchNextUID link) := by
  have less := load_required required
  unfold fetchNextUID
  dsimp only
  split_ifs
  · exact .inr less
  · rcases sendCommand_cases link { widget with discoveryState := .noDiscoveryAction } .remoteUid
      [widget.uidCount] with ⟨_, sent⟩ | ⟨_, sent⟩
    · rw [sent]
      exact .inl rfl
    · rw [sent]
      exact .inr less

end

theorem pass_advances (busy : widget.resting = false) : widget.Advances (widget.pass link) := by
  unfold resting at busy
  rw [Bool.or_eq_false_iff] at busy
  have idle : ¬ widget.expectedCommand.isSome = true := by rw [busy.1]; exact Bool.false_ne_true
  unfold pass
  rw [if_neg idle]
  by_cases frame : widget.outgoingDmx.size ≠ 0 ∧ widget.lastCommand ≠ some .singleTx
  · rw [if_pos frame]
    exact sendDMXBuffer_advances frame.1
  · rw [if_neg frame]
    cases held : widget.pendingRdmRequest with
    | some request => exact sendQueuedRDMCommand_advances (by rw [held]; rfl) request
    | none =>
      cases required : widget.discoveryState with
      | discoverAutoRequired => exact sendDiscoveryStart_advances (by rw [required]; decide)
      | discoverStatusRequired => exact sendDiscoveryStat_advances (by rw [required]; decide)
      | fetchUidRequired => exact fetchNextUID_advances (by rw [required]; decide)
      | noDiscoveryAction =>
        have some : widget.outgoingDmx.size ≠ 0 := by
          intro none
          rw [none, held, required] at busy
          exact absurd busy.2 (by decide)
        rw [if_pos some]
        exact sendDMXBuffer_advances some

/-- The loop has come to its end. -/
theorem pass_resting (rests : widget.resting = true) : widget.pass link = widget := by
  unfold pass
  by_cases outstanding : widget.expectedCommand.isSome = true
  · rw [if_pos outstanding]
  · unfold resting at rests
    rw [Bool.not_eq_true] at outstanding
    rw [outstanding, Bool.false_or, Bool.and_eq_true, Bool.and_eq_true, beq_iff_eq, beq_iff_eq,
      Option.isNone_iff_eq_none] at rests
    have empty : ¬ widget.outgoingDmx.size ≠ 0 := not_not_intro rests.1.1
    rw [if_neg (by rw [outstanding]; exact Bool.false_ne_true),
      if_neg fun frame => empty frame.1, rests.1.2, rests.2]
    exact if_neg empty

theorem resting_of_load (nothing : widget.load = 0) : widget.resting = true := by
  unfold load at nothing
  unfold resting
  rw [Bool.or_eq_true, Bool.and_eq_true, Bool.and_eq_true, beq_iff_eq, beq_iff_eq]
  right
  refine ⟨⟨?_, ?_⟩, ?_⟩
  · by_contra frame
    rw [if_pos frame] at nothing
    omega
  · cases held : widget.pendingRdmRequest with
    | none => rfl
    | some request =>
      rw [held] at nothing
      simp only [Option.isSome_some, if_true] at nothing
      omega
  · by_contra required
    rw [if_pos required] at nothing
    omega

theorem iterate_resting (count : Nat) {widget : Widget} (enough : widget.load ≤ count) :
    ((Widget.pass link)^[count] widget).resting = true := by
  induction count generalizing widget with
  | zero => exact resting_of_load (Nat.le_zero.mp enough)
  | succ count ih =>
    rw [Function.iterate_succ_apply]
    cases rests : widget.resting with
    | true =>
      rw [pass_resting rests, Function.iterate_fixed (pass_resting rests)]
      exact rests
    | false =>
      rcases @pass_advances link _ rests with outstanding | less
      · have stays : (widget.pass link).resting = true := by
          unfold resting
          rw [outstanding, Bool.true_or]
        rw [Function.iterate_fixed (pass_resting stays)]
        exact stays
      · exact ih (by omega)

theorem maybeSendNextRequest_resting (widget : Widget) :
    (widget.maybeSendNextRequest link).resting = true :=
  iterate_resting widget.load (Nat.le_refl _)

end Loads

section Answers
variable (widget : Widget)

/-- An operation that is asked for now is taken on. -/
def takes : Operation → Bool
  | .sendRDMRequest request => (widget.refusal request).isNone
  | .runIncrementalDiscovery => widget.discoveryCallback.isNone

/-- The callback of the request asks for an operation that is taken on. -/
def requestFollowed : Bool :=
  match widget.rdmRequestCallback with
  | some callback => callback.next.any { widget with rdmRequestCallback := none }.takes
  | none => false

/-- So does that of the discovery. -/
def discoveryFollowed : Bool :=
  match widget.discoveryCallback with
  | some callback => callback.next.any { widget with discoveryCallback := none }.takes
  | none => false

variable (link : Nat → TriCommandId → Bool)

/-- The command for the request is sent, or what is left of it goes on. -/
def dispatched (request : Command) : Bool :=
  match widget.message request with
  | .error _ => widget.requestFollowed
  | .ok (command, _) =>
    link widget.written.length command || (widget.copyParamData command request).overrun ||
      widget.requestFollowed

variable (command : TriCommandId)

/-- The answer to a command makes the widget go on: it sends the next command, or it looks for
one. -/
def goesOn (returnCode : UInt8) (data : List UInt8) (behind : UInt8) : Bool :=
  let code := ErrorCode.ofByte returnCode
  match command with
  | .singleTx => true
  | .discoverAuto => decide (code ≠ .noError) && widget.discoveryFollowed
  | .discoverStatus =>
    if code = .noError ∨ code = .responseUnexpected then
      match data with
      | [] => false
      | count :: rest =>
        decide (rest.headD behind = 0) && (decide (count ≠ 0) || widget.discoveryFollowed)
    else widget.discoveryFollowed
  | .remoteUid =>
    decide (widget.uidCount ≠ 0) &&
      (decide (widget.uidCount - 1 ≠ 0) || widget.discoveryFollowed)
  | .rawRdm =>
    match widget.rdmRequestCallback, widget.pendingRdmRequest with
    | some _, some request =>
      if code = .unknownCommand then
        !isDUBRequest request || { widget with useRawRdm := false }.requestFollowed
      else if isDUBRequest request then
        decide (code = .responseNone ∨ code = .noError ∨ code = .responseDiscovery) &&
          widget.requestFollowed
      else if request.destination.isBroadcast ∨ code = .responseNone then
        widget.requestFollowed
      else
        match inflateFromData data (some request) with
        | .error _ => true
        | .ok _ => widget.requestFollowed
    | _, _ => false
  | .remoteGet => widget.pendingRdmRequest.isSome && widget.requestFollowed
  | .remoteSet => widget.pendingRdmRequest.isSome && widget.requestFollowed
  | .queuedGet =>
    (widget.pendingRdmRequest.isSome || decide (data.length < 2)) && widget.requestFollowed
  | .setFilter =>
    match widget.pendingRdmRequest with
    | none => false
    | some request =>
      if code = .noError then widget.dispatched link request else widget.requestFollowed

def TriCommandId.forRequest : TriCommandId → Bool
  | .singleTx | .discoverAuto | .discoverStatus | .remoteUid => false
  | .rawRdm | .remoteGet | .remoteSet | .queuedGet | .setFilter => true

def queuedRequest : Option Command :=
  if TriCommandId.forRequest command then none else widget.pendingRdmRequest

/-- A frame, a request or a step of the discovery is queued behind the command. -/
def queued : Bool :=
  widget.outgoingDmx.size != 0 || widget.discoveryState != .noDiscoveryAction ||
    (widget.queuedRequest command).isSome

end Answers

section Handlers
variable {link : Nat → TriCommandId → Bool} {widget : Widget} {goes : Bool}
  {held : Option Command}

/-- How a handler ends that goes on or does not, and then leaves the queues alone but for the
request. -/
structure Leaves (goes : Bool) (frame : DmxBuffer) (state : TriDiscoveryState)
    (held : Option Command) (result : Widget × Bool) : Prop where
  on : goes = true → result.2 = true ∨ result.1.expectedCommand.isSome = true ∨
    result.1.overrun = true
  off : goes = false → result.2 = false ∧ result.1.expectedCommand = none ∧
    result.1.overrun = false ∧ result.1.outgoingDmx = frame ∧
    result.1.discoveryState = state ∧ result.1.pendingRdmRequest = held

/-- What is asked for is taken on or not, whatever has been done before. -/
theorem takes_eq {other : Widget} (mode : other.useRawRdm = widget.useRawRdm)
    (request : other.rdmRequestCallback = widget.rdmRequestCallback)
    (discovery : other.discoveryCallback = widget.discoveryCallback) :
    other.takes = widget.takes := by
  funext operation
  cases operation with
  | sendRDMRequest command => simp only [takes, refusal, mode, request]
  | runIncrementalDiscovery => simp only [takes, discovery]

theorem ask_spec (widget : Widget) (operations : List Operation) :
    (widget.ask operations).2 = operations.any widget.takes ∧
      ((widget.ask operations).2 = false → ∃ issued trace,
        (widget.ask operations).1 = { widget with issued := issued, trace := trace }) := by
  induction operations generalizing widget with
  | nil => exact ⟨rfl, fun _ => ⟨_, _, rfl⟩⟩
  | cons operation next ih =>
    rw [List.any_cons]
    cases operation with
    | sendRDMRequest request =>
      cases taken : widget.refusal request with
      | some result =>
        have rest := ih ((widget.issue .request).record (.ran widget.issued result))
        rw [@takes_eq widget ((widget.issue .request).record (.ran widget.issued result))
          rfl rfl rfl] at rest
        rw [ask_refused taken, show widget.takes (.sendRDMRequest request) = false by
          rw [takes, taken]; rfl, Bool.false_or]
        exact rest
      | none =>
        rw [ask_taken taken, show widget.takes (.sendRDMRequest request) = true by
          rw [takes, taken]; rfl]
        exact ⟨rfl, nofun⟩
    | runIncrementalDiscovery =>
      rcases Option.eq_none_or_eq_some widget.discoveryCallback with absent | ⟨other, present⟩
      · rw [ask_starts absent, show widget.takes .runIncrementalDiscovery = true by
          rw [takes, absent]; rfl]
        exact ⟨rfl, nofun⟩
      · have rest := ih ((widget.issue .discovery).record
          (.ran widget.issued (.discovered widget.uids)))
        rw [@takes_eq widget ((widget.issue .discovery).record
          (.ran widget.issued (.discovered widget.uids))) rfl rfl rfl] at rest
        rw [ask_running (by rw [present]; rfl),
          show widget.takes .runIncrementalDiscovery = false by
            rw [takes, present]; rfl, Bool.false_or]
        exact rest

theorem ask_overrun (widget : Widget) (operations : List Operation) :
    (widget.ask operations).1.overrun = widget.overrun := by
  induction operations generalizing widget with
  | nil => rfl
  | cons operation next ih =>
    cases operation with
    | sendRDMRequest request =>
      cases taken : widget.refusal request with
      | some result =>
        rw [ask_refused taken]
        exact ih _
      | none =>
        rw [ask_taken taken]
        rfl
    | runIncrementalDiscovery =>
      rcases Option.eq_none_or_eq_some widget.discoveryCallback with absent | ⟨other, present⟩
      · rw [ask_starts absent]
        rfl
      · rw [ask_running (by rw [present]; rfl)]
        exact ih _

theorem handleRDMError_overrun (widget : Widget) (code : ResponseCode) :
    (widget.handleRDMError code).1.overrun = widget.overrun := by
  unfold handleRDMError
  cases widget.rdmRequestCallback with
  | some callback => exact ask_overrun _ callback.next
  | none => rfl

theorem leaves_still (idle : widget.expectedCommand = none) (sound : widget.overrun = false) :
    Leaves false widget.outgoingDmx widget.discoveryState widget.pendingRdmRequest (widget, false) :=
  ⟨nofun, fun _ => ⟨rfl, idle, sound, rfl, rfl, rfl⟩⟩

theorem leaves_going (frame : DmxBuffer) (state : TriDiscoveryState) (held : Option Command)
    (after : Widget) : Leaves true frame state held (after, true) := ⟨fun _ => .inl rfl, nofun⟩

section

variable (idle : widget.expectedCommand = none) (sound : widget.overrun = false)
include idle sound

theorem leaves_finish (callback : Callback) (result : Result) :
    Leaves (callback.next.any widget.takes) widget.outgoingDmx widget.discoveryState
      widget.pendingRdmRequest
      (widget.finish callback result) := by
  have ⟨polls, kept⟩ := ask_spec (widget.record (.ran callback.id result)) callback.next
  constructor
  · intro followed
    exact .inl (polls.trans followed)
  · intro ended
    have quiet := polls.trans ended
    have ⟨issued, trace, same⟩ := kept quiet
    refine ⟨quiet, ?_⟩
    unfold finish
    rw [same]
    exact ⟨idle, sound, rfl, rfl, rfl⟩

theorem leaves_handleRDMError (code : ResponseCode) :
    Leaves widget.requestFollowed widget.outgoingDmx widget.discoveryState none
      (widget.handleRDMError code) := by
  unfold handleRDMError requestFollowed
  cases widget.rdmRequestCallback with
  | some callback =>
    exact @leaves_finish { widget with pendingRdmRequest := none, rdmRequestCallback := none }
      idle sound callback (.completed code none [])
  | none => exact ⟨nofun, fun _ => ⟨rfl, idle, sound, rfl, rfl, rfl⟩⟩

theorem leaves_completeDiscovery :
    Leaves widget.discoveryFollowed widget.outgoingDmx widget.discoveryState
      widget.pendingRdmRequest widget.completeDiscovery := by
  unfold completeDiscovery discoveryFollowed
  cases widget.discoveryCallback with
  | some callback =>
    exact @leaves_finish { widget with discoveryCallback := none } idle sound callback
      (.discovered widget.uids)
  | none => exact leaves_still idle sound

end

/-- The timer is no matter of the queues. -/
theorem stopDiscovery_eq (widget : Widget) : ∃ timers timeout,
    widget.stopDiscovery = { widget with timers := timers, discStatTimeout := timeout } := by
  unfold stopDiscovery
  cases widget.discStatTimeout with
  | some timeout | none => exact ⟨_, _, rfl⟩

section
variable (idle : widget.expectedCommand = none) (sound : widget.overrun = false)
include idle sound

variable (returnCode : UInt8) (data : List UInt8) (behind : UInt8)

theorem leaves_auto :
    Leaves (widget.goesOn link .discoverAuto returnCode data behind) widget.outgoingDmx
      widget.discoveryState widget.pendingRdmRequest
        (widget.handleDiscoveryAutoResponse returnCode) := by
  unfold handleDiscoveryAutoResponse goesOn
  dsimp only
  by_cases failed : ErrorCode.ofByte returnCode ≠ .noError
  · have ⟨timers, timeout, same⟩ := stopDiscovery_eq widget
    rw [if_pos failed, decide_eq_true failed, Bool.true_and, same]
    exact @leaves_completeDiscovery { widget with timers := timers, discStatTimeout := timeout }
      idle sound
  · rw [if_neg failed, decide_eq_false failed, Bool.false_and]
    exact leaves_still idle sound

theorem leaves_status :
    Leaves (widget.goesOn link .discoverStatus returnCode data behind) widget.outgoingDmx
      widget.discoveryState widget.pendingRdmRequest
        (widget.handleDiscoverStatResponse returnCode data behind) := by
  unfold handleDiscoverStatResponse goesOn
  dsimp only
  by_cases good : ErrorCode.ofByte returnCode = .noError ∨
      ErrorCode.ofByte returnCode = .responseUnexpected
  · rw [if_pos good, if_pos good]
    cases data with
    | nil => exact leaves_still idle sound
    | cons count rest =>
      dsimp only
      by_cases ended : rest.headD behind = 0
      · have ⟨timers, timeout, same⟩ := stopDiscovery_eq widget
        rw [if_pos ended, decide_eq_true ended, Bool.true_and, same]
        by_cases some : count ≠ 0
        · rw [if_pos some, decide_eq_true some, Bool.true_or]
          exact leaves_going _ _ _ _
        · rw [if_neg some, decide_eq_false some, Bool.false_or]
          exact @leaves_completeDiscovery { widget with
            timers := timers
            discStatTimeout := timeout
            uidCount := count
            uidIndexMap := ∅ } idle sound
      · rw [if_neg ended, decide_eq_false ended, Bool.false_and]
        exact leaves_still idle sound
  · have ⟨timers, timeout, same⟩ := stopDiscovery_eq { widget with uidIndexMap := ∅ }
    rw [if_neg good, if_neg good, same]
    exact @leaves_completeDiscovery { widget with
      uidIndexMap := ∅
      timers := timers
      discStatTimeout := timeout } idle sound

theorem leaves_uid :
    Leaves (widget.goesOn link .remoteUid returnCode data behind) widget.outgoingDmx
      widget.discoveryState widget.pendingRdmRequest
        (widget.handleRemoteUIDResponse returnCode data) := by
  unfold handleRemoteUIDResponse goesOn
  by_cases none : widget.uidCount = 0
  · rw [if_pos none, decide_eq_false (not_not_intro none), Bool.false_and]
    exact leaves_still idle sound
  · rw [if_neg none, decide_eq_true none, Bool.true_and]
    by_cases some : widget.uidCount - 1 ≠ 0
    · rw [if_pos some, decide_eq_true some, Bool.true_or]
      exact leaves_going _ _ _ _
    · rw [if_neg some, decide_eq_false some, Bool.false_or]
      exact @leaves_completeDiscovery { widget with
        uidIndexMap := _
        uidCount := widget.uidCount - 1 } idle sound

theorem leaves_generic (request : widget.pendingRdmRequest.isSome = true) (returnCode : UInt8)
    (pid : UInt16) (data : List UInt8) :
    Leaves widget.requestFollowed widget.outgoingDmx widget.discoveryState none
      (widget.handleGenericRDMResponse returnCode pid data) := by
  have ⟨request, held⟩ := Option.isSome_iff_exists.mp request
  unfold handleGenericRDMResponse requestFollowed
  rw [held]
  cases widget.rdmRequestCallback with
  | some callback =>
    exact @leaves_finish { widget with pendingRdmRequest := none, rdmRequestCallback := none }
      idle sound callback _
  | none => exact ⟨nofun, fun _ => ⟨rfl, idle, sound, rfl, rfl, rfl⟩⟩

theorem leaves_remote :
    Leaves (widget.pendingRdmRequest.isSome && widget.requestFollowed) widget.outgoingDmx
      widget.discoveryState none
      (widget.handleRemoteRDMResponse returnCode data) := by
  unfold handleRemoteRDMResponse
  cases held : widget.pendingRdmRequest with
  | some request => exact leaves_generic idle sound (by rw [held]; rfl) returnCode _ data
  | none =>
    have still := leaves_still idle sound
    rw [held] at still
    exact still

theorem leaves_queuedGet :
    Leaves (widget.goesOn link .queuedGet returnCode data behind) widget.outgoingDmx
      widget.discoveryState none
      (widget.handleQueuedGetResponse returnCode data) := by
  unfold handleQueuedGetResponse goesOn
  dsimp only
  split
  next high low rest =>
    rw [decide_eq_false (by simp), Bool.or_false]
    cases held : widget.pendingRdmRequest with
    | some request => exact leaves_generic idle sound (by rw [held]; rfl) returnCode _ rest
    | none =>
      unfold handleGenericRDMResponse
      rw [held]
      refine ⟨nofun, ?_⟩
      cases widget.rdmRequestCallback with
      | some callback | none => exact fun _ => ⟨rfl, idle, sound, rfl, rfl, rfl⟩
  next short =>
    have less : data.length < 2 := by
      match data, short with
      | [], _ => exact Nat.two_pos
      | [_], _ => exact Nat.one_lt_two
      | high :: low :: rest, short => exact absurd rfl (short high low rest)
    rw [decide_eq_true less, Bool.or_true, Bool.true_and]
    exact leaves_handleRDMError idle sound .invalidResponse

theorem leaves_raw : Leaves (widget.goesOn link .rawRdm returnCode data behind) widget.outgoingDmx
      widget.discoveryState none
      (widget.handleRawRDMResponse returnCode data) := by
  have finished : ∀ callback result, Leaves (callback.next.any
      { widget with rdmRequestCallback := none }.takes) widget.outgoingDmx widget.discoveryState none
      ({ widget with pendingRdmRequest := none, rdmRequestCallback := none }.finish callback
        result) := fun callback result => @leaves_finish { widget with
          pendingRdmRequest := none
          rdmRequestCallback := none } idle sound callback result
  have dropped : Leaves false widget.outgoingDmx widget.discoveryState none
      ({ widget with pendingRdmRequest := none, rdmRequestCallback := none }, false) :=
    ⟨nofun, fun _ => ⟨rfl, idle, sound, rfl, rfl, rfl⟩⟩
  unfold handleRawRDMResponse goesOn requestFollowed
  cases widget.rdmRequestCallback with
  | none => exact dropped
  | some callback =>
    cases widget.pendingRdmRequest with
    | none => exact dropped
    | some request =>
      dsimp only
      by_cases unknown : ErrorCode.ofByte returnCode = .unknownCommand
      · rw [if_pos unknown, if_pos unknown]
        unfold resubmit refusal
        cases isDUBRequest request with
        | true =>
          exact @leaves_finish { widget with
            pendingRdmRequest := none
            rdmRequestCallback := none
            useRawRdm := false } idle sound callback _
        | false => exact leaves_going _ _ _ _
      · rw [if_neg unknown, if_neg unknown]
        cases isDUBRequest request with
        | true =>
          by_cases none : ErrorCode.ofByte returnCode = .responseNone
          · rw [if_pos none, decide_eq_true (.inl none), Bool.true_and]
            exact finished callback _
          · rw [if_neg none]
            by_cases found : ErrorCode.ofByte returnCode = .noError ∨
                ErrorCode.ofByte returnCode = .responseDiscovery
            · rw [if_pos found, decide_eq_true (.inr found), Bool.true_and]
              exact finished callback _
            · rw [if_neg found, decide_eq_false (not_or.mpr ⟨none, found⟩), Bool.false_and]
              exact dropped
        | false =>
          rw [if_neg Bool.false_ne_true, if_neg Bool.false_ne_true]
          by_cases broadcast : request.destination.isBroadcast = true
          · rw [if_pos broadcast, if_pos (.inl broadcast)]
            exact finished callback _
          · rw [if_neg broadcast]
            by_cases none : ErrorCode.ofByte returnCode = .responseNone
            · rw [if_pos none, if_pos (.inr none)]
              exact finished callback _
            · rw [if_neg none, if_neg (not_or.mpr ⟨broadcast, none⟩)]
              cases inflateFromData data (some request) with
              | error reason => exact ⟨fun _ => .inr (.inr rfl), nofun⟩
              | ok answer => exact finished callback _

end

/-- The same where memory may have been used that should not have been. -/
theorem leaves_overrun (idle : widget.expectedCommand = none) (code : ResponseCode) :
    Leaves (widget.overrun || widget.requestFollowed) widget.outgoingDmx widget.discoveryState none
      (widget.handleRDMError code) := by
  rcases Bool.eq_false_or_eq_true widget.overrun with ended | sound
  · rw [ended, Bool.true_or]
    exact ⟨fun _ => .inr (.inr ((handleRDMError_overrun widget code).trans ended)), nofun⟩
  · rw [sound, Bool.false_or]
    exact leaves_handleRDMError idle sound code

theorem leaves_dispatch (idle : widget.expectedCommand = none) (sound : widget.overrun = false)
    (request : Command) :
    Leaves (widget.dispatched link request) widget.outgoingDmx widget.discoveryState none
      (widget.dispatchRequest link request) := by
  unfold dispatchRequest dispatched
  cases widget.message request with
  | error code => exact leaves_handleRDMError idle sound code
  | ok message =>
    have ⟨command, arguments⟩ := message
    dsimp only
    rcases sendForRequest_cases link (widget.copyParamData command request) command arguments
      with ⟨sends, sent⟩ | ⟨fails, failed⟩
    · rw [sent, show link widget.written.length command = true from sends, Bool.true_or,
        Bool.true_or]
      exact ⟨fun _ => .inr (.inl rfl), nofun⟩
    · rw [failed, show link widget.written.length command = false from fails, Bool.false_or]
      exact @leaves_overrun { widget.copyParamData command request with
        written := widget.written ++ [command.value :: arguments] } idle .failedToSend

theorem handleSetFilterResponse_eq {request : Command}
    (held : widget.pendingRdmRequest = some request) (returnCode : UInt8) :
    widget.handleSetFilterResponse link returnCode =
      if ErrorCode.ofByte returnCode = .noError then
        { widget with lastEstaId := request.destination.estaId }.dispatchRequest link request
      else widget.handleRDMError .failedToSend := by
  unfold handleSetFilterResponse
  rw [held]

/-- The rest of a request is sent once the filter is set. -/
theorem leaves_filter (idle : widget.expectedCommand = none) (sound : widget.overrun = false)
    (returnCode : UInt8) (data : List UInt8) (behind : UInt8) :
    Leaves (widget.goesOn link .setFilter returnCode data behind) widget.outgoingDmx
      widget.discoveryState none (widget.handleSetFilterResponse link returnCode) := by
  unfold goesOn
  rcases Option.eq_none_or_eq_some widget.pendingRdmRequest with absent | ⟨request, held⟩
  · have still := leaves_still idle sound
    unfold handleSetFilterResponse
    rw [absent] at still ⊢
    exact still
  · rw [handleSetFilterResponse_eq held, held]
    dsimp only
    by_cases good : ErrorCode.ofByte returnCode = .noError
    · rw [if_pos good, if_pos good, ← held]
      exact @leaves_dispatch link { widget with lastEstaId := request.destination.estaId } idle
        sound request
    · rw [if_neg good, if_neg good]
      exact leaves_handleRDMError idle sound .failedToSend

end Handlers

section Commands
variable {link : Nat → TriCommandId → Bool} {widget : Widget}

theorem leaves_command (idle : widget.expectedCommand = none) (sound : widget.overrun = false)
    (command : TriCommandId) (returnCode : UInt8) (data : List UInt8) (behind : UInt8) :
    Leaves (widget.goesOn link command returnCode data behind) widget.outgoingDmx
      widget.discoveryState (widget.queuedRequest command)
      (widget.handleCommand link (some command) returnCode data behind) := by
  cases command with
  | singleTx => exact leaves_going _ _ _ _
  | discoverAuto => exact leaves_auto idle sound returnCode data behind
  | discoverStatus => exact leaves_status idle sound returnCode data behind
  | remoteUid => exact leaves_uid idle sound returnCode data behind
  | rawRdm => exact leaves_raw idle sound returnCode data behind
  | remoteGet | remoteSet => exact leaves_remote idle sound returnCode data
  | queuedGet => exact leaves_queuedGet idle sound returnCode data behind
  | setFilter => exact leaves_filter idle sound returnCode data behind

/-- Which command was the last does not matter to an answer. -/
theorem goesOn_eq (widget : Widget) (last expected : Option TriCommandId) (command : TriCommandId)
    (returnCode : UInt8) (data : List UInt8) (behind : UInt8) :
    Widget.goesOn { widget with lastCommand := last, expectedCommand := expected } link command
      returnCode data behind = widget.goesOn link command returnCode data behind := by
  cases command <;> rfl

theorem ofByte_value (command : TriCommandId) :
    TriCommandId.ofByte command.value = some command := by
  cases command <;> rfl

/-- The widget has nothing left to do while no command is outstanding. -/
def Settled (widget : Widget) : Prop := widget.overrun = true ∨ widget.resting = true

theorem resting_idle (idle : widget.expectedCommand = none) :
    widget.resting = true ↔ widget.outgoingDmx.size = 0 ∧ widget.discoveryState =
      .noDiscoveryAction ∧ widget.pendingRdmRequest = none := by
  unfold resting
  rw [idle]
  simp only [Option.isSome_none, Bool.false_or, Bool.and_eq_true, beq_iff_eq,
    Option.isNone_iff_eq_none]
  rw [and_assoc, and_comm (a := widget.pendingRdmRequest = none)]

theorem settle_settled {goes : Bool} {frame : DmxBuffer} {state : TriDiscoveryState}
    {held : Option Command} {result : Widget × Bool}
    (leaves : Leaves goes frame state held result) :
    (settle link result).Settled ↔
      goes = true ∨ (frame.size = 0 ∧ state = .noDiscoveryAction ∧ held = none) := by
  cases on : goes with
  | true =>
    have goes := leaves.on on
    constructor
    · exact fun _ => .inl rfl
    · intro _
      unfold settle
      cases polls : result.2 with
      | true => exact .inr (maybeSendNextRequest_resting result.1)
      | false =>
        rw [polls] at goes
        rcases goes with never | outstanding | ended
        · cases never
        · right
          show result.1.resting = true
          unfold resting
          rw [outstanding, Bool.true_or]
        · exact .inl ended
  | false =>
    have ⟨quiet, idle, inside, frames, states, requests⟩ := leaves.off on
    unfold settle Settled
    rw [quiet, if_neg Bool.false_ne_true, inside, resting_idle idle, frames, states, requests]

theorem queued_iff (command : TriCommandId) : widget.queued command = false ↔
    widget.outgoingDmx.size = 0 ∧ widget.discoveryState = .noDiscoveryAction ∧
      widget.queuedRequest command = none := by
  unfold queued
  rw [Bool.or_eq_false_iff, Bool.or_eq_false_iff, bne_eq_false_iff_eq, bne_eq_false_iff_eq,
    Option.isSome_eq_false_iff, Option.isNone_iff_eq_none, and_assoc]

end Commands

end OpenLighting.DmxTri.Widget

namespace OpenLighting.DmxTri

open TransitionSystem Widget

/-- An answer that the widget does not go on with comes while nothing is queued. -/
def Swept (link : Nat → TriCommandId → Bool) (widget : Widget) : Event → Prop
  | .answer returnCode data behind => ∀ command ∈ widget.expectedCommand,
      widget.overrun = true ∨ widget.goesOn link command returnCode data behind = true ∨
        widget.queued command = false
  | _ => True

instance (link : Nat → TriCommandId → Bool) (widget : Widget) :
    ∀ event, Decidable (Swept link widget event)
  | .answer _ _ _ => inferInstanceAs (Decidable (∀ command ∈ _, _ ∨ _ ∨ _))
  | .ask _ | .sendDMX _ | .useRawRDM _ | .tick _ => .isTrue trivial

section Runs
variable {link : Nat → TriCommandId → Bool} {widget : Widget} {event : Event}

section
variable {command : TriCommandId} (sound : widget.overrun = false)
  (expected : widget.expectedCommand = some command) (returnCode : UInt8) (data : List UInt8)
  (behind : UInt8)
include sound expected returnCode data behind

theorem step_answer : step link widget (.answer returnCode data behind) =
      settle link ({ widget with
        lastCommand := some command
        expectedCommand := none }.handleCommand link (some command) returnCode data behind) := by
  unfold step
  rw [if_neg (by rw [sound]; exact Bool.false_ne_true)]
  rw [expected]
  dsimp only
  unfold handleMessage
  rw [if_pos rfl]
  dsimp only
  rw [ofByte_value, expected]

theorem answer_settled :
    (step link widget (.answer returnCode data behind)).Settled ↔
      widget.goesOn link command returnCode data behind = true ∨
        widget.queued command = false := by
  have leaves := @leaves_command link { widget with
    lastCommand := some command
    expectedCommand := none } rfl sound command returnCode data behind
  rw [step_answer sound expected, settle_settled leaves, queued_iff]
  exact Iff.rfl

end

/-- Where nothing is asked of the widget any more it stays as it is. -/
theorem ask_settled (settled : widget.resting = true) (operations : List Operation) :
    (settle link (widget.ask operations)).Settled := by
  have ⟨_, kept⟩ := ask_spec widget operations
  unfold settle
  cases polls : (widget.ask operations).2 with
  | true => exact .inr (maybeSendNextRequest_resting _)
  | false =>
    have ⟨issued, trace, same⟩ := kept polls
    right
    rw [same]
    exact settled

theorem step_settled (settled : widget.Settled) (swept : Swept link widget event) :
    (step link widget event).Settled := by
  cases ended : widget.overrun with
  | true =>
    left
    unfold step
    rw [if_pos ended]
    exact ended
  | false =>
    have rests : widget.resting = true := settled.resolve_left (by rw [ended]; decide)
    have going : ¬ widget.overrun = true := by rw [ended]; decide
    cases event with
    | ask operations =>
      rw [step, if_neg going]
      exact ask_settled rests operations
    | sendDMX buffer =>
      rw [step, if_neg going]
      exact .inr (maybeSendNextRequest_resting _)
    | useRawRDM useRawRdm =>
      rw [step, if_neg going]
      exact .inr rests
    | answer returnCode data behind =>
      rcases Option.eq_none_or_eq_some widget.expectedCommand with idle | ⟨command, expected⟩
      · rw [step, if_neg going, idle]
        exact .inr rests
      · apply (answer_settled ended expected returnCode data behind).mpr
        exact (swept command expected).resolve_left going
    | tick timer =>
      rw [step, if_neg going]
      split
      · exact .inr (maybeSendNextRequest_resting _)
      · exact .inr rests

theorem step_left (unswept : ¬ Swept link widget event) : ¬ (step link widget event).Settled := by
  cases event with
  | ask operations | sendDMX buffer | useRawRDM useRawRdm | tick timer =>
    exact absurd trivial unswept
  | answer returnCode data behind =>
    intro settled
    apply unswept
    intro command expected
    cases ended : widget.overrun with
    | true => exact .inl rfl
    | false => exact .inr ((answer_settled ended expected returnCode data behind).mp settled)

/-- `MaybeSendNextRequest` comes to an end wherever it is called; and a run leaves nothing to do
while no command is outstanding if and only if no answer that the widget does not go on with comes
while something is queued. -/
theorem nothing_left_iff (link : Nat → TriCommandId → Bool) (useRawRdm : Bool)
    (events : List Event) :
    (∀ widget : Widget, ∃ count, ((Widget.pass link)^[count] widget).resting = true) ∧
    ((∀ count, (run (step link) (.new useRawRdm) (events.take count)).Settled) ↔
      Permitted (step link) (Swept link) (.new useRawRdm) events) := by
  constructor
  · exact fun widget => ⟨widget.load, maybeSendNextRequest_resting widget⟩
  · have initial : (Widget.new useRawRdm).Settled := .inr rfl
    apply @always_iff_permitted _ _ (step link) (Swept link) Settled Settled _ _ _ _ _ initial
    · exact fun _ settled => settled
    · exact fun _ _ settled swept => step_settled settled swept
    · exact fun _ _ _ unswept => step_left unswept

/-- A frame comes while a discovery is being started. -/
theorem frame_left :
    ¬ ∀ count, (run (step fun _ _ => true) (.new false) ([.ask [.runIncrementalDiscovery],
      .sendDMX (.holding [1, 2]), .answer 0 [] 0].take count)).Settled := by
  intro always
  exact absurd (always 3) (by unfold Settled; decide)

end Runs

end OpenLighting.DmxTri
