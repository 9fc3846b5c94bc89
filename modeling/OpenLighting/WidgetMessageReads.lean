import OpenLighting.DmxTriWidget
import OpenLighting.EnttecPortReads

/- What a `DmxTriWidgetImpl` reads of the messages of its widget. -/
namespace OpenLighting.DmxTri

open OpenLighting.Rdm BoundedReads Widget

def dataOffset : Nat := 2

/-- `GetResponseWithPid`, with the data from an offset on. -/
def getResponseWithPidAt (request : Command) (pid : UInt16) (message : List UInt8)
    (offset length : Nat) (type outstandingMessages : UInt8) : Except Fault (Option Command) :=
  match request.commandClass with
  | .getCommand | .setCommand | .discoverCommand =>
    (fun data => getResponseWithPid request pid data type outstandingMessages) <$>
      copy message offset length
  | _ => pure none

namespace Widget

section Handling
variable (widget : Widget) (returnCode : UInt8) (message : List UInt8) (length : Nat)

def handleDiscoverStatResponseAt : Except Fault (Widget × Bool) :=
  if ErrorCode.ofByte returnCode = .noError ∨
      ErrorCode.ofByte returnCode = .responseUnexpected then
    if length < 1 then pure (widget, false)
    else do
      let running ← elementAt message (dataOffset + 1)
      if running = 0 then
        let count ← elementAt message dataOffset
        let widget := { widget.stopDiscovery with uidCount := count, uidIndexMap := ∅ }
        if count ≠ 0 then pure ({ widget with discoveryState := .fetchUidRequired }, true)
        else pure widget.completeDiscovery
      else pure (widget, false)
  else pure { widget with uidIndexMap := ∅ }.stopDiscovery.completeDiscovery

def handleRemoteUIDResponseAt : Except Fault (Widget × Bool) :=
  if widget.uidCount = 0 then pure (widget, false)
  else do
    let uidIndexMap ←
      if ErrorCode.ofByte returnCode = .noError ∧ uidSize ≤ length then
        (fun uid => widget.uidIndexMap.insert (UID.unpack uid) widget.uidCount) <$>
          copy message dataOffset uidSize
      else pure widget.uidIndexMap
    let widget :=
      { widget with
        uidIndexMap := uidIndexMap
        uidCount := widget.uidCount - 1 }
    if widget.uidCount ≠ 0 then pure ({ widget with discoveryState := .fetchUidRequired }, true)
    else pure widget.completeDiscovery

def handleRawRDMResponseAt : Except Fault (Widget × Bool) :=
  let cleared := { widget with pendingRdmRequest := none, rdmRequestCallback := none }
  match widget.rdmRequestCallback, widget.pendingRdmRequest with
  | some callback, some request =>
    let code := ErrorCode.ofByte returnCode
    if code = .unknownCommand then
      pure ({ cleared with useRawRdm := false }.resubmit request callback)
    else do
      let packet ← copy message dataOffset length
      if isDUBRequest request then
        if code = .responseNone then
          pure (cleared.finish callback (.completed .timeout none [packet]))
        else if code = .noError ∨ code = .responseDiscovery then
          pure (cleared.finish callback (.completed .dubResponse none [packet]))
        else pure (cleared, false)
      else if request.destination.isBroadcast then
        pure (cleared.finish callback (.completed .wasBroadcast none [packet]))
      else if code = .responseNone then
        pure (cleared.finish callback (.completed .timeout none [packet]))
      else
        (fun response => cleared.finish callback (.completed response.1 response.2 [packet])) <$>
          decoded (inflateFromData packet (some request))
  | _, _ => pure (cleared, false)

/-- What `HandleGenericRDMResponse` makes of an answer. -/
def genericResponseAt (request : Command) (code : ErrorCode) (pid : UInt16) (offset : Nat) :
    Except Fault (ResponseCode × Option Command) :=
  let completed := Prod.mk ResponseCode.completedOk
  match returnCodeToNackReason code with
  | some reason => pure (.completedOk, some (nackWithReason request reason.value 0))
  | none =>
  match code with
  | .noError =>
    if request.destination.isBroadcast then pure (.wasBroadcast, none)
    else completed <$> getResponseWithPidAt request pid message offset length rdmAck 0
  | .responseTime =>
    completed <$> getResponseWithPidAt request pid message offset length rdmAckTimer 0
  | .responseWait => completed <$> getResponseWithPidAt request pid message offset length rdmAck 1
  | .responseMore =>
    completed <$> getResponseWithPidAt request pid message offset length ackOverflow 0
  | code => pure ((triToOlaReturnCode code).getD .invalidResponse, none)

def handleGenericRDMResponseAt (pid : UInt16) (offset : Nat) : Except Fault (Widget × Bool) :=
  let cleared := { widget with pendingRdmRequest := none, rdmRequestCallback := none }
  match widget.rdmRequestCallback, widget.pendingRdmRequest with
  | some callback, some request =>
    (fun answer => cleared.finish callback (.completed answer.1 answer.2 [])) <$>
      genericResponseAt message length request (ErrorCode.ofByte returnCode) pid offset
  | _, _ => pure (cleared, false)

def handleRemoteRDMResponseAt : Except Fault (Widget × Bool) :=
  match widget.pendingRdmRequest with
  | none => pure (widget, false)
  | some request =>
    widget.handleGenericRDMResponseAt returnCode message length request.paramId dataOffset

def handleQueuedGetResponseAt : Except Fault (Widget × Bool) :=
  if length < 2 then pure (widget.handleRDMError .invalidResponse)
  else do
    let pid ← copy message dataOffset 2
    widget.handleGenericRDMResponseAt returnCode message (minus length 2)
      (word (pid.getD 0 0, pid.getD 1 0)) (dataOffset + 2)

/-- The switch of `HandleMessage`. -/
def handleCommandAt (link : Nat → TriCommandId → Bool) (command : Option TriCommandId) :
    Except Fault (Widget × Bool) :=
  match command with
  | some .singleTx => pure (widget, true)
  | some .discoverAuto => pure (widget.handleDiscoveryAutoResponse returnCode)
  | some .discoverStatus => widget.handleDiscoverStatResponseAt returnCode message length
  | some .remoteUid => widget.handleRemoteUIDResponseAt returnCode message length
  | some .rawRdm => widget.handleRawRDMResponseAt returnCode message length
  | some .remoteGet => widget.handleRemoteRDMResponseAt returnCode message length
  | some .remoteSet => widget.handleRemoteRDMResponseAt returnCode message length
  | some .queuedGet => widget.handleQueuedGetResponseAt returnCode message length
  | some .setFilter => pure (widget.handleSetFilterResponse link returnCode)
  | none => pure (widget, false)

end Handling

def handleMessageAt (widget : Widget) (link : Nat → TriCommandId → Bool) (label : UInt8)
    (message : List UInt8) : Except Fault Widget :=
  if label = extendedCommandLabel then
    if message.length < dataOffset then pure widget
    else do
      let command ← elementAt message 0
      let returnCode ← elementAt message 1
      settle link <$> { widget with
        lastCommand := widget.expectedCommand
        expectedCommand := none }.handleCommandAt returnCode message
          (minus message.length dataOffset) link (TriCommandId.ofByte command)
  else pure widget

end Widget

section Handlers
variable {widget : Widget} {command returnCode : UInt8} {message data : List UInt8}
  {offset length : Nat}

theorem getResponseWithPidAt_eq (copied : copy message offset length = .ok data)
    (request : Command) (pid : UInt16) (type outstandingMessages : UInt8) :
    getResponseWithPidAt request pid message offset length type outstandingMessages =
      .ok (getResponseWithPid request pid data type outstandingMessages) := by
  unfold getResponseWithPidAt getResponseWithPid
  cases request.commandClass with
  | getCommand | setCommand | discoverCommand =>
    simp only [copied]
    rfl
  | _ => rfl

theorem genericResponseAt_eq (copied : copy message offset length = .ok data)
    (request : Command) (code : ErrorCode) (pid : UInt16) :
    Widget.genericResponseAt message length request code pid offset =
      .ok (Widget.genericResponse request code pid data) := by
  unfold genericResponseAt genericResponse
  simp only [getResponseWithPidAt_eq copied]
  cases returnCodeToNackReason code with
  | some reason => rfl
  | none =>
    cases code with
    | noError =>
      by_cases broadcast : request.destination.isBroadcast = true
      · simp only [if_pos broadcast]
        rfl
      · simp only [if_neg broadcast]
        rfl
    | _ => rfl

theorem handleGenericRDMResponseAt_eq (copied : copy message offset length = .ok data)
    (pid : UInt16) :
    widget.handleGenericRDMResponseAt returnCode message length pid offset =
      .ok (widget.handleGenericRDMResponse returnCode pid data) := by
  unfold handleGenericRDMResponseAt handleGenericRDMResponse
  cases widget.rdmRequestCallback with
  | none => rfl
  | some callback =>
    cases widget.pendingRdmRequest with
    | none => rfl
    | some request =>
      dsimp only
      rw [genericResponseAt_eq copied]
      rfl

theorem copy_data : copy (command :: returnCode :: data) dataOffset data.length = .ok data :=
  copy_drop (command :: returnCode :: data) dataOffset

theorem handleRemoteRDMResponseAt_eq :
    widget.handleRemoteRDMResponseAt returnCode (command :: returnCode :: data) data.length =
      .ok (widget.handleRemoteRDMResponse returnCode data) := by
  unfold handleRemoteRDMResponseAt handleRemoteRDMResponse
  cases widget.pendingRdmRequest with
  | none => rfl
  | some request => exact handleGenericRDMResponseAt_eq copy_data request.paramId

theorem handleQueuedGetResponseAt_eq (counted : data.length < 2 ^ 32) :
    widget.handleQueuedGetResponseAt returnCode (command :: returnCode :: data) data.length =
      .ok (widget.handleQueuedGetResponse returnCode data) := by
  unfold handleQueuedGetResponseAt
  match data with
  | [] | [_] => rfl
  | high :: low :: rest =>
    have long : ¬ (high :: low :: rest).length < 2 := by
      simp only [List.length_cons]
      omega
    have pid : copy (command :: returnCode :: high :: low :: rest) dataOffset 2 =
        .ok [high, low] := copy_inside (by simp only [dataOffset, List.length_cons]; omega)
    have copied : copy (command :: returnCode :: high :: low :: rest) (dataOffset + 2)
        (minus (high :: low :: rest).length 2) = .ok rest := by
      rw [minus_eq (by omega) counted]
      exact copy_drop (command :: returnCode :: high :: low :: rest) (dataOffset + 2)
    exact handleGenericRDMResponseAt_eq copied (word (high, low))

theorem handleRemoteUIDResponseAt_eq :
    widget.handleRemoteUIDResponseAt returnCode (command :: returnCode :: data) data.length =
      .ok (widget.handleRemoteUIDResponse returnCode data) := by
  unfold handleRemoteUIDResponseAt handleRemoteUIDResponse fetched
  by_cases idle : widget.uidCount = 0
  · rw [if_pos idle, if_pos idle]
    rfl
  · rw [if_neg idle, if_neg idle]
    by_cases told : ErrorCode.ofByte returnCode = .noError ∧ uidSize ≤ data.length
    · have copied : copy (command :: returnCode :: data) dataOffset uidSize =
          .ok (data.take uidSize) :=
        copy_inside (by simp only [dataOffset, List.length_cons]; omega)
      have same : UID.unpack (data.take uidSize) = UID.unpack data := by
        simp [UID.unpack, uidSize]
      rw [if_pos told, if_pos told, copied, ← same]
      by_cases more : widget.uidCount - 1 ≠ 0
      · simp only [if_pos more]
        rfl
      · simp only [if_neg more]
        rfl
    · rw [if_neg told, if_neg told]
      by_cases more : widget.uidCount - 1 ≠ 0
      · simp only [if_pos more]
        rfl
      · simp only [if_neg more]
        rfl

/-- An answer about the discovery that is not of one byte. -/
def StatusFits (returnCode : UInt8) (data : List UInt8) : Prop :=
  ErrorCode.ofByte returnCode = .noError ∨ ErrorCode.ofByte returnCode = .responseUnexpected →
    data.length ≠ 1

theorem handleDiscoverStatResponseAt_yields (behind : UInt8) :
    Yields (widget.handleDiscoverStatResponseAt returnCode (command :: returnCode :: data)
      data.length) (StatusFits returnCode data)
      (widget.handleDiscoverStatResponse returnCode data behind) := by
  unfold handleDiscoverStatResponseAt handleDiscoverStatResponse StatusFits
  by_cases known : ErrorCode.ofByte returnCode = .noError ∨
      ErrorCode.ofByte returnCode = .responseUnexpected
  · simp only [known, true_implies, if_true]
    match data with
    | [] => exact ⟨fun _ => rfl, fun never => absurd (by decide) never⟩
    | [count] =>
      have beyond : elementAt [command, returnCode, count] (dataOffset + 1) =
          .error .outside := elementAt_outside (Nat.le_refl 3)
      exact ⟨fun never => absurd rfl never, fun _ => by rw [beyond]; rfl⟩
    | count :: running :: rest =>
      have first : elementAt (command :: returnCode :: count :: running :: rest) dataOffset =
          .ok count := rfl
      have second : elementAt (command :: returnCode :: count :: running :: rest)
          (dataOffset + 1) = .ok running := rfl
      have some : ¬ (count :: running :: rest).length < 1 := by
        simp only [List.length_cons]
        omega
      have inside : (count :: running :: rest).length ≠ 1 := by
        simp only [List.length_cons]
        omega
      apply (yields_true _).congr (iff_of_true trivial inside)
      simp only [if_neg some, first, second, ok_bind, List.headD_cons]
      by_cases idle : running = 0
      · by_cases more : count ≠ 0
        · simp only [if_pos idle, if_pos more]
          rfl
        · simp only [if_pos idle, if_neg more]
          rfl
      · rw [if_neg idle]
        exact congrArg Except.ok (if_neg idle).symm
  · simp only [known, false_implies, if_false]
    exact yields_true rfl

structure Decodes (widget : Widget) (returnCode : UInt8) (request : Command) : Prop where
  waits : widget.rdmRequestCallback.isSome
  pending : widget.pendingRdmRequest = some request
  plain : ¬ isDUBRequest request = true
  one : ¬ request.destination.isBroadcast = true
  raw : ErrorCode.ofByte returnCode ≠ .unknownCommand
  answered : ErrorCode.ofByte returnCode ≠ .responseNone

/-- An answer to a raw request that the decoder can take, if it is decoded. -/
def RawFits (widget : Widget) (returnCode : UInt8) (data : List UInt8) : Prop :=
  ∀ request, Decodes widget returnCode request →
    FitsFor (IsResponse (some request) request.transactionNumber) data

theorem yields_undecoded {β : Type} {run : Except Fault β} {result : β} (done : run = .ok result)
    (other : ∀ request, ¬ Decodes widget returnCode request) :
    Yields run (RawFits widget returnCode data) result :=
  (yields_true done).congr
    (iff_of_true trivial fun request decodes => absurd decodes (other request))

theorem rawFits_iff {request : Command} (decodes : Decodes widget returnCode request) :
    RawFits widget returnCode data ↔
      FitsFor (IsResponse (some request) request.transactionNumber) data := by
  constructor
  · intro fits
    exact fits request decodes
  · intro fits other again
    cases decodes.pending.symm.trans again.pending
    exact fits

theorem handleRawRDMResponseAt_yields (counted : data.length < 2 ^ 32) :
    Yields (widget.handleRawRDMResponseAt returnCode (command :: returnCode :: data) data.length)
      (RawFits widget returnCode data) (widget.handleRawRDMResponse returnCode data) := by
  unfold handleRawRDMResponseAt handleRawRDMResponse
  cases waits : widget.rdmRequestCallback with
  | none =>
    apply yields_undecoded rfl
    intro request decodes
    cases (congrArg Option.isSome waits).symm.trans decodes.waits
  | some callback =>
    cases pending : widget.pendingRdmRequest with
    | none =>
      apply yields_undecoded rfl
      intro request decodes
      cases pending.symm.trans decodes.pending
    | some request =>
      have same {sent : Command} (decodes : Decodes widget returnCode sent) : sent = request :=
        Option.some.inj (decodes.pending.symm.trans pending)
      dsimp only
      by_cases raw : ErrorCode.ofByte returnCode = .unknownCommand
      · rw [if_pos raw, if_pos raw]
        exact yields_undecoded rfl fun _ decodes => decodes.raw raw
      · rw [if_neg raw, if_neg raw, copy_data, ok_bind]
        by_cases dub : isDUBRequest request = true
        · rw [if_pos dub, if_pos dub]
          apply yields_undecoded
          · split
            · rfl
            · split
              · rfl
              · rfl
          · intro sent decodes
            exact decodes.plain (same decodes ▸ dub)
        · rw [if_neg dub, if_neg dub]
          by_cases broadcast : request.destination.isBroadcast = true
          · rw [if_pos broadcast, if_pos broadcast]
            exact yields_undecoded rfl fun _ decodes => decodes.one (same decodes ▸ broadcast)
          · rw [if_neg broadcast, if_neg broadcast]
            by_cases silent : ErrorCode.ofByte returnCode = .responseNone
            · rw [if_pos silent, if_pos silent]
              exact yields_undecoded rfl fun _ decodes => decodes.answered silent
            · rw [if_neg silent, if_neg silent]
              have decodes : Decodes widget returnCode request :=
                ⟨by rw [waits]; rfl, pending, dub, broadcast, raw, silent⟩
              have fits := (rawFits_iff decodes).trans
                (inflateFromData_fits_iff counted (some request)).symm
              cases decoder : inflateFromData data (some request) with
              | error beyond =>
                cases beyond
                rw [decoder] at fits
                exact ⟨fun holds => absurd rfl (fits.mp holds), fun _ => rfl⟩
              | ok response =>
                rw [decoder] at fits
                apply (yields_true rfl).congr (iff_of_true trivial (fits.mpr _))
                intro wrong
                cases wrong

/-- The answers of a command that its handler can take. -/
def CommandFits (widget : Widget) (returnCode : UInt8) (data : List UInt8) :
    Option TriCommandId → Prop
  | some .discoverStatus => StatusFits returnCode data
  | some .rawRdm => RawFits widget returnCode data
  | _ => True

/-- Only the request that is outstanding matters. -/
theorem commandFits_congr {other : Widget}
    (callback : other.rdmRequestCallback = widget.rdmRequestCallback)
    (pending : other.pendingRdmRequest = widget.pendingRdmRequest) (id : Option TriCommandId) :
    CommandFits other returnCode data id ↔ CommandFits widget returnCode data id := by
  have same (request : Command) :
      Decodes other returnCode request ↔ Decodes widget returnCode request :=
    ⟨fun decodes => ⟨callback ▸ decodes.waits, pending ▸ decodes.pending, decodes.plain,
        decodes.one, decodes.raw, decodes.answered⟩,
      fun decodes => ⟨callback ▸ decodes.waits, pending ▸ decodes.pending, decodes.plain,
        decodes.one, decodes.raw, decodes.answered⟩⟩
  unfold CommandFits
  simp only [RawFits, same]

theorem handleCommandAt_yields (counted : data.length < 2 ^ 32)
    (link : Nat → TriCommandId → Bool) (id : Option TriCommandId) (behind : UInt8) :
    Yields (widget.handleCommandAt returnCode (command :: returnCode :: data) data.length link id)
      (CommandFits widget returnCode data id)
      (widget.handleCommand link id returnCode data behind) := by
  cases id with
  | none => exact yields_true rfl
  | some id =>
    cases id with
    | discoverStatus => exact handleDiscoverStatResponseAt_yields behind
    | rawRdm => exact handleRawRDMResponseAt_yields counted
    | remoteUid => exact yields_true handleRemoteUIDResponseAt_eq
    | remoteGet | remoteSet => exact yields_true handleRemoteRDMResponseAt_eq
    | queuedGet => exact yields_true (handleQueuedGetResponseAt_eq counted)
    | singleTx | discoverAuto | setFilter => exact yields_true rfl

/-- The messages of the widget that are no answers, or that the handlers of their commands can
take. -/
def MessageFits (widget : Widget) (label : UInt8) (message : List UInt8) : Prop :=
  ∀ command returnCode data, label = Widget.extendedCommandLabel →
    message = command :: returnCode :: data →
      CommandFits widget returnCode data (TriCommandId.ofByte command)

theorem handleMessageAt_yields (counted : message.length < 2 ^ 32)
    (link : Nat → TriCommandId → Bool) (label behind : UInt8) :
    Yields (widget.handleMessageAt link label message) (MessageFits widget label message)
      (widget.handleMessage link label message behind) := by
  unfold handleMessageAt handleMessage
  by_cases extended : label = extendedCommandLabel
  · rw [if_pos extended, if_pos extended]
    match message with
    | [] | [_] =>
      exact (yields_true rfl).congr (iff_of_true trivial fun _ _ _ _ same => by cases same)
    | command :: returnCode :: data =>
      have long : ¬ (command :: returnCode :: data).length < dataOffset := by
        simp only [List.length_cons, dataOffset]
        omega
      have first : elementAt (command :: returnCode :: data) 0 = .ok command := rfl
      have second : elementAt (command :: returnCode :: data) 1 = .ok returnCode := rfl
      have length : minus (command :: returnCode :: data).length dataOffset = data.length :=
        minus_eq (by omega) counted
      have fits : MessageFits widget label (command :: returnCode :: data) ↔
          CommandFits widget returnCode data (TriCommandId.ofByte command) := by
        constructor
        · intro fits
          exact fits command returnCode data extended rfl
        · intro fits _ _ _ _ same
          cases same
          exact fits
      simp only [List.length_cons] at counted
      rw [if_neg long, first, ok_bind, second, ok_bind, length]
      have handled := @handleCommandAt_yields { widget with
        lastCommand := widget.expectedCommand
        expectedCommand := none } command returnCode data (by omega) link
          (TriCommandId.ofByte command) behind
      have only := @commandFits_congr widget returnCode data { widget with
        lastCommand := widget.expectedCommand
        expectedCommand := none } rfl rfl (TriCommandId.ofByte command)
      exact (handled.congr (only.trans fits.symm)).map (settle link)
  · rw [if_neg extended, if_neg extended]
    exact (yields_true rfl).congr
      (iff_of_true trivial fun _ _ _ same => absurd same extended)

end Handlers

end OpenLighting.DmxTri

namespace OpenLighting

open OpenLighting.Rdm BoundedReads

/-- Every message of a widget is read inside of its data exactly when it is one that the Enttec
port it is for, or the handler of the DMX-TRI command it answers, can take. -/
theorem widget_messages_inside_iff (enttec : Enttec.EnttecUsbProWidget) (tri : DmxTri.Widget)
    (link : Nat → DmxTri.TriCommandId → Bool) (label : UInt8) (message : List UInt8)
    (short : message.length ≤ SerialWidget.UsbPro.maxDataSize) :
    (Succeeds (enttec.handleMessage label message) ↔ Enttec.MessageFits enttec label message) ∧
      (Succeeds (tri.handleMessageAt link label message) ↔
        DmxTri.MessageFits tri label message) := by
  have counted : message.length < 2 ^ 32 := by
    unfold SerialWidget.UsbPro.maxDataSize at short
    omega
  constructor
  · exact Enttec.succeeds_handleMessage_iff counted enttec
  · exact (DmxTri.handleMessageAt_yields counted link label 0).succeeds_iff

/-- A widget with one port that has just been started. -/
def newEnttecWidget : Enttec.EnttecUsbProWidget := ⟨⟨.new ⟨0x7a70, 1⟩, 0, []⟩, none, 0, []⟩

/-- A DMX frame for the first port, and an answer that the discovery has found nothing. -/
theorem widget_messages_inside :
    Succeeds (newEnttecWidget.handleMessage 5 [0, 0, 255]) ∧
      Succeeds ((DmxTri.Widget.new true).handleMessageAt (fun _ _ => true) 88 [0x34, 0, 0, 0]) := by
  constructor
  · apply (widget_messages_inside_iff newEnttecWidget (.new true) (fun _ _ => true) 5 [0, 0, 255]
      (by decide)).1.mpr
    exact ⟨fun _ => Enttec.frameFits_dmx (by decide), fun same => absurd same (by decide)⟩
  · apply (widget_messages_inside_iff newEnttecWidget (.new true) (fun _ _ => true) 88
      [0x34, 0, 0, 0] (by decide)).2.mpr
    intro command returnCode data _ same
    cases same
    exact fun _ => by decide

/-- A frame without a status, and an answer about the discovery that is cut off behind the number
of devices. -/
theorem widget_messages_beyond :
    ¬ Succeeds (newEnttecWidget.handleMessage 5 []) ∧
      ¬ Succeeds ((DmxTri.Widget.new true).handleMessageAt (fun _ _ => true) 88 [0x34, 0, 5]) := by
  have frame : newEnttecWidget.handleMessage 5 [] = .error .outside := rfl
  have answer : (DmxTri.Widget.new true).handleMessageAt (fun _ _ => true) 88 [0x34, 0, 5] =
      .error .outside := rfl
  exact ⟨not_succeeds_error .outside, not_succeeds_error .outside⟩

end OpenLighting
