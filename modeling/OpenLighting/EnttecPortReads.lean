import OpenLighting.EnttecDmxDiff
import OpenLighting.EnttecPortRuns
import OpenLighting.RdmDecoderReads
import OpenLighting.SerialWidgets

/- What an `EnttecUsbProWidgetImpl` reads of the messages of its widget. A message without data has
no bytes at all: its pointer is NULL. -/
namespace OpenLighting.Enttec

open OpenLighting.Rdm BoundedReads

structure UsbProParameters where
  firmware : UInt8
  firmwareHigh : UInt8
  breakTime : UInt8
  mabTime : UInt8
  rate : UInt8

/-- `sizeof(usb_pro_parameters)`, and what it is copied from. -/
def usbProParametersSize : Nat := 5

def UsbProParameters.ofBytes (bytes : List UInt8) : UsbProParameters :=
  ⟨bytes.getD 0 0, bytes.getD 1 0, bytes.getD 2 0, bytes.getD 3 0, bytes.getD 4 0⟩

/-- `OperationLabels`, as far as they are labels of messages from the widget. -/
structure OperationLabels where
  getParams : UInt8
  recvDmx : UInt8
  cosDmx : UInt8
  rdmTimeout : UInt8

def OperationLabels.port1Operations : OperationLabels := ⟨3, 5, 9, 12⟩
def OperationLabels.port2Operations : OperationLabels := ⟨137, 156, 164, 201⟩

def portAssignmentLabel : UInt8 := 141

/-- An `EnttecPortImpl` with the number of callbacks that wait for parameters, and what the others
were run with. -/
structure WidgetPort where
  impl : EnttecPort
  outstandingParamCallbacks : Nat
  parameters : List UsbProParameters

/-- An `EnttecUsbProWidgetImpl` with one port or two, the number of callbacks that wait for the
assignment of the ports, and what the others were run with. -/
structure EnttecUsbProWidget where
  first : WidgetPort
  second : Option WidgetPort
  portAssignmentCallbacks : Nat
  assignments : List (Bool × UInt8 × UInt8)

namespace EnttecPort

def handleDMXAt (port : EnttecPort) (message : List UInt8) : Except Fault EnttecPort :=
  if message.length < 2 then pure port
  else do
    let status ← elementAt message 0
    if status ≠ 0 then pure port
    else if 2 < message.length then
      let startCode ← elementAt message 1
      if startCode = 0 then
        let slots ← copy message 2 (min (minus message.length 2) dmxUniverseSize)
        pure { port with inputBuffer := (port.inputBuffer.set (some slots)).1 }
      else pure port
    else pure port

/-- The loop of `HandleDMXDiff`, with the rounds that are left, from bit `i` on. -/
def diffLoopAt (message : List UInt8) (startChannel : Nat) :
    Nat → Nat → Nat → DmxBuffer → Except Fault DmxBuffer
  | 0, _, _, buffer => pure buffer
  | rounds + 1, i, offset, buffer =>
    if dmxUniverseSize + 1 < startChannel + i ∨ message.length ≤ offset + 6 then pure buffer
    else do
      let mask ← elementAt message (1 + i / 8)
      if mask &&& (1 <<< UInt8.ofNat (i % 8)) ≠ 0 ∧ startChannel + i ≠ 0 then
        let value ← elementAt message (6 + offset)
        diffLoopAt message startChannel rounds (i + 1) (offset + 1)
          (buffer.setChannel (startChannel + i - 1) value)
      else diffLoopAt message startChannel rounds (i + 1) offset buffer

def handleDMXDiffAt (port : EnttecPort) (message : List UInt8) : Except Fault EnttecPort :=
  if message.length < dataChangedSize then pure port
  else do
    let start ← elementAt message 0
    let mask ← elementAt message 1
    let value ← elementAt message 6
    if start.toNat * 8 = 0 ∧ mask &&& 1 ≠ 0 ∧ value ≠ 0 then pure port
    else
      let buffer ← diffLoopAt message (start.toNat * 8) 40 0 0 port.inputBuffer
      pure { port with inputBuffer := buffer }

/-- A frame that is left to `HandleDMX`. -/
def isDmxAt (port : EnttecPort) (message : List UInt8) : Except Fault Bool :=
  if ¬ port.waitingForDub ∧ 2 ≤ message.length then
    (fun code => decide (code ≠ startCode)) <$> elementAt message 1
  else pure false

def handleIncommingDataMessageAt (port : EnttecPort) (message : List UInt8) :
    Except Fault EnttecPort := do
  let isDmx ← port.isDmxAt message
  if isDmx then port.handleDMXAt message
  else
    let status ← elementAt message 0
    if status ≠ 0 then pure port
    else
      let length := minus message.length 1
      match port.branchCallback with
      | some _ =>
        if port.discoveryResponse.isSome then pure port
        else do
          let response ← copy message 1 length
          pure { port with discoveryResponse := some response }
      | none =>
      match port.muteCallback with
      | some callback => pure ({ port with muteCallback := none }.finish callback (.muted true))
      | none =>
      match port.rdmRequestCallback with
      | some callback =>
        let cleared := { port with rdmRequestCallback := none, pendingRequest := none }
        if port.waitingForDub then do
          let packet ← copy message 1 length
          pure (cleared.finish callback (.completed .dubResponse none [packet]))
        else do
          let packet ← copy message 2 (minus length 1)
          let response ← decoded (inflateFromData packet port.pendingRequest)
          pure (cleared.finish callback (.completed response.1 response.2 [packet]))
      | none => pure port

end EnttecPort

namespace WidgetPort

def handleParameters (port : WidgetPort) (message : List UInt8) : Except Fault WidgetPort :=
  if port.outstandingParamCallbacks = 0 then pure port
  else if message.length < usbProParametersSize then pure port
  else do
    let bytes ← copy message 0 usbProParametersSize
    pure { port with
      outstandingParamCallbacks := port.outstandingParamCallbacks - 1
      parameters := port.parameters ++ [UsbProParameters.ofBytes bytes] }

def handleLabel (port : WidgetPort) (ops : OperationLabels) (label : UInt8)
    (message : List UInt8) : Except Fault WidgetPort :=
  if ops.getParams = label then port.handleParameters message
  else if ops.rdmTimeout = label then pure { port with impl := port.impl.handleRDMTimeout }
  else if ops.recvDmx = label then
    (fun impl => { port with impl := impl }) <$> port.impl.handleIncommingDataMessageAt message
  else if ops.cosDmx = label then
    (fun impl => { port with impl := impl }) <$> port.impl.handleDMXDiffAt message
  else pure port

end WidgetPort

namespace EnttecUsbProWidget

def handlePortAssignment (widget : EnttecUsbProWidget) (message : List UInt8) :
    Except Fault EnttecUsbProWidget := do
  let assignment ←
    if message.length = 2 then do
      let port1 ← elementAt message 0
      let port2 ← elementAt message 1
      pure (true, port1, port2)
    else pure (false, 0, 0)
  pure { widget with
    portAssignmentCallbacks := 0
    assignments :=
      widget.assignments ++ List.replicate widget.portAssignmentCallbacks assignment }

def handleMessage (widget : EnttecUsbProWidget) (label : UInt8) (message : List UInt8) :
    Except Fault EnttecUsbProWidget :=
  if label = portAssignmentLabel then widget.handlePortAssignment message
  else
    match widget.second with
    | some second =>
      if 128 < label then
        (fun port => { widget with second := some port }) <$>
          second.handleLabel .port2Operations label message
      else
        (fun port => { widget with first := port }) <$>
          widget.first.handleLabel .port1Operations label message
    | none =>
      (fun port => { widget with first := port }) <$>
        widget.first.handleLabel .port1Operations label message

end EnttecUsbProWidget

section Port
variable {port : EnttecPort} {message : List UInt8}

theorem handleDMXAt_eq (counted : message.length < 2 ^ 32) :
    port.handleDMXAt message = .ok (port.handleDMX message) := by
  unfold EnttecPort.handleDMXAt
  match message with
  | [] | [_] => rfl
  | status :: startCode :: dmx =>
    have slots : copy (status :: startCode :: dmx) 2
        (min (minus (dmx.length + 1 + 1) 2) dmxUniverseSize) =
          .ok (dmx.take dmxUniverseSize) := by
      simp only [List.length_cons] at counted
      rw [minus_eq (by omega) counted, show dmx.length + 1 + 1 - 2 = dmx.length by omega,
        copy_inside (by simp only [List.length_cons]; omega), Nat.min_comm, ← List.take_take]
      simp
    have first : elementAt (status :: startCode :: dmx) 0 = .ok status := rfl
    have second : elementAt (status :: startCode :: dmx) 1 = .ok startCode := rfl
    have long : ¬ dmx.length + 1 + 1 < 2 := by omega
    have longer : 2 < dmx.length + 1 + 1 ↔ dmx ≠ [] := by
      rw [ne_eq, ← List.length_eq_zero_iff]
      omega
    simp only [List.length_cons, first, second, slots, ok_bind, long, longer, if_false,
      EnttecPort.handleDMX, DmxBuffer.set_take]
    by_cases bad : status ≠ 0
    · rw [if_pos bad, if_pos bad]
      rfl
    · rw [if_neg bad, if_neg bad]
      by_cases dark : dmx ≠ []
      · by_cases zero : startCode = 0
        · rw [if_pos dark, if_pos zero, if_pos ⟨zero, dark⟩]
          rfl
        · rw [if_pos dark, if_neg zero, if_neg (fun both => zero both.1)]
          rfl
      · rw [if_neg dark, if_neg (fun both => dark both.2)]
        rfl

theorem diffLoopAt_eq (rounds bit offset : Nat) (buffer : DmxBuffer) (all : bit + rounds = 40) :
    EnttecPort.diffLoopAt message (startChannel message) rounds bit offset buffer =
      .ok (diffLoop message rounds bit offset buffer) := by
  induction rounds generalizing bit offset buffer with
  | zero => rfl
  | succ rounds ih =>
    have next := ih (bit + 1) offset buffer (by omega)
    unfold EnttecPort.diffLoopAt diffLoop
    by_cases stops : dmxUniverseSize + 1 < startChannel message + bit ∨
        message.length ≤ offset + 6
    · rw [if_pos stops, if_pos stops]
      rfl
    · have mask := elementAt_getD (show 1 + bit / 8 < message.length by omega) 0
      have value := elementAt_getD (show 6 + offset < message.length by omega) 0
      rw [if_neg stops, if_neg stops, mask, ok_bind, value, ok_bind, next]
      simp only [changed, decide_eq_true_eq]
      by_cases marked : message.getD (1 + bit / 8) 0 &&& (1 <<< UInt8.ofNat (bit % 8)) ≠ 0 ∧
          startChannel message + bit ≠ 0
      · rw [if_pos marked, if_pos marked]
        exact ih (bit + 1) (offset + 1) _ (by omega)
      · rw [if_neg marked, if_neg marked]

theorem handleDMXDiffAt_eq : port.handleDMXDiffAt message = .ok (port.handleDMXDiff message) := by
  unfold EnttecPort.handleDMXDiffAt EnttecPort.handleDMXDiff
  by_cases short : message.length < dataChangedSize
  · rw [if_pos short, if_pos short]
    rfl
  · have full : dataChangedSize ≤ message.length := by omega
    have looped := @diffLoopAt_eq message 40 0 0 port.inputBuffer rfl
    have other : (startChannel message = 0 ∧ message.getD 1 0 &&& 1 ≠ 0 ∧ message.getD 6 0 ≠ 0) ↔
        OtherStartCode message := by
      unfold OtherStartCode
      simp only [changed, changedData, decide_eq_true_eq]
      rfl
    unfold dataChangedSize at full
    rw [if_neg short, if_neg short, elementAt_getD (by omega) 0, ok_bind,
      elementAt_getD (by omega) 0, ok_bind, elementAt_getD (by omega) 0, ok_bind, ← startChannel,
      looped, ok_bind]
    by_cases code : OtherStartCode message
    · rw [if_pos code, if_pos (other.mpr code)]
      rfl
    · rw [if_neg code, if_neg (fun same => code (other.mp same))]
      rfl

/-- The frame is left to `HandleDMX`. -/
theorem isDmxAt_eq : port.isDmxAt message =
    .ok (decide (¬ port.waitingForDub ∧ 2 ≤ message.length ∧ message.getD 1 0 ≠ startCode)) := by
  unfold EnttecPort.isDmxAt
  by_cases plain : ¬ port.waitingForDub ∧ 2 ≤ message.length
  · have only : (¬ port.waitingForDub ∧ 2 ≤ message.length ∧ message.getD 1 0 ≠ startCode) ↔
        message.getD 1 0 ≠ startCode := by
      rw [← and_assoc, and_iff_right plain]
    rw [if_pos plain, elementAt_getD plain.2 0, decide_eq_decide.mpr only]
    rfl
  · rw [if_neg plain, decide_eq_false (fun all => plain ⟨all.1, all.2.1⟩)]
    rfl

/-- The frame as the port has it, with the reads of it. -/
theorem handleIncommingDataMessageAt_eq (counted : message.length < 2 ^ 32) :
    port.handleIncommingDataMessageAt message =
      orOutside (port.handleIncommingDataMessage message) := by
  unfold EnttecPort.handleIncommingDataMessageAt EnttecPort.handleIncommingDataMessage
  rw [isDmxAt_eq, ok_bind]
  by_cases dmx : ¬ port.waitingForDub ∧ 2 ≤ message.length ∧ message.getD 1 0 ≠ startCode
  · rw [if_pos dmx, decide_eq_true dmx, if_pos rfl, handleDMXAt_eq counted]
    rfl
  · rw [if_neg dmx, decide_eq_false dmx, if_neg Bool.false_ne_true]
    cases message with
    | nil => rfl
    | cons status data =>
      have length : minus (status :: data).length 1 = data.length := by
        rw [minus_eq (by simp only [List.length_cons]; omega) counted]
        rfl
      have first : elementAt (status :: data) 0 = .ok status := rfl
      have rest : copy (status :: data) 1 data.length = .ok data := copy_drop (status :: data) 1
      dsimp only
      rw [first, ok_bind, length]
      by_cases bad : status ≠ 0
      · rw [if_pos bad, if_pos bad]
        rfl
      · rw [if_neg bad, if_neg bad]
        cases port.branchCallback with
        | some callback =>
          by_cases heard : port.discoveryResponse.isSome = true
          · rw [if_pos heard, if_pos heard]
            rfl
          · rw [if_neg heard, if_neg heard, rest]
            rfl
        | none =>
          cases port.muteCallback with
          | some callback => rfl
          | none =>
            cases port.rdmRequestCallback with
            | none => rfl
            | some callback =>
              dsimp only
              by_cases dub : port.waitingForDub = true
              · rw [if_pos dub, if_pos dub, rest]
                rfl
              · rw [if_neg dub, if_neg dub]
                cases data with
                | nil => rfl
                | cons startCode packet =>
                  simp only [List.length_cons] at counted
                  have inner : copy (status :: startCode :: packet) 2
                      (minus (startCode :: packet).length 1) = .ok packet := by
                    rw [minus_eq (by simp only [List.length_cons]; omega)
                      (by simp only [List.length_cons]; omega)]
                    exact copy_drop (status :: startCode :: packet) 2
                  rw [inner, ok_bind]
                  dsimp only
                  cases inflateFromData packet port.pendingRequest with
                  | error beyond | ok response => rfl

/-- The frames a port can take: one that is no DMX frame has a status, and an answer has a start
code with a packet that can be decoded behind it. -/
structure FrameFits (port : EnttecPort) (message : List UInt8) : Prop where
  some : message ≠ []
  whole : port.AwaitsAnswer → message ≠ [0]
  decodes : port.AwaitsAnswer → ∀ packet, message = 0 :: startCode :: packet →
    FitsFor (IsAnswer port.pendingRequest) packet

theorem frameFits_idle (some : message ≠ []) (idle : ¬ port.AwaitsAnswer) :
    FrameFits port message :=
  ⟨some, fun awaits => absurd awaits idle, fun awaits => absurd awaits idle⟩

theorem frameFits_bad {status : UInt8} (bad : status ≠ 0) (data : List UInt8) :
    FrameFits port (status :: data) where
  some := List.cons_ne_nil _ _
  whole := fun _ same => bad (List.cons.inj same).1
  decodes := fun _ _ same => absurd (List.cons.inj same).1 bad

theorem frameFits_dmx {status : UInt8} {data : List UInt8}
    (other : data.getD 0 startCode ≠ startCode) : FrameFits port (status :: data) where
  some := List.cons_ne_nil _ _
  whole := by
    intro _ same
    rw [(List.cons.inj same).2] at other
    exact other rfl
  decodes := by
    intro _ packet same
    rw [(List.cons.inj same).2] at other
    exact absurd rfl other

theorem frameFits_answer_iff (awaits : port.AwaitsAnswer) (packet : List UInt8) :
    FrameFits port (0 :: startCode :: packet) ↔ FitsFor (IsAnswer port.pendingRequest) packet := by
  constructor
  · intro fits
    exact fits.decodes awaits packet rfl
  · intro fits
    constructor
    · exact List.cons_ne_nil _ _
    · intro _ same
      cases same
    · intro _ other same
      cases same
      exact fits

/-- A frame is read inside of the message exactly when it is one that the port can take. -/
theorem frame_fits_iff (counted : message.length < 2 ^ 32) :
    (port.handleIncommingDataMessage message).isSome ↔ FrameFits port message := by
  cases message with
  | nil =>
    constructor
    · intro done
      unfold EnttecPort.handleIncommingDataMessage at done
      rw [if_neg (fun long => absurd long.2.1 (by decide))] at done
      cases done
    · intro fits
      exact absurd rfl fits.some
  | cons status data =>
    have some : status :: data ≠ [] := List.cons_ne_nil _ _
    by_cases bad : status ≠ 0
    · simp only [handle_corrupted port bad, Option.isSome_some, frameFits_bad bad]
    · have good : status = 0 := not_not.mp bad
      subst good
      have handled := handled_good port data
      generalize port.handleIncommingDataMessage (0 :: data) = result at handled ⊢
      cases handled with
      | dmx _ code => exact iff_of_true rfl (frameFits_dmx code)
      | branch callback waits =>
        apply iff_of_true rfl (frameFits_idle some _)
        intro awaits
        cases waits.symm.trans awaits.1
      | mute callback _ waits =>
        apply iff_of_true rfl (frameFits_idle some _)
        intro awaits
        cases waits.symm.trans awaits.2.1
      | idle _ _ request =>
        apply iff_of_true rfl (frameFits_idle some _)
        intro awaits
        cases (congrArg Option.isSome request).symm.trans awaits.2.2.1
      | dub _ _ _ _ dub => exact iff_of_true rfl (frameFits_idle some fun awaits =>
        awaits.2.2.2 dub)
      | short awaits empty =>
        subst empty
        exact iff_of_false (by decide) fun fits => fits.whole awaits rfl
      | beyond awaits packet same overread =>
        subst same
        simp only [List.length_cons] at counted
        rw [frameFits_answer_iff awaits, ← inflateFromData_fits_iff (by omega), overread]
        exact iff_of_false (by decide) fun inside => inside rfl
      | answered callback awaits _ packet same code response inflates =>
        subst same
        simp only [List.length_cons] at counted
        rw [frameFits_answer_iff awaits, ← inflateFromData_fits_iff (by omega), inflates]
        exact iff_of_true rfl fun wrong => by cases wrong

theorem succeeds_handleIncommingDataMessageAt_iff (counted : message.length < 2 ^ 32) :
    Succeeds (port.handleIncommingDataMessageAt message) ↔ FrameFits port message := by
  rw [handleIncommingDataMessageAt_eq counted, succeeds_orOutside_iff, frame_fits_iff counted]

end Port

section Widget
variable {label : UInt8} {message : List UInt8}

theorem succeeds_handleParameters (port : WidgetPort) :
    Succeeds (port.handleParameters message) := by
  apply succeeds_ite (fun _ => succeeds_pure port)
  intro _
  apply succeeds_ite (fun _ => succeeds_pure port)
  intro long
  have copied : Succeeds (copy message 0 usbProParametersSize) := succeeds_copy (by omega)
  exact copied.bind fun _ => succeeds_pure _

theorem succeeds_handlePortAssignment (widget : EnttecUsbProWidget) :
    Succeeds (widget.handlePortAssignment message) := by
  unfold EnttecUsbProWidget.handlePortAssignment
  by_cases two : message.length = 2
  · rw [if_pos two]
    apply (succeeds_elementAt (by omega)).bind
    intro port1
    apply (succeeds_elementAt (by omega)).bind
    intro port2
    exact succeeds_pure _
  · rw [if_neg two]
    exact succeeds_pure _

/-- Of the messages of a port, only a received frame is read outside of it. -/
theorem succeeds_handleLabel_iff (counted : message.length < 2 ^ 32) (port : WidgetPort)
    {ops : OperationLabels} (apart : ops.getParams ≠ ops.recvDmx ∧ ops.rdmTimeout ≠ ops.recvDmx) :
    Succeeds (port.handleLabel ops label message) ↔
      (label = ops.recvDmx → FrameFits port.impl message) := by
  unfold WidgetPort.handleLabel
  by_cases received : label = ops.recvDmx
  · subst received
    rw [if_neg apart.1, if_neg apart.2, if_pos rfl, succeeds_map_iff,
      succeeds_handleIncommingDataMessageAt_iff counted]
    exact ⟨fun fits _ => fits, fun fits => fits rfl⟩
  · rw [iff_true_intro (fun same => absurd same received :
      label = ops.recvDmx → FrameFits port.impl message), iff_true]
    apply succeeds_ite (fun _ => succeeds_handleParameters port)
    intro _
    apply succeeds_ite (fun _ => succeeds_pure _)
    intro _
    rw [if_neg (fun same => received same.symm)]
    apply succeeds_ite
    · intro _
      rw [handleDMXDiffAt_eq]
      exact succeeds_pure _
    · intro _
      exact succeeds_pure port

/-- The frames among the messages of the widget are such that the port they are for can take them. -/
structure MessageFits (widget : EnttecUsbProWidget) (label : UInt8) (message : List UInt8) :
    Prop where
  first : label = OperationLabels.port1Operations.recvDmx → FrameFits widget.first.impl message
  second : label = OperationLabels.port2Operations.recvDmx → ∀ port, widget.second = some port →
    FrameFits port.impl message

/-- A message is read inside of its data exactly when it is no frame, or one that its port can
take. -/
theorem succeeds_handleMessage_iff (counted : message.length < 2 ^ 32)
    (widget : EnttecUsbProWidget) :
    Succeeds (widget.handleMessage label message) ↔ MessageFits widget label message := by
  unfold EnttecUsbProWidget.handleMessage
  by_cases assignment : label = portAssignmentLabel
  · subst assignment
    apply iff_of_true (succeeds_handlePortAssignment widget)
    exact ⟨fun same => absurd same (by decide), fun same => absurd same (by decide)⟩
  · have first := @succeeds_handleLabel_iff label message counted widget.first
      OperationLabels.port1Operations (by decide)
    rw [if_neg assignment]
    cases ports : widget.second with
    | none =>
      rw [succeeds_map_iff, first]
      constructor
      · intro fits
        refine ⟨fits, fun _ port present => ?_⟩
        cases ports.symm.trans present
      · intro fits
        exact fits.first
    | some second =>
      dsimp only
      by_cases high : 128 < label
      · rw [if_pos high, succeeds_map_iff, succeeds_handleLabel_iff counted second (by decide)]
        constructor
        · intro fits
          refine ⟨fun same => ?_, fun same port present => ?_⟩
          · subst same
            exact absurd high (by decide)
          · cases ports.symm.trans present
            exact fits same
        · intro fits same
          exact fits.second same second ports
      · rw [if_neg high, succeeds_map_iff, first]
        constructor
        · intro fits
          refine ⟨fits, fun same => ?_⟩
          subst same
          exact absurd (by decide) high
        · intro fits
          exact fits.first

end Widget

end OpenLighting.Enttec
