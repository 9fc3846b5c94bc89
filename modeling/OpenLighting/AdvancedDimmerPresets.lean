import OpenLighting.BoundedReads
import OpenLighting.ResponderHelper

/- The presets of an `AdvancedDimmerResponder`. -/
namespace OpenLighting.Rdm

open BoundedReads

/-- `rdm_preset_programmed_mode`. -/
inductive PresetProgrammed where
  | notProgrammed
  | programmed
  | readOnly
  deriving DecidableEq

def PresetProgrammed.value : PresetProgrammed → UInt8
  | .notProgrammed => 0x00
  | .programmed => 0x01
  | .readOnly => 0x02

structure Preset where
  fadeUpTime : UInt16
  fadeDownTime : UInt16
  waitTime : UInt16
  programmed : PresetProgrammed

/-- `fail_mode_s` and `startup_mode_s`, which are the same. -/
structure SceneMode where
  scene : UInt16
  delay : UInt16
  holdTime : UInt16
  level : UInt8

/-- The members of an `AdvancedDimmerResponder` that its presets are about. -/
structure AdvancedDimmerResponder where
  presets : List Preset
  presetScene : UInt16
  presetLevel : UInt8
  presetMergemode : UInt8
  failMode : SceneMode
  startupMode : SceneMode

def presetPlaybackAll : UInt16 := 0xffff

def mergemodeDmxOnly : UInt8 := 0x03

def minFailDelayTime : UInt16 := 10
def minFailHoldTime : UInt16 := 0
def maxFailDelayTime : UInt16 := 0x00ff
def maxFailHoldTime : UInt16 := 0xff00
def minStartupDelayTime : UInt16 := 0
def minStartupHoldTime : UInt16 := 0
def maxStartupDelayTime : UInt16 := 1200
def maxStartupHoldTime : UInt16 := 36000
def infiniteTime : UInt16 := 0xffff

/-- A time is kept between two bounds unless it is infinite. -/
def boundedTime (least most time : UInt16) : UInt16 :=
  if time = infiniteTime then infiniteTime else max least (min most time)

/-- What `SetFailMode` and `SetStartUpMode` do, with the bounds of each. -/
def setSceneMode (request : Command) (presets : List Preset) (mode : SceneMode)
    (minDelay maxDelay minHold maxHold : UInt16) : SceneMode × Option Command :=
  match request.paramData with
  | [scene1, scene0, delay1, delay0, hold1, hold0, level] =>
    let scene := word (scene1, scene0)
    if presets.length ≤ scene.toNat then (mode, nack request .dataOutOfRange 0)
    else
      (⟨scene, boundedTime minDelay maxDelay (word (delay1, delay0)),
        boundedTime minHold maxHold (word (hold1, hold0)), level⟩, emptySetResponse request 0)
  | _ => (mode, nack request .formatError 0)

/-- What `GetFailMode` and `GetStartUpMode` do. -/
def getSceneMode (request : Command) (mode : SceneMode) : Option Command :=
  getData request (wordBytes mode.scene ++ wordBytes mode.delay ++ wordBytes mode.holdTime ++
    [mode.level]) 0

namespace AdvancedDimmerResponder

variable (responder : AdvancedDimmerResponder) (request : Command)

def setCapturePreset : Except Fault (AdvancedDimmerResponder × Option Command) :=
  match request.paramData with
  | [scene1, scene0, up1, up0, down1, down0, wait1, wait0] =>
    let scene := word (scene1, scene0)
    if scene = 0 ∨ responder.presets.length ≤ scene.toNat then
      .ok (responder, nack request .dataOutOfRange 0)
    else do
      let preset ← elementAt responder.presets (scene.toNat - 1)
      if preset.programmed = .readOnly then .ok (responder, nack request .writeProtect 0)
      else
        let preset : Preset :=
          ⟨word (up1, up0), word (down1, down0), word (wait1, wait0), .programmed⟩
        .ok ({ responder with presets := responder.presets.set (scene.toNat - 1) preset },
          emptySetResponse request 0)
  | _ => .ok (responder, nack request .formatError 0)

def getPresetPlayback : Option Command :=
  getData request (wordBytes responder.presetScene ++ [responder.presetLevel]) 0

def setPresetPlayback : AdvancedDimmerResponder × Option Command :=
  match request.paramData with
  | [mode1, mode0, level] =>
    let mode := word (mode1, mode0)
    if responder.presets.length ≤ mode.toNat ∧ mode ≠ presetPlaybackAll then
      (responder, nack request .dataOutOfRange 0)
    else
      ({ responder with presetScene := mode, presetLevel := level }, emptySetResponse request 0)
  | _ => (responder, nack request .formatError 0)

def getPresetStatus : Except Fault (Option Command) :=
  match extractUInt16 request with
  | none => .ok (nack request .formatError 0)
  | some scene =>
    if scene = 0 ∨ responder.presets.length < scene.toNat then
      .ok (nack request .dataOutOfRange 0)
    else do
      let preset ← elementAt responder.presets (scene.toNat - 1)
      .ok (getResponseFromData request (wordBytes scene ++ wordBytes preset.fadeUpTime ++
        wordBytes preset.fadeDownTime ++ wordBytes preset.waitTime ++ [preset.programmed.value])
        rdmAck 0)

def setPresetStatus : Except Fault (AdvancedDimmerResponder × Option Command) :=
  match request.paramData with
  | [scene1, scene0, up1, up0, down1, down0, wait1, wait0, programmed] =>
    let scene := word (scene1, scene0)
    if scene = 0 ∨ responder.presets.length < scene.toNat then
      .ok (responder, nack request .dataOutOfRange 0)
    else do
      let preset ← elementAt responder.presets (scene.toNat - 1)
      if preset.programmed = .readOnly then .ok (responder, nack request .writeProtect 0)
      else if 1 < programmed then .ok (responder, nack request .dataOutOfRange 0)
      else
        let preset : Preset :=
          if programmed = 1 then ⟨0, 0, 0, .notProgrammed⟩
          else ⟨word (up1, up0), word (down1, down0), word (wait1, wait0), .programmed⟩
        .ok ({ responder with presets := responder.presets.set (scene.toNat - 1) preset },
          emptySetResponse request 0)
  | _ => .ok (responder, nack request .formatError 0)

/-- `GetPresetInfo`. The number of presets is cut to 16 bits. -/
def getPresetInfo : Option Command :=
  getData request
    ([1, 1, 1, 1, 1, 1] ++ wordBytes (UInt16.ofNat responder.presets.length) ++
      wordBytes 0 ++ wordBytes 0xfffe ++ wordBytes 0 ++ wordBytes 0xfffe ++
      wordBytes minFailDelayTime ++ wordBytes maxFailDelayTime ++
      wordBytes minFailHoldTime ++ wordBytes maxFailHoldTime ++
      wordBytes minStartupDelayTime ++ wordBytes maxStartupDelayTime ++
      wordBytes minStartupHoldTime ++ wordBytes maxStartupHoldTime) 0

def getPresetMergeMode : Option Command :=
  getData request [responder.presetMergemode] 0

def setPresetMergeMode : AdvancedDimmerResponder × Option Command :=
  match extractUInt8 request with
  | none => (responder, nack request .formatError 0)
  | some arg =>
    if mergemodeDmxOnly < arg then (responder, nack request .dataOutOfRange 0)
    else ({ responder with presetMergemode := arg }, emptySetResponse request 0)

def getFailMode : Option Command :=
  getSceneMode request responder.failMode

def setFailMode : AdvancedDimmerResponder × Option Command :=
  let (mode, response) := setSceneMode request responder.presets responder.failMode
    minFailDelayTime maxFailDelayTime minFailHoldTime maxFailHoldTime
  ({ responder with failMode := mode }, response)

def getStartUpMode : Option Command :=
  getSceneMode request responder.startupMode

def setStartUpMode : AdvancedDimmerResponder × Option Command :=
  let (mode, response) := setSceneMode request responder.presets responder.startupMode
    minStartupDelayTime maxStartupDelayTime minStartupHoldTime maxStartupHoldTime
  ({ responder with startupMode := mode }, response)

end AdvancedDimmerResponder

inductive PresetHandler where
  | setCapturePreset
  | getPresetPlayback
  | setPresetPlayback
  | getPresetStatus
  | setPresetStatus
  | getPresetInfo
  | getPresetMergeMode
  | setPresetMergeMode
  | getFailMode
  | setFailMode
  | getStartUpMode
  | setStartUpMode

def PresetHandler.handle (responder : AdvancedDimmerResponder) (request : Command) :
    PresetHandler → Except Fault (AdvancedDimmerResponder × Option Command)
  | .setCapturePreset => responder.setCapturePreset request
  | .getPresetPlayback => .ok (responder, responder.getPresetPlayback request)
  | .setPresetPlayback => .ok (responder.setPresetPlayback request)
  | .getPresetStatus => (responder, ·) <$> responder.getPresetStatus request
  | .setPresetStatus => responder.setPresetStatus request
  | .getPresetInfo => .ok (responder, responder.getPresetInfo request)
  | .getPresetMergeMode => .ok (responder, responder.getPresetMergeMode request)
  | .setPresetMergeMode => .ok (responder.setPresetMergeMode request)
  | .getFailMode => .ok (responder, responder.getFailMode request)
  | .setFailMode => .ok (responder.setFailMode request)
  | .getStartUpMode => .ok (responder, responder.getStartUpMode request)
  | .setStartUpMode => .ok (responder.setStartUpMode request)

def PresetHandler.answer (responder : AdvancedDimmerResponder) (request : Command)
    (handler : PresetHandler) : Option Command :=
  match handler.handle responder request with
  | .ok result => result.2
  | .error _ => none

def Nacked (response : Option Command) : Prop :=
  ∃ command, response = some command ∧ command.portId = nackReasonType

section Handlers
variable {responder : AdvancedDimmerResponder} {request : Command}

/-- A handler that sets presets refuses the request, or it sets some. -/
def SetsPresets (responder : AdvancedDimmerResponder) (request : Command)
    (run : Except Fault (AdvancedDimmerResponder × Option Command)) : Prop :=
  (∃ reason, run = .ok (responder, nack request reason 0)) ∨
    ∃ presets, run = .ok ({ responder with presets := presets }, emptySetResponse request 0)

theorem setCapturePreset_sets (responder : AdvancedDimmerResponder) (request : Command) :
    SetsPresets responder request (responder.setCapturePreset request) := by
  unfold AdvancedDimmerResponder.setCapturePreset
  split
  · dsimp only
    split
    · exact .inl ⟨.dataOutOfRange, rfl⟩
    · rename_i inside
      rw [elementAt_inside (by omega), ok_bind]
      split
      · exact .inl ⟨.writeProtect, rfl⟩
      · exact .inr ⟨_, rfl⟩
  · exact .inl ⟨.formatError, rfl⟩

theorem setPresetStatus_sets (responder : AdvancedDimmerResponder) (request : Command) :
    SetsPresets responder request (responder.setPresetStatus request) := by
  unfold AdvancedDimmerResponder.setPresetStatus
  split
  · rename_i scene1 scene0 up1 up0 down1 down0 wait1 wait0 programmed _
    dsimp only
    split
    · exact .inl ⟨.dataOutOfRange, rfl⟩
    · rename_i inside
      rw [not_or] at inside
      have positive : (word (scene1, scene0)).toNat ≠ 0 :=
        fun zero => inside.1 (UInt16.toNat_inj.mp zero)
      rw [elementAt_inside (by omega), ok_bind]
      split
      · exact .inl ⟨.writeProtect, rfl⟩
      · split
        · exact .inl ⟨.dataOutOfRange, rfl⟩
        · exact .inr ⟨_, rfl⟩
  · exact .inl ⟨.formatError, rfl⟩

variable {run : Except Fault (AdvancedDimmerResponder × Option Command)}

/-- A handler that sets presets stays inside of them. -/
theorem SetsPresets.succeeds (sets : SetsPresets responder request run) : Succeeds run := by
  rcases sets with ⟨reason, done⟩ | ⟨presets, done⟩
  · exact ⟨_, done⟩
  · exact ⟨_, done⟩

theorem not_nacked_emptySet (request : Command) (count : UInt8) :
    ¬ Nacked (emptySetResponse request count) := by
  rintro ⟨command, same, type⟩
  cases same
  have other : rdmAck ≠ nackReasonType := by decide
  exact other type

variable {result : AdvancedDimmerResponder × Option Command}

theorem SetsPresets.refused (sets : SetsPresets responder request run) (ends : run = .ok result)
    (nacked : Nacked result.2) : result.1 = responder := by
  rcases sets with ⟨reason, done⟩ | ⟨presets, done⟩
  · rw [done] at ends
    cases ends
    rfl
  · rw [done] at ends
    cases ends
    exact absurd nacked (not_nacked_emptySet request 0)

section Arguments
variable {scene : UInt16} {rest : List UInt8}

theorem toNat_eq_zero {value : UInt16} : value = 0 ↔ value.toNat = 0 := UInt16.toNat_inj.symm

end Arguments

theorem getPresetStatus_succeeds (responder : AdvancedDimmerResponder) (request : Command) :
    Succeeds (responder.getPresetStatus request) := by
  unfold AdvancedDimmerResponder.getPresetStatus
  cases extractUInt16 request with
  | none => exact ⟨_, rfl⟩
  | some scene =>
    dsimp only
    by_cases outside : scene = 0 ∨ responder.presets.length < scene.toNat
    · rw [if_pos outside]
      exact ⟨_, rfl⟩
    · rw [if_neg outside]
      rw [toNat_eq_zero] at outside
      rw [elementAt_inside (by omega), ok_bind]
      exact ⟨_, rfl⟩

theorem setSceneMode_refused {presets : List Preset} {mode : SceneMode}
    {minDelay maxDelay minHold maxHold : UInt16}
    (nacked : Nacked (setSceneMode request presets mode minDelay maxDelay minHold maxHold).2) :
    (setSceneMode request presets mode minDelay maxDelay minHold maxHold).1 = mode := by
  unfold setSceneMode at nacked ⊢
  split at nacked
  · dsimp only at nacked ⊢
    split at nacked
    · rw [if_pos ‹_›]
    · exact absurd nacked (not_nacked_emptySet request 0)
  · rfl

/-- No handler reads outside of the list. -/
theorem PresetHandler.succeeds (handler : PresetHandler) (responder : AdvancedDimmerResponder)
    (request : Command) : Succeeds (handler.handle responder request) := by
  cases handler with
  | setCapturePreset => exact (setCapturePreset_sets responder request).succeeds
  | setPresetStatus => exact (setPresetStatus_sets responder request).succeeds
  | getPresetStatus => exact (getPresetStatus_succeeds responder request).map _
  | _ => exact ⟨_, rfl⟩

/-- What is refused changes nothing. -/
theorem PresetHandler.refused {handler : PresetHandler}
    (handled : handler.handle responder request = .ok result) (nacked : Nacked result.2) :
    result.1 = responder := by
  cases handler with
  | setCapturePreset => exact (setCapturePreset_sets responder request).refused handled nacked
  | setPresetStatus => exact (setPresetStatus_sets responder request).refused handled nacked
  | getPresetStatus =>
    obtain ⟨response, done⟩ := getPresetStatus_succeeds responder request
    rw [PresetHandler.handle, done] at handled
    cases handled
    rfl
  | setPresetPlayback =>
    cases handled
    unfold AdvancedDimmerResponder.setPresetPlayback at nacked ⊢
    split at nacked
    · dsimp only at nacked ⊢
      split at nacked
      · rw [if_pos ‹_›]
      · exact absurd nacked (not_nacked_emptySet request 0)
    · rfl
  | setPresetMergeMode =>
    cases handled
    unfold AdvancedDimmerResponder.setPresetMergeMode at nacked ⊢
    split at nacked
    · rfl
    · split at nacked
      · rw [if_pos ‹_›]
      · exact absurd nacked (not_nacked_emptySet request 0)
  | setFailMode =>
    cases handled
    exact congrArg (fun mode => { responder with failMode := mode }) (setSceneMode_refused nacked)
  | setStartUpMode =>
    cases handled
    exact congrArg (fun mode => { responder with startupMode := mode })
      (setSceneMode_refused nacked)
  | getPresetPlayback | getPresetInfo | getPresetMergeMode | getFailMode | getStartUpMode =>
    cases handled
    rfl

/-- The state of a new responder: six presets, of which the first is read only. -/
def AdvancedDimmerResponder.new : AdvancedDimmerResponder where
  presets := ⟨0, 0, 0, .readOnly⟩ :: List.replicate 5 ⟨0, 0, 0, .notProgrammed⟩
  presetScene := 0
  presetLevel := 0
  presetMergemode := 0
  failMode := ⟨0, minFailDelayTime, minFailHoldTime, 0⟩
  startupMode := ⟨0, minStartupDelayTime, minStartupHoldTime, 255⟩

end Handlers

end OpenLighting.Rdm
