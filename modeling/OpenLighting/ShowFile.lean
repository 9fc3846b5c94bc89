import OpenLighting.DmxBufferText
import OpenLighting.TimeArithmetic

/- Shows, from the frames that `ShowSaver` writes to the frames that `ShowPlayer` sends. -/
namespace OpenLighting.Show

open OpenLighting.StringUtils OpenLighting.DmxMemory

def newline : UInt8 := 10
def space : UInt8 := 32

/-- `OLA Show`. -/
def olaShowHeader : List UInt8 := [79, 76, 65, 32, 83, 104, 111, 119]

/-- An `int64_t` as a stream writes it. -/
def int64ToString (number : Int) : List UInt8 :=
  if number < 0 then 45 :: intToString number.natAbs else intToString number.natAbs

/-- `TimeInterval::InMilliSeconds`. -/
def inMilliSeconds (time : TimeVal) : Int :=
  toInt64 (toInt64 (time.sec * 1000) + time.usec.tdiv 1000)

/-- `ToString` of a buffer. -/
def dmxToString (data : DmxBuffer) : List UInt8 := slotsText 0 data.slots

structure ShowSaver where
  showFile : List UInt8
  lastFrame : TimeVal

def ShowSaver.opened : ShowSaver := ⟨olaShowHeader ++ [newline], .clear⟩

/-- What `NewFrame` is called with. -/
structure Frame where
  arrivalTime : TimeVal
  universeId : UInt32
  data : DmxBuffer

def Frame.line (frame : Frame) : List UInt8 :=
  intToString frame.universeId.toNat ++ [space] ++ dmxToString frame.data

def ShowSaver.newFrame (saver : ShowSaver) (frame : Frame) : ShowSaver :=
  let delay :=
    if saver.lastFrame.isSet then
      int64ToString (inMilliSeconds (frame.arrivalTime.minus saver.lastFrame)) ++ [newline]
    else []
  ⟨saver.showFile ++ (delay ++ (frame.line ++ [newline])), frame.arrivalTime⟩

/-- The strict `StringToInt`. The text ends at its first NUL. -/
def stringToIntStrict (input : List UInt8) : Option Nat :=
  match (strtol input).rest with
  | [] => stringToInt input
  | byte :: _ => if byte ≠ 0 then none else stringToInt input

/-- The file, and what is still to be read of it. -/
structure ShowLoader where
  showFile : List UInt8
  ahead : List UInt8

/-- `getline`, which returns nothing at the end of the file. -/
def ShowLoader.readLine (loader : ShowLoader) : List UInt8 × ShowLoader :=
  (loader.ahead.takeWhile (· != newline),
    { loader with ahead := (loader.ahead.dropWhile (· != newline)).drop 1 })

inductive Outcome (α : Type) where
  | ok (value : α)
  | invalidLine
  | endOfFile

def ShowLoader.load (showFile : List UInt8) : Option ShowLoader :=
  let (line, loader) := ShowLoader.readLine ⟨showFile, showFile⟩
  if line ≠ olaShowHeader then none else some loader

def ShowLoader.reset (loader : ShowLoader) : ShowLoader :=
  (ShowLoader.readLine { loader with ahead := loader.showFile }).2

def ShowLoader.nextTimeout (loader : ShowLoader) : ShowLoader × Outcome Nat :=
  let (line, loader) := loader.readLine
  if line.isEmpty then (loader, .endOfFile)
  else
    match stringToIntStrict line with
    | none => (loader, .invalidLine)
    | some timeout => (loader, .ok timeout)

def ShowLoader.nextFrame (loader : ShowLoader) : ShowLoader × Outcome (Nat × DmxBuffer) :=
  let (line, loader) := loader.readLine
  if line.isEmpty then (loader, .endOfFile)
  else
    match stringSplit line [space] with
    | [first, second] =>
      match stringToIntStrict first with
      | none => (loader, .invalidLine)
      | some universeId =>
        let (data, succeeds) := DmxBuffer.new.setFromString second
        (loader, if succeeds then .ok (universeId, data) else .invalidLine)
    | _ => (loader, .invalidLine)

inductive PlayerEvent where
  | sendDmx (universeId : Nat) (data : DmxBuffer)
  | timeout (milliseconds : Nat)
  | terminate

/-- A `ShowPlayer`; `waiting` says whether a timeout is registered for `SendNextFrame`. -/
structure ShowPlayer where
  loader : ShowLoader
  infiniteLoop : Bool
  iterationRemaining : UInt32
  loopDelay : UInt32
  events : List PlayerEvent
  waiting : Bool

namespace ShowPlayer

def handleEndOfFile (player : ShowPlayer) : ShowPlayer :=
  let player := { player with iterationRemaining := player.iterationRemaining - 1 }
  if player.infiniteLoop ∨ 0 < player.iterationRemaining then
    { player with
      loader := player.loader.reset
      events := player.events ++ [.timeout player.loopDelay.toNat]
      waiting := true }
  else { player with events := player.events ++ [.terminate] }

def registerNextTimeout (player : ShowPlayer) : ShowPlayer × Outcome Nat :=
  match player.loader.nextTimeout with
  | (loader, .ok timeout) =>
    ({ player with
      loader := loader
      events := player.events ++ [.timeout timeout]
      waiting := true }, .ok timeout)
  | (loader, state) => ({ player with loader := loader }, state)

def sendNextFrame (player : ShowPlayer) : ShowPlayer :=
  match player.loader.nextFrame with
  | (loader, .endOfFile) => { player with loader := loader }.handleEndOfFile
  | (loader, .invalidLine) =>
    { player with loader := loader, events := player.events ++ [.terminate] }
  | (loader, .ok (universeId, data)) =>
    let (player, state) := { player with loader := loader }.registerNextTimeout
    let player := { player with events := player.events ++ [.sendDmx universeId data] }
    match state with
    | .endOfFile => player.handleEndOfFile
    | .invalidLine => { player with events := player.events ++ [.terminate] }
    | .ok _ => player

/-- `Init` and `Playback`, up to the first call of `SendNextFrame`. -/
def playback (showFile : List UInt8) (iterations delay : UInt32) : Option ShowPlayer :=
  (ShowLoader.load showFile).map fun loader =>
    ⟨loader, iterations == 0, iterations, delay, [], true⟩

/-- `SendNextFrame` is called, at first and whenever the timeout is over. -/
def step (player : ShowPlayer) : ShowPlayer :=
  if player.waiting then { player with waiting := false }.sendNextFrame else player

end ShowPlayer

theorem ShowLoader.readLine_line {line : List UInt8} (whole : newline ∉ line)
    (showFile rest : List UInt8) :
    ShowLoader.readLine ⟨showFile, line ++ newline :: rest⟩ = (line, ⟨showFile, rest⟩) := by
  have inside : ∀ byte ∈ line, (byte != newline) = true := by
    intro byte member
    rw [bne_iff_ne]
    rintro rfl
    exact whole member
  unfold ShowLoader.readLine
  rw [List.takeWhile_append_of_pos inside, List.dropWhile_append_of_pos inside]
  simp

theorem ShowLoader.readLine_nil (showFile : List UInt8) :
    ShowLoader.readLine ⟨showFile, []⟩ = ([], ⟨showFile, []⟩) := rfl

theorem stringToIntStrict_intToString {number : Nat} (small : number < 2 ^ 32) :
    stringToIntStrict (intToString number) = some number := by
  have value : clampLong number = number := by
    unfold clampLong minLong maxLong
    omega
  have noError : ¬ maxLong < (number : Int) := by
    unfold maxLong
    omega
  unfold stringToIntStrict stringToInt
  simp only [strtol_intToString, value]
  rw [if_neg (by simpa using intToString_ne_nil number), if_neg (by simp [noError]),
    if_neg (intToString_ne_nil number), if_neg (by omega), Int.toNat_natCast]

/-- Digits are neither a separator nor the end of a line. -/
theorem apart_of_isDigit {byte : UInt8} (digit : isDigit byte = true) :
    byte ≠ newline ∧ byte ≠ space := by
  constructor <;> (rintro rfl; exact absurd digit (by decide))

theorem apart_intToString (number : Nat) :
    newline ∉ intToString number ∧ space ∉ intToString number :=
  ⟨fun member => (apart_of_isDigit (isDigit_intToString number _ member)).1 rfl,
    fun member => (apart_of_isDigit (isDigit_intToString number _ member)).2 rfl⟩

theorem apart_slotsText (i : Nat) (slots : List UInt8) :
    newline ∉ slotsText i slots ∧ space ∉ slotsText i slots := by
  induction slots generalizing i with
  | nil => exact ⟨nofun, nofun⟩
  | cons slot rest ih =>
    have number := apart_intToString slot.toNat
    have others := ih (i + 1)
    rw [slotsText]
    unfold newline space at *
    split <;> simp [number, others]

theorem stringSplit_space {first second : List UInt8} (before : space ∉ first)
    (behind : space ∉ second) :
    stringSplit (first ++ space :: second) [space] = [first, second] := by
  have apart {text : List UInt8} (absent : space ∉ text) :
      ∀ byte ∈ text, [space].contains byte = false := by
    intro byte member
    simp only [List.contains_cons, List.contains_nil, Bool.or_false, beq_eq_false_iff_ne]
    rintro rfl
    exact absent member
  rw [stringSplit, List.splitOnP_append_cons_of_forall_mem (apart before) space rfl,
    List.splitOnP_eq_singleton (apart behind)]

/-- The buffer that is read back: one without memory gets some. -/
def Frame.read (frame : Frame) : DmxBuffer := .holding frame.data.slots

theorem Frame.newline_notMem_line (frame : Frame) : newline ∉ frame.line := by
  have number := (apart_intToString frame.universeId.toNat).1
  have slots := (apart_slotsText 0 frame.data.slots).1
  unfold Frame.line dmxToString newline space at *
  simp [number, slots]

theorem nextFrame_line (frame : Frame) (showFile rest : List UInt8) :
    ShowLoader.nextFrame ⟨showFile, frame.line ++ newline :: rest⟩ =
      (⟨showFile, rest⟩, .ok (frame.universeId.toNat, frame.read)) := by
  have filled : frame.line.isEmpty = false := by
    rw [Frame.line, List.isEmpty_eq_false_iff]
    simp
  have split : stringSplit frame.line [space] =
      [intToString frame.universeId.toNat, dmxToString frame.data] := by
    rw [Frame.line, List.append_assoc, List.singleton_append]
    exact stringSplit_space (apart_intToString _).2 (apart_slotsText 0 _).2
  have data : DmxBuffer.new.setFromString (dmxToString frame.data) = (frame.read, true) := by
    apply Prod.ext
    · exact setFromString_slotsText _ frame.data.slots
    · unfold DmxBuffer.setFromString
      split <;> rfl
  unfold ShowLoader.nextFrame
  simp only [ShowLoader.readLine_line frame.newline_notMem_line, filled, Bool.false_eq_true,
    if_false, split, stringToIntStrict_intToString frame.universeId.toNat_lt, data, if_true]

theorem nextTimeout_line {delay : Nat} (small : delay < 2 ^ 32) (showFile rest : List UInt8) :
    ShowLoader.nextTimeout ⟨showFile, intToString delay ++ newline :: rest⟩ =
      (⟨showFile, rest⟩, .ok delay) := by
  have filled : (intToString delay).isEmpty = false := by
    simpa using intToString_ne_nil delay
  unfold ShowLoader.nextTimeout
  simp only [ShowLoader.readLine_line (apart_intToString delay).1, filled, Bool.false_eq_true,
    if_false, stringToIntStrict_intToString small]

/-- The milliseconds from one frame to the next. -/
def delay (frame next : Frame) : Nat :=
  ((next.arrivalTime.microseconds - frame.arrivalTime.microseconds) / 1000).toNat

/-- The clock was read for both frames, it was set and did not go back, and the player can wait
for so long. -/
structure Follows (frame next : Frame) : Prop where
  set : frame.arrivalTime.isSet = true
  built : frame.arrivalTime.Built
  built' : next.arrivalTime.Built
  normalised : frame.arrivalTime.Normalised ∧ next.arrivalTime.Normalised
  later : frame.arrivalTime.microseconds ≤ next.arrivalTime.microseconds
  soon : delay frame next < 2 ^ 32

theorem Follows.inMilliSeconds {frame next : Frame} (follows : Follows frame next) :
    inMilliSeconds (next.arrivalTime.minus frame.arrivalTime) = delay frame next := by
  have spec := sub_spec follows.built' follows.built
  have ordered := follows.later
  have soon := follows.soon
  have normal := spec.2.mpr (by
    have := follows.normalised
    unfold TimeVal.Normalised usecInSeconds at *
    omega)
  rw [minus_eq_sub follows.built' follows.built]
  have whole := spec.1
  unfold Show.inMilliSeconds
  unfold delay at soon ⊢
  rw [← whole] at soon ⊢
  have forward : 0 ≤ (next.arrivalTime.sub frame.arrivalTime).microseconds := by omega
  clear spec whole ordered
  generalize next.arrivalTime.sub frame.arrivalTime = interval at *
  unfold TimeVal.microseconds usecInSeconds at *
  unfold TimeVal.Normalised usecInSeconds at normal
  have seconds : FitsInt64 (interval.sec * 1000) := by
    unfold FitsInt64
    omega
  rw [Int.tdiv_eq_ediv_of_nonneg normal.1, toInt64_of_fits seconds, toInt64_of_fits]
  · omega
  · unfold FitsInt64
    omega

/-- What is in the file behind a frame once the rest of the recording is written. -/
def tail (frame : Frame) : List Frame → List UInt8
  | [] => []
  | next :: rest =>
    intToString (delay frame next) ++ newline :: (next.line ++ newline :: tail next rest)

/-- The frames of a recording, each of which follows the one before. -/
def Recorded (first : Frame) (rest : List Frame) : Prop := (first :: rest).IsChain Follows

/-- The file of a recording. -/
def recording (frames : List Frame) : List UInt8 :=
  (frames.foldl ShowSaver.newFrame ShowSaver.opened).showFile

theorem newFrame_follows {frame next : Frame} (follows : Follows frame next)
    (written : List UInt8) :
    ShowSaver.newFrame ⟨written, frame.arrivalTime⟩ next =
      ⟨written ++ (intToString (delay frame next) ++ newline :: (next.line ++ [newline])),
        next.arrivalTime⟩ := by
  have time := follows.inMilliSeconds
  unfold ShowSaver.newFrame
  simp only [follows.set, if_true, time]
  unfold int64ToString
  rw [if_neg (by omega)]
  simp

theorem foldl_newFrame {frame : Frame} {rest : List Frame} (recorded : Recorded frame rest)
    (written : List UInt8) :
    (rest.foldl ShowSaver.newFrame ⟨written, frame.arrivalTime⟩).showFile =
      written ++ tail frame rest := by
  induction rest generalizing frame written with
  | nil => simp [tail]
  | cons next rest ih =>
    rw [Recorded, List.isChain_cons_cons] at recorded
    rw [List.foldl_cons, newFrame_follows recorded.1, ih recorded.2, tail]
    simp

theorem recording_cons {first : Frame} {rest : List Frame} (recorded : Recorded first rest) :
    recording (first :: rest) =
      olaShowHeader ++ newline :: (first.line ++ newline :: tail first rest) := by
  have unset : TimeVal.clear.isSet = false := by decide
  have start : ShowSaver.opened.newFrame first =
      ⟨olaShowHeader ++ newline :: (first.line ++ [newline]), first.arrivalTime⟩ := by
    unfold ShowSaver.newFrame
    simp [ShowSaver.opened, unset]
  unfold recording
  rw [List.foldl_cons, start, foldl_newFrame recorded]
  simp

/-- What the player does for a pass over the recording. -/
def pass (frame : Frame) : List Frame → List PlayerEvent
  | [] => [.sendDmx frame.universeId.toNat frame.read]
  | next :: rest =>
    .timeout (delay frame next) :: .sendDmx frame.universeId.toNat frame.read :: pass next rest

/-- What is done in a number of passes that are not the last. -/
def passes (first : Frame) (rest : List Frame) (loopDelay : UInt32) (k : Nat) : List PlayerEvent :=
  (List.replicate k (pass first rest ++ [.timeout loopDelay.toNat])).flatten

namespace ShowPlayer

theorem step_next {player : ShowPlayer} {frame next : Frame} {rest : List Frame}
    (follows : Follows frame next) (waits : player.waiting = true)
    (ahead : player.loader.ahead = frame.line ++ newline :: tail frame (next :: rest)) :
    player.step = { player with
      loader := ⟨player.loader.showFile, next.line ++ newline :: tail next rest⟩
      events := player.events ++
        [.timeout (delay frame next), .sendDmx frame.universeId.toNat frame.read] } := by
  obtain ⟨⟨showFile, _⟩, infinite, remaining, loopDelay, events, _⟩ := player
  dsimp only at waits ahead
  subst waits ahead
  unfold step
  rw [if_pos rfl]
  unfold sendNextFrame
  simp only [nextFrame_line]
  unfold registerNextTimeout
  simp only [tail, nextTimeout_line follows.soon]
  simp

theorem step_last {player : ShowPlayer} {frame : Frame} (waits : player.waiting = true)
    (ahead : player.loader.ahead = frame.line ++ newline :: tail frame []) :
    player.step =
      { player with
        loader := ⟨player.loader.showFile, []⟩
        events := player.events ++ [PlayerEvent.sendDmx frame.universeId.toNat frame.read]
        waiting := false }.handleEndOfFile := by
  obtain ⟨⟨showFile, _⟩, infinite, remaining, loopDelay, events, _⟩ := player
  dsimp only at waits ahead
  subst waits ahead
  unfold step
  rw [if_pos rfl]
  unfold sendNextFrame
  simp only [nextFrame_line]
  rfl

theorem steps_pass {player : ShowPlayer} {frame : Frame} {rest : List Frame}
    (recorded : Recorded frame rest) (waits : player.waiting = true)
    (ahead : player.loader.ahead = frame.line ++ newline :: tail frame rest) :
    step^[rest.length + 1] player =
      { player with
        loader := ⟨player.loader.showFile, []⟩
        events := player.events ++ pass frame rest
        waiting := false }.handleEndOfFile := by
  induction rest generalizing player frame with
  | nil => exact step_last waits ahead
  | cons next rest ih =>
    rw [Recorded, List.isChain_cons_cons] at recorded
    rw [List.length_cons, Function.iterate_succ_apply, step_next recorded.1 waits ahead]
    refine (ih recorded.2 ?_ rfl).trans ?_
    · exact waits
    · simp [pass]

section
variable (first : Frame) (rest : List Frame) (iterations loopDelay : UInt32)

/-- The player before a pass. -/
def beforePass (k : Nat) : ShowPlayer :=
  ⟨⟨recording (first :: rest), first.line ++ newline :: tail first rest⟩, iterations == 0,
    iterations - UInt32.ofNat k, loopDelay, passes first rest loopDelay k, true⟩

/-- The player after the last pass. -/
def afterLast : ShowPlayer :=
  ⟨⟨recording (first :: rest), []⟩, false, 0, loopDelay,
    passes first rest loopDelay (iterations.toNat - 1) ++ pass first rest ++ [.terminate], false⟩

variable {first rest iterations loopDelay} (recorded : Recorded first rest)
include recorded

theorem readLine_recording : ShowLoader.readLine
    ⟨recording (first :: rest), recording (first :: rest)⟩ =
      (olaShowHeader, ⟨recording (first :: rest), first.line ++ newline :: tail first rest⟩) := by
  have whole := recording_cons recorded
  generalize recording (first :: rest) = file at *
  rw [whole]
  exact ShowLoader.readLine_line (by decide) _ _

theorem playback_recording : playback (recording (first :: rest)) iterations loopDelay =
    some (beforePass first rest iterations loopDelay 0) := by
  unfold playback ShowLoader.load
  rw [readLine_recording recorded]
  simp [beforePass, passes]

theorem steps_again {k : Nat} (again : iterations = 0 ∨ k + 1 < iterations.toNat) :
    step^[rest.length + 1] (beforePass first rest iterations loopDelay k) =
      beforePass first rest iterations loopDelay (k + 1) := by
  have remaining : iterations - UInt32.ofNat k - 1 = iterations - UInt32.ofNat (k + 1) := by
    rw [UInt32.ofNat_add]
    grind
  rw [steps_pass recorded rfl rfl]
  unfold handleEndOfFile beforePass ShowLoader.reset
  dsimp only
  rw [if_pos, readLine_recording recorded, remaining]
  · simp [passes, List.replicate_succ']
  · rw [remaining]
    obtain rfl | more := again
    · exact .inl rfl
    · right
      have bound := iterations.toNat_lt
      rw [UInt32.lt_iff_toNat_lt, UInt32.toNat_sub, UInt32.toNat_ofNat']
      simp only [UInt32.toNat_zero]
      omega

theorem steps_end {k : Nat} (last : k + 1 = iterations.toNat) :
    step^[rest.length + 1] (beforePass first rest iterations loopDelay k) =
      afterLast first rest iterations loopDelay := by
  have remaining : iterations - UInt32.ofNat k - 1 = 0 := by
    have whole : UInt32.ofNat (k + 1) = iterations := by
      rw [last, UInt32.ofNat_toNat]
    rw [UInt32.ofNat_add] at whole
    grind
  have finite : (iterations == 0) = false := by
    rw [beq_eq_false_iff_ne]
    rintro rfl
    simp at last
  rw [steps_pass recorded rfl rfl]
  unfold handleEndOfFile beforePass afterLast
  dsimp only
  rw [remaining, finite, if_neg (by simp), ← last, Nat.add_sub_cancel]

end

theorem step_ended {player : ShowPlayer} (ended : player.waiting = false) (calls : Nat) :
    step^[calls] player = player := by
  apply Function.iterate_fixed
  unfold step
  rw [ended]
  rfl

end ShowPlayer

/-- A recording is played as often as it was asked for, or for ever: every frame as it was
recorded, at the times from one frame to the next, and then the player ends. -/
theorem recording_played {first : Frame} {rest : List Frame} (recorded : Recorded first rest)
    (iterations loopDelay : UInt32) :
    ∃ player, ShowPlayer.playback (recording (first :: rest)) iterations loopDelay = some player ∧
      (∀ k, iterations = 0 ∨ k < iterations.toNat →
        let player := ShowPlayer.step^[(rest.length + 1) * k] player
        player.events = passes first rest loopDelay k ∧ player.waiting = true) ∧
      (iterations ≠ 0 → ∀ calls, (rest.length + 1) * iterations.toNat ≤ calls →
        let player := ShowPlayer.step^[calls] player
        player.events = passes first rest loopDelay (iterations.toNat - 1) ++ pass first rest ++
          [.terminate] ∧ player.waiting = false) := by
  have before (k : Nat) (inside : iterations = 0 ∨ k < iterations.toNat) :
      ShowPlayer.step^[(rest.length + 1) * k] (.beforePass first rest iterations loopDelay 0) =
        .beforePass first rest iterations loopDelay k := by
    induction k with
    | zero => rfl
    | succ k ih =>
      rw [Nat.mul_succ, Nat.add_comm, Function.iterate_add_apply,
        ih (inside.imp_right (by omega)), ShowPlayer.steps_again recorded inside]
  refine ⟨_, ShowPlayer.playback_recording recorded, fun k inside => ?_,
    fun finite calls enough => ?_⟩
  · rw [before k inside]
    exact ⟨rfl, rfl⟩
  · have positive : 0 < iterations.toNat := by
      rw [Nat.pos_iff_ne_zero]
      exact fun none => finite (UInt32.toNat_inj.mp none)
    have whole : iterations.toNat - 1 + 1 = iterations.toNat := Nat.sub_add_cancel positive
    have split : calls = calls - (rest.length + 1) * iterations.toNat +
        ((rest.length + 1) + (rest.length + 1) * (iterations.toNat - 1)) := by
      rw [Nat.add_comm (rest.length + 1), ← Nat.mul_succ, Nat.succ_eq_add_one, whole]
      omega
    rw [split, Function.iterate_add_apply, Function.iterate_add_apply,
      before _ (.inr (by omega)), ShowPlayer.steps_end recorded whole,
      ShowPlayer.step_ended rfl]
    exact ⟨rfl, rfl⟩

/-- Two universes, half a second apart. -/
def lightsUp : Frame := ⟨⟨1500000000, 250000⟩, 1, .holding [255, 0, 128]⟩
def lightsDown : Frame := ⟨⟨1500000000, 750999⟩, 2, .holding []⟩

theorem lights_recorded : Recorded lightsUp [lightsDown] := by
  have normalised : lightsUp.arrivalTime.Normalised ∧ lightsDown.arrivalTime.Normalised := by
    unfold TimeVal.Normalised
    decide
  exact .cons_cons ⟨by decide, .reading normalised.1 (by decide),
    .reading normalised.2 (by decide), normalised, by decide, by decide⟩ (.singleton _)

theorem recording_played_twice :
    ∃ player, ShowPlayer.playback (recording [lightsUp, lightsDown]) 2 1000 = some player ∧
      (ShowPlayer.step^[4] player).events =
        [.timeout 500, .sendDmx 1 (.holding [255, 0, 128]), .sendDmx 2 (.holding []),
          .timeout 1000, .timeout 500, .sendDmx 1 (.holding [255, 0, 128]),
          .sendDmx 2 (.holding []), .terminate] := by
  obtain ⟨player, started, -, ended⟩ := recording_played lights_recorded 2 1000
  exact ⟨player, started, (ended (by decide) 4 (by decide)).1.trans rfl⟩

theorem ShowLoader.length_readLine (loader : ShowLoader) :
    loader.readLine.2.ahead.length ≤ loader.ahead.length - loader.readLine.1.length := by
  have parts := congrArg List.length (loader.ahead.takeWhile_append_dropWhile (p := (· != newline)))
  rw [List.length_append] at parts
  unfold ShowLoader.readLine
  dsimp only
  rw [List.length_drop]
  omega

theorem ShowLoader.nextTimeout_loader (loader : ShowLoader) :
    loader.nextTimeout.1 = loader.readLine.2 := by
  unfold ShowLoader.nextTimeout
  dsimp only
  split
  · rfl
  · split <;> rfl

theorem ShowLoader.nextFrame_loader (loader : ShowLoader) :
    loader.nextFrame.1 = loader.readLine.2 := by
  unfold ShowLoader.nextFrame
  dsimp only
  split
  · rfl
  · split
    · split <;> rfl
    · rfl

/-- A frame takes up some of the file. -/
theorem ShowLoader.length_nextFrame {loader : ShowLoader} {frame : Nat × DmxBuffer}
    (read : loader.nextFrame.2 = .ok frame) :
    loader.nextFrame.1.ahead.length < loader.ahead.length := by
  have line := loader.length_readLine
  have filled : loader.readLine.1 ≠ [] := by
    intro empty
    unfold ShowLoader.nextFrame at read
    dsimp only at read
    rw [empty] at read
    cases read
  rw [loader.nextFrame_loader]
  have taken := List.length_pos_iff.mpr filled
  have enough : loader.readLine.1.length ≤ loader.ahead.length :=
    (List.takeWhile_sublist _).length_le
  omega

/-- What `VerifyShow` counts. -/
structure Summary where
  framesByUniverse : Nat → UInt32
  totalTime : UInt64

def Summary.frame (summary : Summary) (universeId : Nat) : Summary :=
  { summary with
    framesByUniverse := fun u =>
      if u = universeId then summary.framesByUniverse u + 1 else summary.framesByUniverse u }

/-- The loop of `VerifyShow`. -/
def verifyFrom (loader : ShowLoader) (summary : Summary) : Summary :=
  match _found : loader.nextFrame with
  | (behind, .ok (universeId, _)) =>
    let summary := summary.frame universeId
    match _waited : behind.nextTimeout with
    | (rest, .ok timeout) =>
      verifyFrom rest { summary with totalTime := summary.totalTime + .ofNat timeout }
    | _ => summary
  | _ => summary
termination_by loader.ahead.length
decreasing_by
  have shorter := loader.length_nextFrame (congrArg Prod.snd _found)
  have line := behind.length_readLine
  rw [← behind.nextTimeout_loader, _waited] at line
  rw [_found] at shorter
  dsimp only at *
  omega

def verifyShow (showFile : List UInt8) : Option Summary :=
  (ShowLoader.load showFile).map fun loader => verifyFrom loader ⟨fun _ => 0, 0⟩

/-- The time from the first frame to the last, as the delays tell it. -/
def playbackTime (frame : Frame) : List Frame → Nat
  | [] => 0
  | next :: rest => delay frame next + playbackTime next rest

theorem verifyFrom_eq (loader : ShowLoader) (summary : Summary) : verifyFrom loader summary =
    match loader.nextFrame with
    | (behind, .ok (universeId, _)) =>
      match behind.nextTimeout with
      | (rest, .ok timeout) => verifyFrom rest
          { summary.frame universeId with totalTime := summary.totalTime + .ofNat timeout }
      | _ => summary.frame universeId
    | _ => summary := by
  rw [verifyFrom]
  split
  · rename_i found
    rw [found]
    dsimp only
    split
    · rename_i waited
      rw [waited]
      rfl
    · split
      · rename_i fails _ _ _ waited
        exact (fails _ _ waited).elim
      · rfl
  · split
    · rename_i fails _ _ _ _ found
      exact (fails _ _ _ found).elim
    · rfl

theorem Summary.framesByUniverse_frame (summary : Summary) (universeId u : Nat) :
    (summary.frame universeId).framesByUniverse u =
      summary.framesByUniverse u + .ofNat (if universeId = u then 1 else 0) := by
  unfold Summary.frame
  dsimp only
  split
  · rw [if_pos (by omega)]
    rfl
  · rw [if_neg (by omega)]
    simp

theorem verifyFrom_tail {frame : Frame} {rest : List Frame} (recorded : Recorded frame rest)
    (showFile : List UInt8) (summary : Summary) :
    verifyFrom ⟨showFile, frame.line ++ newline :: tail frame rest⟩ summary =
      ⟨fun u => summary.framesByUniverse u +
          .ofNat ((frame :: rest).countP (·.universeId.toNat = u)),
        summary.totalTime + .ofNat (playbackTime frame rest)⟩ := by
  induction rest generalizing frame summary with
  | nil =>
    rw [verifyFrom_eq, nextFrame_line, Summary.mk.injEq]
    refine ⟨funext fun u => ?_, ?_⟩
    · simp [tail, ShowLoader.nextTimeout, ShowLoader.readLine_nil, Summary.framesByUniverse_frame]
    · simp [playbackTime]
      rfl
  | cons next rest ih =>
    rw [Recorded, List.isChain_cons_cons] at recorded
    rw [verifyFrom_eq, nextFrame_line]
    dsimp only
    rw [tail, nextTimeout_line recorded.1.soon]
    dsimp only
    rw [ih recorded.2, Summary.mk.injEq]
    refine ⟨funext fun u => ?_, ?_⟩
    · have count : (frame :: next :: rest).countP (·.universeId.toNat = u) =
          (next :: rest).countP (·.universeId.toNat = u) +
            if frame.universeId.toNat = u then 1 else 0 := by
        simp [List.countP_cons]
      dsimp only
      rw [Summary.framesByUniverse_frame, count, UInt32.ofNat_add]
      grind
    · rw [playbackTime, UInt64.ofNat_add]
      grind

/-- `VerifyShow` counts the frames of a recording for each universe, and adds up its delays. -/
theorem recording_verified {first : Frame} {rest : List Frame} (recorded : Recorded first rest) :
    verifyShow (recording (first :: rest)) =
      some ⟨fun u => .ofNat ((first :: rest).countP (·.universeId.toNat = u)),
        .ofNat (playbackTime first rest)⟩ := by
  unfold verifyShow ShowLoader.load
  rw [ShowPlayer.readLine_recording recorded]
  simp [verifyFrom_tail recorded]

theorem recording_verified_lights :
    ∃ summary, verifyShow (recording [lightsUp, lightsDown]) = some summary ∧
      summary.framesByUniverse 1 = 1 ∧ summary.framesByUniverse 3 = 0 ∧ summary.totalTime = 500 :=
  ⟨_, recording_verified lights_recorded, by decide, by decide, by decide⟩

end OpenLighting.Show
