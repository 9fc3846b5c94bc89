import Mathlib.Logic.Function.Basic
import OpenLighting.QueueingController

namespace OpenLighting.Rdm

def rootRdmDevice : UInt16 := 0
def nrSubDeviceOutOfRange : UInt16 := 0x0009

end OpenLighting.Rdm

namespace OpenLighting.SubDeviceDispatcher

open OpenLighting.Rdm
open OpenLighting.QueueingController (Reply)

/-- `STLReplace` in a `std::map`, whose keys are in ascending order. -/
def replace (number : UInt16) (device : Nat) : List (UInt16 × Nat) → List (UInt16 × Nat)
  | [] => [(number, device)]
  | entry :: rest =>
    if number < entry.1 then (number, device) :: entry :: rest
    else if number = entry.1 then (number, device) :: rest
    else entry :: replace number device rest

theorem replace_keys (number : UInt16) (device : Nat) (entries : List (UInt16 × Nat)) :
    ∀ entry ∈ replace number device entries, entry.1 = number ∨ entry ∈ entries := by
  induction entries with
  | nil =>
    intro entry member
    rw [replace, List.mem_singleton] at member
    exact .inl (by rw [member])
  | cons first rest ih =>
    intro entry member
    rw [replace] at member
    split_ifs at member
    · rcases List.mem_cons.mp member with rfl | before
      · exact .inl rfl
      · exact .inr before
    · rcases List.mem_cons.mp member with rfl | before
      · exact .inl rfl
      · exact .inr (List.mem_cons_of_mem _ before)
    · rcases List.mem_cons.mp member with rfl | before
      · exact .inr List.mem_cons_self
      · rcases ih entry before with same | inside
        · exact .inl same
        · exact .inr (List.mem_cons_of_mem _ inside)

theorem replace_sorted (number : UInt16) (device : Nat) (entries : List (UInt16 × Nat))
    (sorted : entries.Pairwise (fun first second => first.1 < second.1)) :
    (replace number device entries).Pairwise (fun first second => first.1 < second.1) := by
  induction entries with
  | nil => exact List.pairwise_singleton _ _
  | cons first rest ih =>
    obtain ⟨least, sortedRest⟩ := List.pairwise_cons.mp sorted
    rw [replace]
    split_ifs with before same
    · refine List.pairwise_cons.mpr ⟨?_, sorted⟩
      intro entry member
      rcases List.mem_cons.mp member with rfl | behind
      · exact before
      · exact UInt16.lt_trans before (least entry behind)
    · refine List.pairwise_cons.mpr ⟨?_, sortedRest⟩
      intro entry member
      rw [same]
      exact least entry member
    · refine List.pairwise_cons.mpr ⟨?_, ih sortedRest⟩
      intro entry member
      rcases replace_keys number device rest entry member with found | behind
      · rw [found]
        rcases UInt16.lt_or_lt_of_ne same with less | more
        · exact absurd less before
        · exact more
      · exact least entry behind

/-- `m_subdevices`; a device is known by a number of its own. -/
structure SubDeviceMap where
  entries : List (UInt16 × Nat)
  sorted : entries.Pairwise (fun first second => first.1 < second.1)
  noRoot : ∀ entry ∈ entries, entry.1 ≠ rootRdmDevice

def SubDeviceMap.empty : SubDeviceMap := ⟨[], .nil, nofun⟩

def SubDeviceMap.numbers (map : SubDeviceMap) : List UInt16 := map.entries.map Prod.fst

def SubDeviceMap.addSubDevice (map : SubDeviceMap) (number : UInt16) (device : Nat) :
    SubDeviceMap :=
  if allowed : number ≠ rootRdmDevice then
    ⟨replace number device map.entries, replace_sorted number device map.entries map.sorted,
      fun entry member => by
        rcases replace_keys number device map.entries entry member with same | before
        · rw [same]
          exact allowed
        · exact map.noRoot entry before⟩
  else map

/-- `FanOutTracker`. The code and the response are stored together; `none` is before the first
of them. -/
structure FanOutTracker where
  numberOfSubdevices : UInt16
  responsesSoFar : UInt16
  callback : Option Nat
  response : Option (ResponseCode × Option Command)
  deriving DecidableEq

def FanOutTracker.new (numberOfSubdevices : UInt16) (callback : Nat) : FanOutTracker :=
  ⟨numberOfSubdevices, 0, some callback, none⟩

/-- A request that a sub device has not completed. Its callback is that of the caller, or
`HandleSubDeviceResponse` bound to the tracker. -/
structure Delivery where
  ticket : Nat
  number : UInt16
  fanOut : Bool
  deriving DecidableEq

/-- An activation of `FanOutToSubDevices`, with the sub devices that the loop has not come to. -/
structure FanOut where
  ticket : Nat
  rest : List UInt16
  deriving DecidableEq

inductive Event where
  | submitted (ticket : Nat) (request : Command)
  | answered (ticket : Nat) (number : UInt16) (reply : Reply)
  | ran (ticket : Nat) (reply : Reply)
  deriving DecidableEq

/-- A dispatcher between its callers and its sub devices. The calls of `SendRDMRequest` are
numbered, and the tracker of a call lies at its number; `fault` is the use of a tracker that is
not there. -/
structure World where
  subdevices : SubDeviceMap
  trackers : Nat → Option FanOutTracker
  outstanding : List Delivery
  frames : List FanOut
  log : List Event
  tickets : Nat
  fault : Bool

def World.initial (subdevices : SubDeviceMap) : World :=
  ⟨subdevices, fun _ => none, [], [], [], 0, false⟩

/-- What `NackIfNotBroadcast` runs the callback with. -/
def nackReply (request : Command) (reason : UInt16) : Reply :=
  if request.destination.isBroadcast then ⟨.wasBroadcast, none, []⟩
  else ⟨.completedOk, some (nackWithReason request reason 0), []⟩

variable (world : World)

namespace World

def nackIfNotBroadcast (ticket : Nat) (request : Command) (reason : UInt16) : World :=
  { world with log := world.log ++ [.ran ticket (nackReply request reason)] }

/-- `FanOutToSubDevices` up to its loop. -/
def fanOutToSubDevices (ticket : Nat) (request : Command) : World :=
  if request.commandClass = .getCommand then
    world.nackIfNotBroadcast ticket request nrSubDeviceOutOfRange
  else
    { world with
      trackers := Function.update world.trackers ticket
        (some (.new (UInt16.ofNat world.subdevices.entries.length) ticket))
      frames := ⟨ticket, world.subdevices.numbers⟩ :: world.frames }

def sendRDMRequest (request : Command) : World :=
  let ticket := world.tickets
  let world : World := { world with
    tickets := ticket + 1
    log := world.log ++ [.submitted ticket request] }
  if request.subDevice = allRdmSubdevices then world.fanOutToSubDevices ticket request
  else if request.subDevice ∈ world.subdevices.numbers then
    { world with outstanding := world.outstanding ++ [⟨ticket, request.subDevice, false⟩] }
  else world.nackIfNotBroadcast ticket request nrSubDeviceOutOfRange

/-- The innermost loop over the sub devices goes on. -/
def proceed : World :=
  match world.frames with
  | [] => world
  | ⟨_, []⟩ :: frames => { world with frames := frames }
  | ⟨ticket, number :: rest⟩ :: frames =>
    { world with
      outstanding := world.outstanding ++ [⟨ticket, number, true⟩]
      frames := ⟨ticket, rest⟩ :: frames }

def runCallback (tracker : FanOutTracker) : World :=
  match tracker.callback, tracker.response with
  | some ticket, some (code, response) =>
    { world with log := world.log ++ [.ran ticket ⟨code, response, []⟩] }
  | none, _ => world
  | some _, none => { world with fault := true }

def handleSubDeviceResponse (address : Nat) (reply : Reply) : World :=
  match world.trackers address with
  | none => { world with fault := true }
  | some tracker =>
    let tracker :=
      if tracker.responsesSoFar = 0 then
        { tracker with response := some (reply.status, reply.response) }
      else tracker
    let tracker := { tracker with responsesSoFar := tracker.responsesSoFar + 1 }
    if tracker.responsesSoFar = tracker.numberOfSubdevices then
      { world.runCallback tracker with
        trackers := Function.update world.trackers address none }
    else { world with trackers := Function.update world.trackers address (some tracker) }

def complete (index : Nat) (reply : Reply) : World :=
  match world.outstanding[index]? with
  | none => world
  | some delivery =>
    let world : World := { world with
      outstanding := world.outstanding.eraseIdx index
      log := world.log ++ [.answered delivery.ticket delivery.number reply] }
    if delivery.fanOut then world.handleSubDeviceResponse delivery.ticket reply
    else { world with log := world.log ++ [.ran delivery.ticket reply] }

end World

/-- A call, a step of a loop, or a completion. Requests are completed at once if `complete`
comes before the loop goes on, and a call between the two comes from inside a callback. -/
inductive Input where
  | sendRDMRequest (request : Command)
  | proceed
  | complete (index : Nat) (reply : Reply)
  deriving DecidableEq

def World.step (input : Input) : World :=
  if world.fault then world
  else
    match input with
    | .sendRDMRequest request => world.sendRDMRequest request
    | .proceed => world.proceed
    | .complete index reply => world.complete index reply

end OpenLighting.SubDeviceDispatcher
