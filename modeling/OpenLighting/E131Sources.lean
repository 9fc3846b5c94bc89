import OpenLighting.Dmp
import OpenLighting.DmxBuffer
import OpenLighting.FiniteMap
import OpenLighting.TransitionSystem

namespace OpenLighting.E131

open TransitionSystem FiniteMap

structure E131Header where
  source : List UInt8
  priority : UInt8
  sequence : UInt8
  universeId : UInt16
  previewData : Bool
  streamTerminated : Bool
  usingRev2 : Bool
  deriving DecidableEq

/-- What reaches `HandlePDUData`. Of the headers it reads the CID of the root layer and these. -/
structure DMPMessage (Cid : Type) where
  vector : UInt32
  cid : Cid
  header : E131Header
  dmpHeader : DMPHeader
  data : List UInt8
  deriving DecidableEq

structure DmxSource (Cid : Type) where
  cid : Cid
  sequence : UInt8
  lastHeardFrom : Int
  buffer : DmxBuffer

/-- `universe_handler`, with what its pointers lead to. There may be no place for the priority.
Of the closure it is known how often it was run. -/
structure UniverseHandler (Cid : Type) where
  buffer : DmxBuffer
  priority : Option UInt8
  activePriority : UInt8
  sources : List (DmxSource Cid)
  runs : Nat

def maxMergeSources : Nat := 6
def maxPriority : UInt8 := 200
def sequenceDiffThreshold : Int := -20
def expiryInterval : Int := 2500000
def dmpSetPropertyVector : UInt32 := 2

/-- What `TrackSourceIfRequired` asks for: nothing, a merge, or a merge with the data of the
packet in the buffer of a source. -/
inductive Verdict where
  | ignore
  | merge
  | fill (index : Nat)

variable {Cid : Type} [DecidableEq Cid]

/-- A sequence number that is not new. -/
def oldSequence (sequence last : UInt8) : Bool :=
  let difference := (sequence - last).toInt8.toInt
  decide (difference ≤ 0 ∧ sequenceDiffThreshold < difference)

/-- The loop that lets other sources expire. -/
def unexpired (now : Int) (cid : Cid) (sources : List (DmxSource Cid)) : List (DmxSource Cid) :=
  sources.filter (fun source =>
    decide (source.cid = cid ∨ now ≤ source.lastHeardFrom + expiryInterval))

variable (handler : UniverseHandler Cid)

def trackNew (now : Int) (cid : Cid) (header : E131Header) : UniverseHandler Cid × Verdict :=
  if header.streamTerminated = true ∨ header.priority < handler.activePriority then
    (handler, .ignore)
  else
    let handler :=
      if handler.activePriority < header.priority then
        { handler with
          sources := []
          activePriority := header.priority }
      else handler
    if handler.sources.length = maxMergeSources then (handler, .ignore)
    else
      ({ handler with sources := handler.sources ++ [⟨cid, header.sequence, now, .new⟩] },
        .fill handler.sources.length)

/-- The part for a source that is tracked. -/
def trackKnown (now : Int) (header : E131Header) (index : Nat)
    (source : DmxSource Cid) : UniverseHandler Cid × Verdict :=
  if oldSequence header.sequence source.sequence then (handler, .ignore)
  else if header.streamTerminated then
    let sources := handler.sources.eraseIdx index
    ({ handler with
      sources := sources
      activePriority := if sources.isEmpty then 0 else handler.activePriority }, .merge)
  else
    let source := { source with sequence := header.sequence, lastHeardFrom := now }
    if header.priority < handler.activePriority then
      if handler.sources.length = 1 then
        ({ handler with
          activePriority := header.priority
          sources := handler.sources.set index source }, .fill index)
      else ({ handler with sources := handler.sources.eraseIdx index }, .merge)
    else if handler.activePriority < header.priority then
      if handler.sources.length = 1 then
        ({ handler with
          activePriority := header.priority
          sources := handler.sources.set index source }, .fill index)
      else
        ({ handler with
          activePriority := header.priority
          sources := [source] }, .fill 0)
    else ({ handler with sources := handler.sources.set index source }, .fill index)

def UniverseHandler.expire (now : Int) (cid : Cid) : UniverseHandler Cid :=
  let sources := unexpired now cid handler.sources
  { handler with
    sources := sources
    activePriority := if sources.isEmpty then 0 else handler.activePriority }

def trackSourceIfRequired (now : Int) (cid : Cid)
    (header : E131Header) : UniverseHandler Cid × Verdict :=
  let handler := handler.expire now cid
  match handler.sources.findIdx? (fun source => decide (source.cid = cid)) with
  | none => trackNew handler now cid header
  | some index =>
    match handler.sources[index]? with
    | none => (handler, .ignore)
    | some source => trackKnown handler now header index source

/-- The start code that `HandlePDUData` finds; -1 if there is none. -/
def startCode (header : E131Header) (address : DMPAddress) (rest : List UInt8) : Int :=
  if header.usingRev2 then address.start
  else
    match rest with
    | [] => -1
    | first :: _ => if address.number = 0 then -1 else first.toNat

/-- The slots of a packet. In the final standard the start code is the first of the channels. -/
def slotsOf (header : E131Header) (address : DMPAddress) (rest : List UInt8) : List UInt8 :=
  let channels := min rest.length address.number
  if header.usingRev2 then rest.take channels else (rest.drop 1).take (channels - 1)

namespace UniverseHandler

/-- The data of a packet goes to a source. -/
def fill (index : Nat) (slots : List UInt8) : UniverseHandler Cid :=
  { handler with
    sources := handler.sources.modify index (fun source =>
      { source with buffer := (source.buffer.set (some slots)).1 }) }

def merge : UniverseHandler Cid :=
  let handler := { handler with priority := handler.priority.map (fun _ => handler.activePriority) }
  match handler.sources with
  | [] => { handler with buffer := handler.buffer.reset }
  | [source] =>
    { handler with
      buffer := (handler.buffer.setBuffer source.buffer).1
      runs := handler.runs + 1 }
  | sources =>
    { handler with
      buffer := sources.foldl (fun buffer source => buffer.htpMerge source.buffer)
        handler.buffer.reset
      runs := handler.runs + 1 }

/-- What is done with an address and the bytes behind it. -/
def receive (now : Int) (cid : Cid) (header : E131Header)
    (address : DMPAddress) (rest : List UInt8) : UniverseHandler Cid :=
  let code := startCode header address rest
  if code ≠ 0 ∧ header.streamTerminated = false then handler
  else
    let (handler, verdict) := trackSourceIfRequired handler now cid header
    match verdict with
    | .ignore => handler
    | .merge => handler.merge
    | .fill index =>
      if code = 0 then (handler.fill index (slotsOf header address rest)).merge
      else handler.merge

end UniverseHandler

/-- The DMP header that E1.31 asks for. -/
def wellFormed (header : DMPHeader) : Bool :=
  header.isVirtual && !header.isRelative && decide (header.size = .twoBytes) &&
    decide (header.type = .rangeEqual)

/-- The address of a packet that is not dropped, and what is behind it. -/
def DMPMessage.payload (ignorePreview : Bool) (message : DMPMessage Cid) :
    Option (DMPAddress × List UInt8) :=
  if message.vector ≠ dmpSetPropertyVector then none
  else if message.header.previewData && ignorePreview then none
  else if wellFormed message.dmpHeader = false then none
  else if maxPriority < message.header.priority then none
  else
    match decodeAddress message.dmpHeader.size message.dmpHeader.type message.data with
    | none => none
    | some (address, used) =>
      if address.increment ≠ 1 then none else some (address, message.data.drop used)

def UniverseHandler.handle (ignorePreview : Bool) (handler : UniverseHandler Cid) (now : Int)
    (message : DMPMessage Cid) : UniverseHandler Cid :=
  match message.payload ignorePreview with
  | none => handler
  | some (address, rest) => handler.receive now message.cid message.header address rest

structure DMPE131Inflator (Cid : Type) where
  ignorePreview : Bool
  handlers : AList (fun _ : Nat => UniverseHandler Cid)

variable (inflator : DMPE131Inflator Cid)

namespace DMPE131Inflator

def handlePDUData (now : Int) (message : DMPMessage Cid) : DMPE131Inflator Cid :=
  match inflator.handlers.lookup message.header.universeId.toNat with
  | none => inflator
  | some handler =>
    { inflator with
      handlers := inflator.handlers.insert message.header.universeId.toNat
        (handler.handle inflator.ignorePreview now message) }

/-- `SetHandler`, which keeps the sources of a handler that is there. -/
def setHandler (universeId : Nat) (buffer : DmxBuffer)
    (priority : Option UInt8) : DMPE131Inflator Cid :=
  let handler : UniverseHandler Cid :=
    match inflator.handlers.lookup universeId with
    | none => ⟨buffer, priority, 0, [], 0⟩
    | some handler => { handler with buffer := buffer, priority := priority, runs := 0 }
  { inflator with handlers := inflator.handlers.insert universeId handler }

def removeHandler (universeId : Nat) : DMPE131Inflator Cid :=
  { inflator with handlers := inflator.handlers.erase universeId }

end DMPE131Inflator

end OpenLighting.E131
