import OpenLighting.TransitionSystem
import Mathlib.Data.UInt

/- A `SoftwareBackend`, and what its buffer is for: the data of all outputs one behind the
other. -/
namespace OpenLighting.Spi

open TransitionSystem

/-- `std::accumulate`. -/
def accumulate (values : List UInt32) : UInt32 := values.foldl (· + ·) 0

/-- `memcpy` from a buffer, which must have so many bytes. -/
def copy (memory : List UInt8) (start count : Nat) : Option (List UInt8) :=
  if start + count ≤ memory.length then some ((memory.drop start).take count) else none

/-- A `SoftwareBackend`, with the frames that were dropped and the data that was written to the
bus. -/
structure SoftwareBackend where
  syncOutput : Int
  writePending : Bool
  outputSizes : List UInt32
  latchBytes : List UInt32
  output : List UInt8
  length : UInt32
  drops : Nat
  written : List (List UInt8)

variable (backend : SoftwareBackend)

namespace SoftwareBackend

/-- `SoftwareBackend`. -/
def new (outputs : UInt8) (syncOutput : Int) : SoftwareBackend :=
  ⟨syncOutput, false, List.replicate outputs.toNat 0, List.replicate outputs.toNat 0, [], 0, 0,
    []⟩

/-- `Checkout`: the backend and where in the buffer the pointer goes, or `none` where memory is
accessed outside of a buffer. -/
def checkout (output : Nat) (length latchBytes : UInt32) : Option (SoftwareBackend × Option Nat) :=
  if backend.outputSizes.length ≤ output then some (backend, none)
  else
    let leading := accumulate (backend.outputSizes.take output)
    let trailing := accumulate (backend.outputSizes.drop (output + 1))
    let latches := backend.latchBytes.set output latchBytes
    let totalLatchBytes := accumulate latches
    let requiredSize := leading + length + trailing + totalLatchBytes
    if requiredSize ≠ backend.length then do
      let front ← copy backend.output 0 leading.toNat
      -- the source is the place of the output itself, not of those behind it
      let back ← copy backend.output leading.toNat trailing.toNat
      let newOutput := front ++ List.replicate length.toNat 0 ++ back ++
        List.replicate totalLatchBytes.toNat 0
      if newOutput.length ≠ requiredSize.toNat then none
      else
        some ({ backend with
          latchBytes := latches
          output := newOutput
          length := requiredSize
          outputSizes := backend.outputSizes.set output length }, some leading.toNat)
    else some ({ backend with latchBytes := latches }, some leading.toNat)

def commit (output : Nat) : SoftwareBackend :=
  if backend.outputSizes.length ≤ output then backend
  else if backend.syncOutput < 0 ∨ output = backend.syncOutput then
    { backend with
      drops := if backend.writePending then backend.drops + 1 else backend.drops
      writePending := true }
  else backend

/-- The part of the loop in `Run` between two waits. -/
def run : Option SoftwareBackend :=
  if backend.writePending then do
    let data ← copy backend.output 0 backend.length.toNat
    some { backend with writePending := false, written := backend.written ++ [data] }
  else some backend

end SoftwareBackend

/-- Bytes that are written through a pointer. -/
def poke (memory : List UInt8) (pointer : Nat) : List (Nat × UInt8) → Option (List UInt8)
  | [] => some memory
  | (index, value) :: writes =>
    if pointer + index < memory.length then poke (memory.set (pointer + index) value) pointer writes
    else none

/-- A port fills the bytes that it checked out and commits them, or the thread has its turn. -/
inductive Event where
  | update (output : UInt8) (length latchBytes : UInt32) (writes : List (Fin length.toNat × UInt8))
  | run

/-- The writes of an event. -/
def plain {length : Nat} (writes : List (Fin length × UInt8)) : List (Nat × UInt8) :=
  writes.map (fun write => (write.1.val, write.2))

def step (world : Option SoftwareBackend) (event : Event) : Option SoftwareBackend := do
  let backend ← world
  match event with
  | .run => backend.run
  | .update output length latchBytes writes =>
    match ← backend.checkout output.toNat length latchBytes with
    | (backend, none) => some backend
    | (backend, some pointer) =>
      let memory ← poke backend.output pointer (plain writes)
      some ({ backend with output := memory }.commit output.toNat)

/-- An output as its port sees it: its data, and how many latch bytes it asked for. -/
structure Output where
  data : List UInt8
  latchBytes : UInt32
  deriving DecidableEq

variable (outputs : List Output)

namespace Output

/-- What the bytes are before the port writes them. They are kept unless the length changes. -/
def start (output : Output) (length : Nat) : List UInt8 :=
  if output.data.length = length then output.data else List.replicate length 0

/-- The bytes after some have been written. -/
def fill (data : List UInt8) (writes : List (Nat × UInt8)) : List UInt8 :=
  writes.foldl (fun data write => data.set write.1 write.2) data

/-- No output has any data. -/
def blank (outputs : UInt8) : List Output := List.replicate outputs.toNat ⟨[], 0⟩

/-- What an event means for the outputs. -/
def update (outputs : List Output) : Event → List Output
  | .run => outputs
  | .update index length latchBytes writes =>
    match outputs[index.toNat]? with
    | none => outputs
    | some output =>
      outputs.set index.toNat ⟨fill (output.start length.toNat) (plain writes), latchBytes⟩

/-- The data of some outputs. -/
def joined : List UInt8 := outputs.flatMap Output.data

/-- The latch bytes of some outputs, which are zeros. -/
def latches : List UInt8 :=
  outputs.flatMap (fun output => List.replicate output.latchBytes.toNat 0)

/-- What the buffer should be. -/
def layout : List UInt8 := joined outputs ++ latches outputs

/-- Where the data of an output starts. -/
def place (index : Nat) : Nat := (joined (outputs.take index)).length

/-- The buffer is laid out anew in the right way: it is noticed that the size is another one, the
size is a number, the bytes that are copied behind the output are those of the outputs there, and
no bytes are lost if only the latch bytes change. -/
def Moves (index : Nat) (output : Output) (length latchBytes : UInt32)
    (writes : List (Nat × UInt8)) : Prop :=
  output.data.length + output.latchBytes.toNat ≠ length.toNat + latchBytes.toNat ∧
    (layout (outputs.set index ⟨List.replicate length.toNat 0, latchBytes⟩)).length < 2 ^ 32 ∧
    joined (outputs.drop (index + 1)) <+: output.data ++ joined (outputs.drop (index + 1)) ∧
    (output.data.length = length.toNat →
      ∀ i < length.toNat, output.data[i]? = some 0 ∨ i ∈ writes.map Prod.fst)

/-- The events that the backend gets right. -/
def Keeps (outputs : List Output) : Event → Prop
  | .run => True
  | .update index length latchBytes writes =>
    ∀ output ∈ outputs[index.toNat]?,
      (output.data.length = length.toNat ∧ output.latchBytes = latchBytes) ∨
        Moves outputs index.toNat output length latchBytes (plain writes)

instance (outputs : List Output) (index : Nat) (output : Output) (length latchBytes : UInt32)
    (writes : List (Nat × UInt8)) :
    Decidable (Moves outputs index output length latchBytes writes) :=
  inferInstanceAs (Decidable (_ ∧ _ ∧ _ ∧ _))

instance (outputs : List Output) : ∀ event, Decidable (Keeps outputs event)
  | .run => .isTrue trivial
  | .update _ _ _ _ => inferInstanceAs (Decidable (∀ output ∈ _, _ ∨ _))

end Output

end OpenLighting.Spi
