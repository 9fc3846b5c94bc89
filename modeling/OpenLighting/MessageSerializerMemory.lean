import OpenLighting.MessageSerializerBuffer
import OpenLighting.TransitionSystem

/- The memory of the serializer, over any number of messages. -/
namespace OpenLighting.Messaging.MessageSerializer

open TransitionSystem

/-- For one of the fields from an offset on there is no room below the initial size. -/
def replaces (initial : Nat) : Nat → List Extent → Bool
  | _, [] => false
  | offset, extent :: rest =>
    decide (initial ≤ offset + extent.required) || replaces initial (offset + extent.used) rest

/-- How much memory there is behind a message, from how much was `here` before it. -/
def memoryBehind (initial here : Nat) (message : Message) : Nat :=
  if replaces initial 0 (allExtents message) then 2 * initial % 2 ^ 32 else here

/-- Every field of every message ends inside the memory that is there for it. -/
def StaysInside (initial : Nat) (messages : List Message) : Prop :=
  Permitted (memoryBehind initial)
    (fun here message => Fit here initial 0 (allExtents message)) initial messages

instance (initial : Nat) (messages : List Message) : Decidable (StaysInside initial messages) :=
  have := fun (here : Nat) (message : Message) => fitDecidable here initial 0 (allExtents message)
  permittedDecidable _ _ initial messages

section Replaced

variable {here initial : Nat} {serializer after : MessageSerializer}

end Replaced

section Run

variable {bigEndian : Bool} {serializer : MessageSerializer}

end Run

end OpenLighting.Messaging.MessageSerializer
