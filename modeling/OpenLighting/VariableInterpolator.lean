import OpenLighting.FiniteMap
import OpenLighting.PrefixRewriting
import OpenLighting.StringUtils
import OpenLighting.WhileLoop

/- Variables of triggers, and their interpolation. -/
namespace OpenLighting.Trigger

open List

open PrefixRewriting (Step Ends LeadsBack)
open StringUtils (intToString)
open WhileLoop (Round Returns)

/-- `START_VARIABLE_STRING`: a dollar sign and a brace. -/
def startVariable : List UInt8 := [36, 123]

/-- `END_VARIABLE_STRING`: a brace. -/
def endVariable : UInt8 := 125

/-- `ESCAPE_CHARACTER`: a backslash. -/
def escapeCharacter : UInt8 := 92

abbrev Context := AList fun _ : List UInt8 => List UInt8

namespace Context

def lookup (context : Context) (name : List UInt8) : Option (List UInt8) :=
  AList.lookup name context

def slotValueVariable : List UInt8 := "slot_value".toUTF8.toList

def slotOffsetVariable : List UInt8 := "slot_offset".toUTF8.toList

def setSlotValue (context : Context) (value : UInt8) : Context :=
  context.insert slotValueVariable (intToString value.toNat)

def setSlotOffset (context : Context) (offset : UInt16) : Context :=
  context.insert slotOffsetVariable (intToString offset.toNat)

end Context

/-- The `output` and `pos` of `InterpolateVariables`. -/
structure Interpolation where
  output : List UInt8
  pos : Nat

variable (output : List UInt8)

def beginsAt (pos : Nat) : Bool := startVariable.isPrefixOf (output.drop pos)

/-- `rfind` for the start of a variable. -/
def rfindStart (output : List UInt8) : Nat → Option Nat
  | 0 => if beginsAt output 0 then some 0 else none
  | pos + 1 => if beginsAt output (pos + 1) then some (pos + 1) else rfindStart output pos

def findEnd (pos : Nat) : Option Nat :=
  ((output.drop pos).idxOf? endVariable).map (pos + ·)

/-- The byte before a place is the escape character. -/
def escapedAt (pos : Nat) : Bool :=
  pos != 0 && output[pos - 1]? == some escapeCharacter

/-- The loop that unescapes, from the byte before the index on. A byte that moves to the index when
an escape character is erased is not looked at. -/
def unescapeFrom (before : UInt8) : List UInt8 → List UInt8
  | [] => [before]
  | byte :: rest =>
    if (byte = 36 ∨ byte = endVariable) ∧ before = escapeCharacter then
      match rest with
      | [] => [byte]
      | next :: rest => byte :: unescapeFrom next rest
    else before :: unescapeFrom byte rest

/-- `InterpolateVariables` after its first loop. Strings are not so long that the index wraps. -/
def unescape : List UInt8 → List UInt8
  | [] => []
  | first :: rest => unescapeFrom first rest

namespace Interpolation

/-- A round of the first loop. The result is the output, or nothing where `false` is returned. -/
def round (context : Context) (state : Interpolation) :
    Round Interpolation (Option (List UInt8)) :=
  match rfindStart state.output state.pos with
  | none => .leave (some (unescape state.output))
  | some pos =>
    if escapedAt state.output pos then .again ⟨state.output, pos - 1⟩
    else
      match findEnd state.output pos with
      | none => .leave none
      | some closing =>
        let name := (state.output.drop (pos + 2)).take (closing - (pos + 2))
        match context.lookup name with
        | none => .leave none
        | some value =>
          .again ⟨state.output.take pos ++ value ++ state.output.drop (closing + 1), pos⟩

def start (input : List UInt8) : Interpolation := ⟨input, input.length⟩

end Interpolation

/-- `InterpolateVariables` terminates with this result. -/
def Interpolates (context : Context) (input : List UInt8) (result : Option (List UInt8)) : Prop :=
  Returns (Interpolation.round context) (.start input) result

/-- What changes a `Context`: the `Execute` of a `VariableAssignmentAction`, or a slot update. -/
inductive ContextEvent where
  | assign (name value : List UInt8)
  | slotValue (value : UInt8)
  | slotOffset (offset : UInt16)

/-- An event is done with, and the context is as it is after it. -/
inductive ContextEvent.Done : ContextEvent → Context → Context → Prop
  | assigned {name value : List UInt8} {context : Context} {interpolated : List UInt8} :
      Interpolates context value (some interpolated) →
        Done (.assign name value) context (context.insert name interpolated)
  | failed {name value : List UInt8} {context : Context} :
      Interpolates context value none → Done (.assign name value) context context
  | slotValue {context : Context} (value : UInt8) :
      Done (.slotValue value) context (context.setSlotValue value)
  | slotOffset {context : Context} (offset : UInt16) :
      Done (.slotOffset offset) context (context.setSlotOffset offset)

/-- A context after some events, all of which are done with. -/
inductive Context.Becomes : Context → List ContextEvent → Context → Prop
  | none {context : Context} : Becomes context [] context
  | cons {context next after : Context} {event : ContextEvent} {rest : List ContextEvent} :
      event.Done context next → Becomes next rest after → Becomes context (event :: rest) after

def reference (name : List UInt8) : List UInt8 := startVariable ++ name ++ [endVariable]

/-- References are replaced by values. -/
def Context.rules (context : Context) : Set (List UInt8 × List UInt8) :=
  {rule | ∃ name, endVariable ∉ name ∧ rule.1 = reference name ∧
    context.lookup name = some rule.2}

/-- The texts that can stand from a place on that `rfind` has come to, with a flag that tells
whether the byte before is the escape character. -/
inductive Context.Shows (context : Context) : Bool → List UInt8 → Prop
  | start (escaped : Bool) : Shows context escaped []
  | move (escaped : Bool) {byte : UInt8} {text : List UInt8} :
      Shows context (byte == escapeCharacter) text →
        (startVariable.isPrefixOf text = true → byte = escapeCharacter) →
          Shows context escaped (byte :: text)
  | replace {name value rest : List UInt8} :
      Shows context false (reference name ++ rest) → endVariable ∉ name →
        context.lookup name = some value → Shows context false (value ++ rest)

/-- No variable that can be looked up leads back to a reference to itself. -/
def Context.Founded (context : Context) : Prop :=
  ∀ name rest, endVariable ∉ name → context.Shows false (reference name ++ rest) →
    ¬ LeadsBack context.rules (reference name)

section Searching
variable {output name rest : List UInt8} {pos : Nat}

end Searching

namespace Interpolation

/-- The state in which `rfind` has come to a place. -/
def between (before text : List UInt8) : Interpolation := ⟨before ++ text, before.length⟩

def escapes (before : List UInt8) : Bool := before.getLast? == some escapeCharacter

variable {context : Context} {before text name rest value : List UInt8}

end Interpolation

section Ending
open Interpolation Relation

variable {context : Context} {before text name rest : List UInt8}

theorem Context.finite_rules (context : Context) : context.rules.Finite := by
  have entries : {entry | entry ∈ context.entries}.Finite := finite_toSet _
  apply (entries.image fun entry => (reference entry.1, entry.2)).subset
  rintro ⟨left, value⟩ ⟨name, _, rfl, found⟩
  exact ⟨⟨name, value⟩, AList.mem_lookup_iff.mp found, rfl⟩

/-- Rewriting at a place where a text can stand. -/
theorem Context.Shows.steps {next : List UInt8} (there : context.Shows false text)
    (steps : ReflTransGen (Step context.rules) text next) : context.Shows false next := by
  induction steps with
  | refl => exact there
  | tail _ step ih =>
    obtain ⟨⟨_, value⟩, ⟨name, closed, rfl, found⟩, rest, rfl, rfl⟩ := step
    exact .replace ih closed found

theorem Context.Founded.ends (founded : context.Founded) (there : context.Shows false text) :
    Ends context.rules text := by
  by_contra endless
  obtain ⟨⟨_, value⟩, ⟨name, closed, rfl, found⟩, rest, steps, back⟩ :=
    PrefixRewriting.exists_leadsBack_of_not_ends context.finite_rules endless
  exact founded name rest closed (there.steps steps) back

end Ending

section Runs
open Relation

theorem ContextEvent.Done.unique {event : ContextEvent} {context one other : Context}
    (first : event.Done context one) (second : event.Done context other) : one = other := by
  cases first with
  | assigned interpolated =>
    cases second with
    | assigned interpolated' =>
      cases interpolated.unique interpolated'
      rfl
    | failed failed => cases interpolated.unique failed
  | failed failed =>
    cases second with
    | assigned interpolated => cases failed.unique interpolated
    | failed _ => rfl
  | slotValue value | slotOffset offset =>
    cases second
    rfl

theorem Context.Becomes.unique {events : List ContextEvent} {context one other : Context}
    (first : context.Becomes events one) (second : context.Becomes events other) : one = other := by
  induction first with
  | none =>
    cases second
    rfl
  | cons done _ ih =>
    cases second with
    | cons done' rest =>
      cases done.unique done'
      exact ih rest

end Runs

end OpenLighting.Trigger
