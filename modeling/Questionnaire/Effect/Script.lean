import Questionnaire.Effect.Basic

/-!
# Effects written as data

A host may describe effects by data.  An assigning effect is a list of actions, each
of which sets one field of a patch.  A notifying effect sends an event with fixed
fields, if the triggering event has a certain field.
-/

namespace Questionnaire

namespace Effect

/-- An action of an assigning effect: how to set the field of the patch under a key.
Actions see the input of the effect, never the patch. -/
inductive Action where
  /-- Set a fixed value. -/
  | set (key : String) (value : Json)
  /-- Add to the integer that the context has under the key. -/
  | add (key : String) (amount : Int)
  /-- Multiply the integer that the context has under the key. -/
  | multiply (key : String) (factor : Int)
  /-- Copy a payload field of the event, or null. -/
  | copy (key field : String)
  /-- Take the state. -/
  | state (key : String)
  /-- Take the type of the event. -/
  | kind (key : String)
  /-- Append the type of the event to the list that the context has under the key. -/
  | append (key : String)
  deriving DecidableEq

namespace Action

/-- The integer that a context has under a key; zero if it has none. -/
def integer (context : Fields) (key : String) : Int :=
  match context.get? key with
  | some (.int value) => value
  | _ => 0

/-- The list that a context has under a key; empty if it has none. -/
def items (context : Fields) (key : String) : List Json :=
  match context.get? key with
  | some (.arr items) => items
  | _ => []

/-- The key and the value that an action sets. -/
def field (input : Input) : Action → String × Json
  | .set key value => (key, value)
  | .add key amount => (key, .int (integer input.context key + amount))
  | .multiply key factor => (key, .int (integer input.context key * factor))
  | .copy key field => (key, (input.event.get? field).getD .null)
  | .state key => (key, .str input.state)
  | .kind key => (key, .str input.event.kind)
  | .append key => (key, .arr (items input.context key ++ [.str input.event.kind]))

/-- The patch of a list of actions, later ones over earlier ones. -/
def patch (actions : List Action) (input : Input) : Fields :=
  .ofList (actions.map (field input))

end Action

/-- What a notifying effect sends: the type of the event, the payload field that
triggers it, if it takes one, its fixed fields, and whether it repeats its input. -/
structure Notice where
  kind : String
  condition : Option String
  fields : Fields
  echo : Bool
  deriving DecidableEq

namespace Notice

/-- The input of an effect as payload fields. -/
def echoed (input : Input) : Fields :=
  .ofList [
    ("state", .str input.state),
    ("event", .str input.event.kind),
    ("payload", .object input.event.payload),
    ("context", .object input.context)]

/-- Whether the triggering event has the field that is asked for. -/
def applies (notice : Notice) (input : Input) : Bool :=
  notice.condition.all input.event.payload.contains

/-- The event that is sent, if any. -/
def event (notice : Notice) (input : Input) : Option Event :=
  if notice.applies input then
    some ⟨notice.kind,
      if notice.echo then notice.fields.merge (echoed input) else notice.fields⟩
  else none

end Notice

/-- An effect as data. -/
inductive Script where
  | assign (actions : List Action)
  /-- Send a notification, or nothing ever. -/
  | notify (notice : Option Notice)
  deriving DecidableEq

/-- The effect that a script describes. -/
def Script.effect : Script → Effect
  | .assign actions => .assign (Action.patch actions)
  | .notify notice => .notify fun input => notice.bind (·.event input)

end Effect

/-- The table of the listed scripts, of which the last under each name counts. -/
def EffectTable.ofScripts (scripts : List (String × Effect.Script)) : EffectTable :=
  scripts.foldl (fun table (id, script) => table.bind id script.effect) {}

end Questionnaire
