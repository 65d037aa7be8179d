import Questionnaire.Definition.Basic
import Questionnaire.Json.Raw

/-!
# Definitions in JSON

A transition may be written as its target alone.  What equals its default is left
out when a definition is written, and may be left out when it is read.
-/

namespace Questionnaire

open Json (Raw)

namespace Transition

/-- The target among `fields`, which is given once, as a string or null, or not at all. -/
def target? (fields : List (String × Json)) : Option (Option String) :=
  match fields.filter (·.1 = "target") with
  | [] => some none
  | [(_, .null)] => some none
  | [(_, .str target)] => some (some target)
  | _ => none

/-- The effects among `fields`, under one of two names of which one may be given once. -/
def effects? (fields : List (String × Json)) : Option (List String) :=
  match fields.filter fun field => field.1 = "effects" ∨ field.1 = "actions" with
  | [] => some []
  | [(_, .arr items)] => items.mapM Json.text?
  | _ => none

/-- Read a transition: a target alone, or an object with an optional target and
effects, in which other fields are skipped once they are readable. -/
def ofRaw? : Raw → Option Transition
  | .str target => some ⟨some target, []⟩
  | .obj members => do
    let fields ← Raw.members? members
    return ⟨← target? fields, ← effects? fields⟩
  | _ => none

/-- A transition as an object. -/
def toJson (transition : Transition) : Json :=
  .ofFields <|
    (transition.target.toList.map fun target => ("target", .str target))
      ++ (if transition.effects.isEmpty then [] else
        [("effects", .ofTexts transition.effects)])

end Transition

namespace OutputBuilder

/-- Read an output builder: an object with its one rule. -/
def ofRaw? : Raw → Option OutputBuilder
  | .obj [(some "constant", value)] => value.value?.map .constant
  | .obj [(some "field", name)] => name.text?.map .field
  | .obj [(some "pick", names)] => (names.list? Raw.text?).map .pick
  | _ => none

/-- An output builder as an object. -/
def toJson : OutputBuilder → Json
  | .constant value => .obj [("constant", value)]
  | .field name => .obj [("field", .str name)]
  | .pick names => .obj [("pick", .ofTexts names)]

end OutputBuilder

namespace StateNode

/-- Read a state, in which every field may be left out. -/
def ofRaw? (raw : Raw) : Option StateNode := do
  let [on, terminal, output, presentation] ← raw.record? ["on", "final", "output", "meta"] 0
    | none
  return {
    on := ← on.elim (some ∅) (·.map? Transition.ofRaw?)
    terminal := ← terminal.elim (some false) Raw.flag?
    output := ← output.elim (some none) (·.orNull? OutputBuilder.ofRaw?)
    presentation := ← presentation.elim (some .null) Raw.value? }

/-- A state as an object. -/
def toJson (node : StateNode) : Json :=
  .ofFields <|
    (if node.on.isEmpty then [] else [("on", .object (node.on.map Transition.toJson))])
      ++ (if node.terminal then [("final", .bool true)] else [])
      ++ (node.output.toList.map fun output => ("output", output.toJson))
      ++ (if node.presentation = .null then [] else [("meta", node.presentation)])

end StateNode

namespace Definition

/-- Read a definition. -/
def ofRaw? (raw : Raw) : Option Definition := do
  let [id, initial, states] ← raw.record? ["id", "initial", "states"] 3
    | none
  return {
    id := ← id.bind Raw.text?
    initial := ← initial.bind Raw.text?
    states := ← states.bind (·.map? StateNode.ofRaw?) }

/-- A definition as an object. -/
def toJson (definition : Definition) : Json :=
  .ofFields [
    ("id", .str definition.id),
    ("initial", .str definition.initial),
    ("states", .object (definition.states.map StateNode.toJson))]

end Definition
end Questionnaire
