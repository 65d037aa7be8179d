import Questionnaire.Json.Raw

/-!
# Events

An event has a type, which selects a transition, and a payload of named values.
In JSON both share one object: the type stands under `type` and the payload
beside it.
-/

namespace Questionnaire

/-- An event sent to a machine, or a notification sent by one. -/
structure Event where
  kind : String
  payload : Fields
  deriving DecidableEq

namespace Event

/-- The event of a type without payload. -/
def ofKind (kind : String) : Event :=
  ⟨kind, ∅⟩

/-- The event with one payload field set. -/
def withField (event : Event) (key : String) (value : Json) : Event :=
  { event with payload := event.payload.insert key value }

/-- A payload field. -/
def get? (event : Event) (key : String) : Option Json :=
  event.payload.get? key

/-- A payload field that is a string. -/
def text? (event : Event) (key : String) : Option String :=
  (event.get? key).bind Json.text?

/-- The key of the type among the fields of an event's object. -/
def kindKey : String := "type"

/-- An event as an object; a payload field under the key of the type takes its place. -/
def toJson (event : Event) : Json :=
  .object ((KeyMap.singleton kindKey (.str event.kind)).merge event.payload)

/-- The event of a list of fields, among which the type is given once, as a string. -/
def ofFields? (fields : List (String × Json)) : Option Event :=
  match fields.filter (·.1 = kindKey) with
  | [(_, .str kind)] => some ⟨kind, .ofList (fields.filter (·.1 ≠ kindKey))⟩
  | _ => none

/-- Read an event. -/
def ofRaw? : Json.Raw → Option Event
  | .obj members => (Json.Raw.members? members).bind ofFields?
  | _ => none

end Event
end Questionnaire
