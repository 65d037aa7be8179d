import Questionnaire.KeyMap.Basic
import Questionnaire.Binary64.Basic

/-!
# JSON values

Contexts, payloads, answers, outputs and presentation data are free-form
values.  Integers and reals are different values: `1` counts, `1.0` does not.
The fields of an object stand in increasing order of their keys, as in a
`KeyMap`.
-/

namespace Questionnaire

/-- A JSON value. -/
inductive Json where
  | null
  | bool (value : Bool)
  | int (value : Int)
  | real (value : Binary64)
  | str (text : String)
  | arr (items : List Json)
  | obj (fields : List (String × Json))

/-- Free-form data under names: a context, a payload or an answer set. -/
abbrev Fields := KeyMap Json

namespace Json

/-- The object with the given fields. -/
def object (fields : Fields) : Json :=
  .obj fields.entries

/-- The object with the listed fields, of which the last under each key counts. -/
def ofFields (fields : List (String × Json)) : Json :=
  object (.ofList fields)

/-- The number `value`. -/
def ofNat (value : Nat) : Json :=
  .int value

/-- The array of the given texts. -/
def ofTexts (texts : List String) : Json :=
  .arr (texts.map .str)

/-- The fields of an object. -/
def fields? : Json → Option Fields
  | .obj fields => some (.ofList fields)
  | _ => none

/-- The value of one field of an object. -/
def field? (value : Json) (key : String) : Option Json :=
  value.fields?.bind (·.get? key)

/-- The text of a string. -/
def text? : Json → Option String
  | .str text => some text
  | _ => none

/-- The value of a non-negative integer. -/
def nat? : Json → Option Nat
  | .int value => value.toNat?
  | _ => none

mutual

/-- Whether two values are equal. -/
def same : Json → Json → Bool
  | .null, .null => true
  | .bool left, .bool right => left == right
  | .int left, .int right => left == right
  | .real left, .real right => left == right
  | .str left, .str right => left == right
  | .arr left, .arr right => sameItems left right
  | .obj left, .obj right => sameFields left right
  | _, _ => false

/-- Whether two lists of items are equal. -/
def sameItems : List Json → List Json → Bool
  | [], [] => true
  | left :: lefts, right :: rights => same left right && sameItems lefts rights
  | _, _ => false

/-- Whether two lists of fields are equal. -/
def sameFields : List (String × Json) → List (String × Json) → Bool
  | [], [] => true
  | (leftKey, left) :: lefts, (rightKey, right) :: rights =>
    leftKey == rightKey && same left right && sameFields lefts rights
  | _, _ => false

end

mutual

theorem same_iff : (left right : Json) → (same left right ↔ left = right)
  | .arr left, .arr right => by simp [same, sameItems_iff left right]
  | .obj left, .obj right => by simp [same, sameFields_iff left right]
  | .null, right => by cases right <;> simp [same]
  | .bool left, right => by cases right <;> simp [same]
  | .int left, right => by cases right <;> simp [same]
  | .real left, right => by cases right <;> simp [same]
  | .str left, right => by cases right <;> simp [same]
  | .arr left, .null | .arr left, .bool _ | .arr left, .int _ | .arr left, .real _
  | .arr left, .str _ | .arr left, .obj _ => by simp [same]
  | .obj left, .null | .obj left, .bool _ | .obj left, .int _ | .obj left, .real _
  | .obj left, .str _ | .obj left, .arr _ => by simp [same]

theorem sameItems_iff :
    (left right : List Json) → (sameItems left right ↔ left = right)
  | [], [] => by simp [sameItems]
  | [], _ :: _ | _ :: _, [] => by simp [sameItems]
  | left :: lefts, right :: rights => by
    simp [sameItems, same_iff left right, sameItems_iff lefts rights]

theorem sameFields_iff :
    (left right : List (String × Json)) → (sameFields left right ↔ left = right)
  | [], [] => by simp [sameFields]
  | [], _ :: _ | _ :: _, [] => by simp [sameFields]
  | (leftKey, left) :: lefts, (rightKey, right) :: rights => by
    simp [sameFields, same_iff left right, sameFields_iff lefts rights]

end

instance : DecidableEq Json := fun left right =>
  decidable_of_iff _ (same_iff left right)

end Json
end Questionnaire
