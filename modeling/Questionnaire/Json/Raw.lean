import Questionnaire.Json.Basic

/-!
# JSON texts as trees

A `Raw` tree is what a text says before it is taken for a value of some kind: the
members of an object stand in the order of the text, repeated keys included, and
what follows the grammar without naming a value is kept as unreadable.  Each
kind of data has its own reading of such a tree, and what a reading skips need
not be readable.
-/

namespace Questionnaire
namespace Json

/-- A JSON text as a tree. -/
inductive Raw where
  /-- A text without a value: a number too large for a binary64, a string with
  an unpaired surrogate, or an array or object nested too deeply. -/
  | unreadable
  | null
  | bool (value : Bool)
  | int (value : Int)
  | real (value : Binary64)
  | str (text : String)
  | arr (items : List Raw)
  /-- The members of an object; a key is absent where it is not readable. -/
  | obj (members : List (Option String × Raw))

mutual

/-- A value as a tree. -/
def toRaw : Json → Raw
  | .null => .null
  | .bool value => .bool value
  | .int value => .int value
  | .real value => .real value
  | .str text => .str text
  | .arr items => .arr (itemsToRaw items)
  | .obj fields => .obj (fieldsToRaw fields)

/-- Items as trees. -/
def itemsToRaw : List Json → List Raw
  | [] => []
  | item :: rest => item.toRaw :: itemsToRaw rest

/-- Fields as members. -/
def fieldsToRaw : List (String × Json) → List (Option String × Raw)
  | [] => []
  | (key, value) :: rest => (some key, value.toRaw) :: fieldsToRaw rest

end

namespace Raw

mutual

/-- Read free-form data; of a repeated key the last value counts. -/
def value? : Raw → Option Json
  | .unreadable => none
  | .null => some .null
  | .bool value => some (.bool value)
  | .int value => some (.int value)
  | .real value => some (.real value)
  | .str text => some (.str text)
  | .arr items => (items? items).map .arr
  | .obj members => (members? members).map .ofFields

/-- Read a list of items. -/
def items? : List Raw → Option (List Json)
  | [] => some []
  | item :: rest =>
    match item.value?, items? rest with
    | some value, some values => some (value :: values)
    | _, _ => none

/-- Read a list of members. -/
def members? : List (Option String × Raw) → Option (List (String × Json))
  | [] => some []
  | (key, member) :: rest =>
    match key, member.value?, members? rest with
    | some key, some value, some fields => some ((key, value) :: fields)
    | _, _, _ => none

end

/-- Read the fields of an object. -/
def fields? : Raw → Option Fields
  | .obj members => (members? members).map .ofList
  | _ => none

/-- Read a string. -/
def text? : Raw → Option String
  | .str text => some text
  | _ => none

/-- Read a truth value. -/
def flag? : Raw → Option Bool
  | .bool value => some value
  | _ => none

/-- Read an integer from zero up to, but not including, `bound`. -/
def natBelow? (bound : Nat) : Raw → Option Nat
  | .int value => value.toNat?.filter (· < bound)
  | _ => none

/-- Read a list, item by item. -/
def list? {α : Type} (item? : Raw → Option α) : Raw → Option (List α)
  | .arr items => items.mapM item?
  | _ => none

/-- The members of an object with their keys, if every key is readable. -/
def namedMembers? (members : List (Option String × Raw)) : Option (List (String × Raw)) :=
  members.mapM fun (member : Option String × Raw) => member.1.map (·, member.2)

/-- Read an object as a map; of a repeated key the last value counts. -/
def map? {α : Type} (value? : Raw → Option α) : Raw → Option (KeyMap α)
  | .obj members => do
    let named ← namedMembers? members
    let entries ← named.mapM fun (member : String × Raw) =>
      (value? member.2).map (member.1, ·)
    return .ofList entries
  | _ => none

/-- Read something that may be null. -/
def orNull? {α : Type} (value? : Raw → Option α) : Raw → Option (Option α)
  | .null => some none
  | raw => (value? raw).map some

/-- The member called `name`, which may be given once or not at all. -/
def atMostOnce? (members : List (String × Raw)) (name : String) : Option (Option Raw) :=
  match members.filter (·.1 = name) with
  | [] => some none
  | [(_, member)] => some (some member)
  | _ => none

/-- The fields of a record in the order of `names`.  A record is an object, whose
other members are skipped, or an array with at least `required` fields by position. -/
def record? (names : List String) (required : Nat) : Raw → Option (List (Option Raw))
  | .obj members => do
    let members ← namedMembers? members
    names.mapM (atMostOnce? members)
  | .arr items =>
    if required ≤ items.length ∧ items.length ≤ names.length then
      some (items.map some ++ List.replicate (names.length - items.length) none)
    else none
  | _ => none

/-- The name of a choice without data: a string, or an object with that one key
and null. -/
def choice? : Raw → Option String
  | .str name => some name
  | .obj [(some name, .null)] => some name
  | _ => none

end Raw
end Json
end Questionnaire
