import Questionnaire.Json.Basic
import Questionnaire.Binary64.Shortest

/-!
# The text of a JSON value

Values are written without blanks, the fields of an object in the order in
which they stand.  A string escapes quotes, backslashes and the characters below
U+0020, the usual five of these by a letter; every other character stands for
itself.
-/

namespace Questionnaire
namespace Json

/-- The lower-case hexadecimal digit of a number below sixteen. -/
def hexDigit (value : Nat) : Char :=
  Nat.digitChar value

/-- The text of a control character. -/
def controlText (char : Char) : List Char :=
  match char with
  | '\x08' => ['\\', 'b']
  | '\x09' => ['\\', 't']
  | '\x0a' => ['\\', 'n']
  | '\x0c' => ['\\', 'f']
  | '\x0d' => ['\\', 'r']
  | _ => ['\\', 'u', '0', '0', hexDigit (char.toNat / 16), hexDigit (char.toNat % 16)]

/-- The text of a character inside a string. -/
def charText (char : Char) : List Char :=
  if char = '"' then ['\\', '"']
  else if char = '\\' then ['\\', '\\']
  else if char.toNat < 0x20 then controlText char
  else [char]

/-- The text of a string. -/
def stringText (text : String) : List Char :=
  '"' :: text.toList.flatMap charText ++ ['"']

/-- The text of an integer. -/
def intText (value : Int) : List Char :=
  (if value < 0 then ['-'] else []) ++ Nat.toDigits 10 value.natAbs

mutual

/-- The text of a value. -/
def render : Json → List Char
  | .null => ['n', 'u', 'l', 'l']
  | .bool true => ['t', 'r', 'u', 'e']
  | .bool false => ['f', 'a', 'l', 's', 'e']
  | .int value => intText value
  | .real value => value.render
  | .str text => stringText text
  | .arr items => '[' :: renderItems items ++ [']']
  | .obj fields => '\x7b' :: renderFields fields ++ ['\x7d']

/-- The texts of items, separated by commas. -/
def renderItems : List Json → List Char
  | [] => []
  | [item] => render item
  | item :: rest => render item ++ ',' :: renderItems rest

/-- The texts of fields, separated by commas. -/
def renderFields : List (String × Json) → List Char
  | [] => []
  | [(key, value)] => stringText key ++ ':' :: render value
  | (key, value) :: rest =>
    stringText key ++ ':' :: render value ++ ',' :: renderFields rest

end

/-- The text of a value as a string. -/
def text (value : Json) : String :=
  String.ofList value.render

end Json
end Questionnaire
