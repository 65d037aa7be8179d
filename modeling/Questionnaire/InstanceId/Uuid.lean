import Questionnaire.Json.Reader

/-!
# Universally unique identifiers

An identifier is a number of 128 bits.  It is written as 32 lower-case hexadecimal
digits in groups of 8, 4, 4, 4 and 12 with hyphens between them.  It is read in either
case, with or without the hyphens, and the hyphenated form also in braces or as a
resource name.
-/

namespace Questionnaire

/-- An identifier of 128 bits. -/
structure Uuid where
  value : Nat
  bounded : value < 2 ^ 128
  deriving DecidableEq

namespace Uuid

/-- The lengths of the groups of digits. -/
def groupLengths : List Nat := [8, 4, 4, 4, 12]

/-- The lower-case hexadecimal digits of a number, in as many places as asked for. -/
def hexDigits (value : Nat) : (places : Nat) → List Char
  | 0 => []
  | places + 1 => hexDigits (value / 16) places ++ [Nat.digitChar (value % 16)]

/-- Join digits into groups of the given lengths. -/
def group (digits : List Char) : (lengths : List Nat) → List Char
  | [] => digits
  | [_] => digits
  | length :: rest => digits.take length ++ '-' :: group (digits.drop length) rest

/-- The text of an identifier. -/
def text (uuid : Uuid) : String :=
  String.ofList (group (hexDigits uuid.value 32) groupLengths)

/-- The digits of groups of the given lengths. -/
def ungroup? (text : List Char) : (lengths : List Nat) → Option (List Char)
  | [] => some text
  | [length] => if text.length = length then some text else none
  | length :: rest =>
    match text.drop length with
    | '-' :: later => (ungroup? later rest).map (text.take length ++ ·)
    | _ => none

/-- The identifier of 32 hexadecimal digits. -/
def ofDigits? (digits : List Char) : Option Uuid := do
  let values ← digits.mapM Json.Piece.hexValue?
  let value := values.foldl (fun value digit => 16 * value + digit) 0
  if bounded : digits.length = 32 ∧ value < 2 ^ 128 then some ⟨value, bounded.2⟩ else none

/-- The text inside braces. -/
def braced? (text : List Char) : Option (List Char) :=
  match text, text.reverse with
  | '\x7b' :: rest, '\x7d' :: _ => some (rest.take (rest.length - 1))
  | _, _ => none

/-- What a resource name of an identifier starts with, in either case. -/
def resourceMark : List Char := "urn:uuid:".toList

/-- The text of a resource name after its mark. -/
def resource? (text : List Char) : Option (List Char) :=
  if (text.take resourceMark.length).map Char.toLower = resourceMark then
    some (text.drop resourceMark.length)
  else none

/-- Read an identifier. -/
def ofText? (text : String) : Option Uuid :=
  let chars := text.toList
  if chars.length = 32 then ofDigits? chars
  else
    let hyphenated :=
      if chars.length = 36 then some chars
      else if chars.length = 38 then braced? chars
      else if chars.length = 45 then resource? chars
      else none
    hyphenated.bind fun chars => (ungroup? chars groupLengths).bind ofDigits?

end Uuid
end Questionnaire
