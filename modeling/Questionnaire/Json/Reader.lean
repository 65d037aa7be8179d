import Questionnaire.Json.Numeral

/-!
# Reading JSON texts

The grammar is strict: no comments, no trailing commas, no bare control
characters, and nothing but blanks around the one value of a text.
-/

namespace Questionnaire
namespace Json

/-- Blanks between the parts of a text: space, tab, line feed and carriage return. -/
def isBlank (char : Char) : Bool :=
  char = ' ' || char = '\t' || char = '\n' || char = '\r'

/-- A text without the blanks at its start. -/
def skipBlanks (text : List Char) : List Char :=
  text.dropWhile isBlank

/-! ## Strings -/

/-- A part of a string as written: a character, or one half of a surrogate pair
given by its ten bits. -/
inductive Piece where
  | char (value : Char)
  | high (bits : Nat)
  | low (bits : Nat)
  deriving DecidableEq

namespace Piece

/-- The value of a hexadecimal digit. -/
def hexValue? (char : Char) : Option Nat :=
  if char.isDigit then some (char.toNat - '0'.toNat)
  else if 'a' ≤ char ∧ char ≤ 'f' then some (char.toNat - 'a'.toNat + 10)
  else if 'A' ≤ char ∧ char ≤ 'F' then some (char.toNat - 'A'.toNat + 10)
  else none

/-- The value of four hexadecimal digits. -/
def hexCode? (first second third fourth : Char) : Option Nat := do
  return (((← hexValue? first) * 16 + (← hexValue? second)) * 16
    + (← hexValue? third)) * 16 + (← hexValue? fourth)

/-- The part that an escaped code unit stands for. -/
def ofCode (code : Nat) : Piece :=
  if 0xD800 ≤ code ∧ code < 0xDC00 then .high (code - 0xD800)
  else if 0xDC00 ≤ code ∧ code < 0xE000 then .low (code - 0xDC00)
  else .char (Char.ofNat code)

/-- The character that a letter stands for after a backslash. -/
def escaped? : Char → Option Char
  | '"' => some '"'
  | '\\' => some '\\'
  | '/' => some '/'
  | 'b' => some '\x08'
  | 'f' => some '\x0c'
  | 'n' => some '\x0a'
  | 'r' => some '\x0d'
  | 't' => some '\x09'
  | _ => none

/-- The parts of a string up to its closing quote, and the text after it. -/
def readAll : List Char → Option (List Piece × List Char)
  | [] => none
  | first :: rest =>
    if first = '"' then some ([], rest)
    else if first = '\\' then
      match rest with
      | 'u' :: a :: b :: c :: d :: rest =>
        match hexCode? a b c d, readAll rest with
        | some code, some (pieces, rest) => some (ofCode code :: pieces, rest)
        | _, _ => none
      | letter :: rest =>
        match escaped? letter, readAll rest with
        | some value, some (pieces, rest) => some (.char value :: pieces, rest)
        | _, _ => none
      | [] => none
    else if first.toNat < 0x20 then none
    else (readAll rest).map fun (pieces, rest) => (.char first :: pieces, rest)

/-- The characters of a string; none if a surrogate stands without its partner. -/
def chars? : List Piece → Option (List Char)
  | [] => some []
  | .char value :: rest => (chars? rest).map (value :: ·)
  | .high upper :: .low lower :: rest =>
    (chars? rest).map (Char.ofNat (0x10000 + upper * 0x400 + lower) :: ·)
  | _ => none

end Piece

/-- Read a string after its opening quote; its text is absent if unreadable. -/
def readString (text : List Char) : Option (Option String × List Char) :=
  (Piece.readAll text).map fun (pieces, rest) =>
    ((Piece.chars? pieces).map String.ofList, rest)

/-! ## Values -/

/-- How many arrays and objects may be nested. -/
def depthLimit : Nat := 127

/-- An array or object inside `depth` others, unreadable beyond the limit. -/
def nested (depth : Nat) (container : Raw) : Raw :=
  if depth < depthLimit then container else .unreadable

/-- Split off one of the names that are values. -/
def readName : List Char → Option (Raw × List Char)
  | 'n' :: 'u' :: 'l' :: 'l' :: rest => some (.null, rest)
  | 't' :: 'r' :: 'u' :: 'e' :: rest => some (.bool true, rest)
  | 'f' :: 'a' :: 'l' :: 's' :: 'e' :: rest => some (.bool false, rest)
  | _ => none

/-- Split off a name or a number. -/
def readPlain (text : List Char) : Option (Raw × List Char) :=
  match readName text with
  | some result => some result
  | none => (Numeral.read text).map fun (numeral, rest) => (numeral.value, rest)

mutual

/-- Read a value inside `depth` arrays and objects. -/
def readValue : (fuel depth : Nat) → List Char → Option (Raw × List Char)
  | 0, _, _ => none
  | fuel + 1, depth, text =>
    match skipBlanks text with
    | [] => none
    | first :: rest =>
      if first = '"' then
        (readString rest).map fun (text, rest) => (text.elim .unreadable .str, rest)
      else if first = '[' then
        match skipBlanks rest with
        | ']' :: rest => some (nested depth (.arr []), rest)
        | rest =>
          (readItems fuel (depth + 1) rest).map fun (items, rest) =>
            (nested depth (.arr items), rest)
      else if first = '\x7b' then
        match skipBlanks rest with
        | '\x7d' :: rest => some (nested depth (.obj []), rest)
        | rest =>
          (readMembers fuel (depth + 1) rest).map fun (members, rest) =>
            (nested depth (.obj members), rest)
      else readPlain (first :: rest)

/-- Read the items of an array and its closing bracket. -/
def readItems : (fuel depth : Nat) → List Char → Option (List Raw × List Char)
  | 0, _, _ => none
  | fuel + 1, depth, text =>
    match readValue fuel depth text with
    | none => none
    | some (item, rest) =>
      match skipBlanks rest with
      | ']' :: rest => some ([item], rest)
      | ',' :: rest =>
        (readItems fuel depth rest).map fun (items, rest) => (item :: items, rest)
      | _ => none

/-- Read the members of an object and its closing brace. -/
def readMembers :
    (fuel depth : Nat) → List Char → Option (List (Option String × Raw) × List Char)
  | 0, _, _ => none
  | fuel + 1, depth, text =>
    match skipBlanks text with
    | '"' :: rest =>
      match readString rest with
      | none => none
      | some (key, rest) =>
        match skipBlanks rest with
        | ':' :: rest =>
          match readValue fuel depth rest with
          | none => none
          | some (member, rest) =>
            match skipBlanks rest with
            | '\x7d' :: rest => some ([(key, member)], rest)
            | ',' :: rest =>
              (readMembers fuel depth rest).map fun (members, rest) =>
                ((key, member) :: members, rest)
            | _ => none
        | _ => none
    | _ => none

end

/-- Read a whole text. -/
def Raw.ofText? (text : String) : Option Raw :=
  let chars := text.toList
  match readValue (2 * chars.length + 2) 0 chars with
  | some (raw, rest) => if (skipBlanks rest).isEmpty then some raw else none
  | none => none

/-- Read a whole text as free-form data. -/
def ofText? (text : String) : Option Json :=
  (Raw.ofText? text).bind Raw.value?

end Json
end Questionnaire
