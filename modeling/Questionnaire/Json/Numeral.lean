import Questionnaire.Json.Raw

/-!
# Numbers in JSON texts

A whole number between `-2 ^ 63` and `2 ^ 64 - 1` is an integer.  Every other
number, minus zero included, is a real: its leading digits, as many as stay
below `2 ^ 64`, are rounded to a binary64 and scaled by a power of ten.
-/

namespace Questionnaire
namespace Json

/-- A number as written: sign, whole part, fraction, and exponent with its sign. -/
structure Numeral where
  negative : Bool
  whole : List Char
  fraction : List Char
  exponent : Option (Bool × List Char)
  deriving DecidableEq

namespace Numeral

/-- Split off the digits at the start of a text; there must be one. -/
def readDigits (text : List Char) : Option (List Char × List Char) :=
  match text.takeWhile Char.isDigit with
  | [] => none
  | digits => some (digits, text.dropWhile Char.isDigit)

/-- Split off a whole part, which has no leading zero. -/
def readWhole (text : List Char) : Option (List Char × List Char) :=
  match readDigits text with
  | some ('0' :: _ :: _, _) => none
  | result => result

/-- Split off a fraction, if there is one. -/
def readFraction : List Char → Option (List Char × List Char)
  | '.' :: rest => readDigits rest
  | text => some ([], text)

/-- Split off the sign of an exponent. -/
def readSign : List Char → Bool × List Char
  | '-' :: rest => (true, rest)
  | '+' :: rest => (false, rest)
  | text => (false, text)

/-- Split off an exponent, if there is one. -/
def readExponent (text : List Char) : Option (Option (Bool × List Char) × List Char) :=
  match text with
  | 'e' :: rest | 'E' :: rest =>
    let (negative, rest) := readSign rest
    (readDigits rest).map fun (digits, rest) => (some (negative, digits), rest)
  | text => some (none, text)

/-- Split off a number without its sign. -/
def readUnsigned (negative : Bool) (text : List Char) : Option (Numeral × List Char) := do
  let (whole, text) ← readWhole text
  let (fraction, text) ← readFraction text
  let (exponent, text) ← readExponent text
  return (⟨negative, whole, fraction, exponent⟩, text)

/-- Split off a number. -/
def read : List Char → Option (Numeral × List Char)
  | '-' :: rest => readUnsigned true rest
  | text => readUnsigned false text

/-- Continue a number with as many digits as keep it below `2 ^ 64`; the digits
left over follow. -/
def absorb (value : Nat) : List Char → Nat × List Char
  | [] => (value, [])
  | digit :: rest =>
    let next := 10 * value + (digit.toNat - '0'.toNat)
    if next < 2 ^ 64 then absorb next rest else (value, digit :: rest)

/-- The real with the given sign, digits and exponent of ten. -/
def ofDecimal (negative : Bool) (digits : Nat) (exponent : Int) : Raw :=
  match Binary64.ofDecimal? digits exponent with
  | some rank => .real ⟨negative, rank⟩
  | none => .unreadable

/-- The value of an integer below `2 ^ 64` with a sign. -/
def ofInteger (negative : Bool) (digits : Nat) : Raw :=
  if !negative then .int digits
  else if 0 < digits ∧ digits ≤ 2 ^ 63 then .int (-digits)
  else ofDecimal true digits 0

/-- The largest exponent that is taken at its value. -/
def largestExponent : Nat := 2 ^ 31 - 1

/-- The value of a number. -/
def value (numeral : Numeral) : Raw :=
  let (digits, dropped) := absorb 0 numeral.whole
  let (all, unused) := absorb digits numeral.fraction
  let point : Int := dropped.length - (numeral.fraction.length - unused.length : Nat)
  match numeral.exponent with
  | none =>
    if dropped.isEmpty && numeral.fraction.isEmpty then ofInteger numeral.negative digits
    else ofDecimal numeral.negative all point
  | some (negativeExponent, exponentDigits) =>
    let exponent := Nat.ofDigitChars 10 exponentDigits 0
    if largestExponent < exponent then
      if all ≠ 0 ∧ !negativeExponent then .unreadable
      else .real ⟨numeral.negative, 0⟩
    else if negativeExponent then ofDecimal numeral.negative all (point - exponent)
    else ofDecimal numeral.negative all (point + exponent)

end Numeral
end Json
end Questionnaire
