import Questionnaire.Timestamp.Basic

/-!
# Timestamps as texts

Timestamps are written in UTC, with as many decimals of the second, in groups of
three, as it takes.  They are read leniently: blanks may stand between the
fields, fields need no leading zeros, and the offset from UTC may be spelled in
several ways.
-/

namespace Questionnaire
namespace Timestamp

/-! ## Writing -/

/-- A number with zeros in front up to `width` digits. -/
def padded (width number : Nat) : List Char :=
  let digits := Nat.toDigits 10 number
  List.replicate (width - digits.length) '0' ++ digits

/-- The text of a year: four digits, with a sign where these do not suffice. -/
def yearText (year : Int) : List Char :=
  if 0 ≤ year ∧ year ≤ 9999 then padded 4 year.natAbs
  else (if year < 0 then '-' else '+') :: padded 4 year.natAbs

/-- The decimals of a second: none, three, six or nine, whatever suffices. -/
def fractionText (nanosecond : Nat) : List Char :=
  if nanosecond = 0 then []
  else if nanosecond % 1000000 = 0 then '.' :: padded 3 (nanosecond / 1000000)
  else if nanosecond % 1000 = 0 then '.' :: padded 6 (nanosecond / 1000)
  else '.' :: padded 9 nanosecond

/-- The text of a time of day; a leap second is written as the second 60. -/
def timeText (time : TimeOfDay) : List Char :=
  padded 2 time.hour ++ ':' :: padded 2 time.minute ++ ':' ::
    padded 2 (time.second + time.nanosecond / TimeOfDay.billion)
      ++ fractionText (time.nanosecond % TimeOfDay.billion)

/-- The text of a day. -/
def dateText (date : Date) : List Char :=
  yearText date.year ++ '-' :: padded 2 date.month ++ '-' :: padded 2 date.day

/-- The text of a timestamp. -/
def render (timestamp : Timestamp) : List Char :=
  dateText timestamp.date ++ 'T' :: timeText timestamp.time ++ ['Z']

/-- The text of a timestamp as a string. -/
def text (timestamp : Timestamp) : String :=
  String.ofList timestamp.render

/-! ## Reading -/

/-- Whether a character is white space. -/
def isSpace (char : Char) : Bool :=
  let code := char.toNat
  (9 ≤ code && code ≤ 13) || code = 0x20 || code = 0x85 || code = 0xA0 ||
    code = 0x1680 || (0x2000 ≤ code && code ≤ 0x200A) || code = 0x2028 ||
    code = 0x2029 || code = 0x202F || code = 0x205F || code = 0x3000

/-- A text without the white space at its start. -/
def skipSpaces (text : List Char) : List Char :=
  text.dropWhile isSpace

/-- Split off a character that must come next. -/
def expect (char : Char) : List Char → Option (List Char)
  | [] => none
  | first :: rest => if first = char then some rest else none

/-- Split off a number of one digit up to `width` digits. -/
def readNumber (width : Nat) (text : List Char) : Option (Nat × List Char) :=
  match (text.take width).takeWhile Char.isDigit with
  | [] => none
  | digits => some (Nat.ofDigitChars 10 digits 0, text.drop digits.length)

/-- Split off a year: up to four digits, or any number of them after a sign. -/
def readYear : List Char → Option (Int × List Char)
  | '-' :: rest => (readNumber rest.length rest).map fun (year, rest) => (-(year : Int), rest)
  | '+' :: rest => (readNumber rest.length rest).map fun (year, rest) => ((year : Int), rest)
  | text => (readNumber 4 text).map fun (year, rest) => ((year : Int), rest)

/-- Split off a field of one or two digits, with white space before it. -/
def readField (text : List Char) : Option (Nat × List Char) :=
  readNumber 2 (skipSpaces text)

/-- Split off a mark, with white space before it, and the field after it. -/
def readMarked (mark : Char) (text : List Char) : Option (Nat × List Char) :=
  (expect mark (skipSpaces text)).bind readField

/-- Split off a day. -/
def readDate (text : List Char) : Option (Date × List Char) := do
  let (year, text) ← readYear (skipSpaces text)
  let (month, text) ← readMarked '-' text
  let (day, text) ← readMarked '-' text
  return (⟨year, month, day⟩, text)

/-- Split off the mark between a day and a time. -/
def readSeparator : List Char → Option (List Char)
  | 'T' :: rest | 't' :: rest | ' ' :: rest => some rest
  | _ => none

/-- Split off decimals of a second, in nanoseconds; those after the ninth are dropped. -/
def readFraction : List Char → Option (Nat × List Char)
  | '.' :: rest =>
    match rest.takeWhile Char.isDigit with
    | [] => none
    | digits =>
      let kept := digits.take 9
      some (Nat.ofDigitChars 10 kept 0 * 10 ^ (9 - kept.length), rest.dropWhile Char.isDigit)
  | text => some (0, text)

/-- The time of day with a leap second in place of the second 60. -/
def timeOf (hour minute second nanosecond : Nat) : TimeOfDay :=
  if second = 60 then ⟨hour, minute, 59, TimeOfDay.billion + nanosecond⟩
  else ⟨hour, minute, second, nanosecond⟩

/-- Split off a time of day. -/
def readTime (text : List Char) : Option (TimeOfDay × List Char) := do
  let (hour, text) ← readField text
  let (minute, text) ← readMarked ':' text
  let (second, text) ← readMarked ':' text
  let (nanosecond, text) ← readFraction text
  return (timeOf hour minute second nanosecond, text)

/-- Split off two digits. -/
def readPair : List Char → Option (Nat × List Char)
  | tens :: ones :: rest =>
    if tens.isDigit && ones.isDigit then some (Nat.ofDigitChars 10 [tens, ones] 0, rest)
    else none
  | _ => none

/-- Split off the hours and minutes of an offset, in minutes; colons and white
space may stand between them. -/
def readOffsetMinutes (text : List Char) : Option (Nat × List Char) := do
  let (hours, text) ← readPair text
  let (minutes, text) ← readPair (text.dropWhile fun char => char = ':' || isSpace char)
  if minutes < 60 then return (60 * hours + minutes, text) else none

/-- Split off an offset from UTC, in minutes. -/
def readOffset : List Char → Option (Int × List Char)
  | 'Z' :: rest | 'z' :: rest => some (0, rest)
  | '+' :: rest =>
    (readOffsetMinutes rest).map fun (minutes, rest) => ((minutes : Int), rest)
  | '-' :: rest | '\u2212' :: rest =>
    (readOffsetMinutes rest).map fun (minutes, rest) => (-(minutes : Int), rest)
  | first :: second :: third :: rest =>
    if first.toUpper = 'U' ∧ second.toUpper = 'T' ∧ third.toUpper = 'C' then some (0, rest)
    else none
  | _ => none

/-- Read a timestamp. -/
def ofChars? (text : List Char) : Option Timestamp := do
  let (date, text) ← readDate text
  let text ← readSeparator text
  let (time, text) ← readTime text
  let (offset, text) ← readOffset (skipSpaces text)
  if (skipSpaces text).isEmpty && offset.natAbs < 1440 then ofLocal? date time offset
  else none

/-- Read a timestamp. -/
def ofText? (text : String) : Option Timestamp :=
  ofChars? text.toList

end Timestamp
end Questionnaire
