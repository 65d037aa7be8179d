/-!
# Timestamps

An instant in Coordinated Universal Time, by the fields of the Gregorian calendar.
A leap second is the second after the 59th: it counts as the 59th with a billion
nanoseconds or more.
-/

namespace Questionnaire

/-- A day of the Gregorian calendar, year zero and negative years included. -/
structure Date where
  year : Int
  month : Nat
  day : Nat
  deriving DecidableEq

namespace Date

/-- Whether a year has a 29th of February. -/
def isLeap (year : Int) : Bool :=
  year % 4 = 0 && (year % 100 ≠ 0 || year % 400 = 0)

/-- The number of days of a month. -/
def daysIn (year : Int) (month : Nat) : Nat :=
  if month = 2 then (if isLeap year then 29 else 28)
  else if month = 4 ∨ month = 6 ∨ month = 9 ∨ month = 11 then 30
  else 31

/-- The years that are supported. -/
def SupportedYear (year : Int) : Prop :=
  -262143 ≤ year ∧ year ≤ 262142

instance (year : Int) : Decidable (SupportedYear year) :=
  inferInstanceAs (Decidable (_ ∧ _))

/-- Whether the fields name a day of a supported year. -/
def Valid (date : Date) : Prop :=
  SupportedYear date.year ∧ 1 ≤ date.month ∧ date.month ≤ 12 ∧
    1 ≤ date.day ∧ date.day ≤ daysIn date.year date.month

instance (date : Date) : Decidable date.Valid :=
  inferInstanceAs (Decidable (_ ∧ _))

/-- The day after. -/
def next (date : Date) : Date :=
  if date.day < daysIn date.year date.month then { date with day := date.day + 1 }
  else if date.month < 12 then ⟨date.year, date.month + 1, 1⟩
  else ⟨date.year + 1, 1, 1⟩

/-- The day before. -/
def previous (date : Date) : Date :=
  if 1 < date.day then { date with day := date.day - 1 }
  else if 1 < date.month then
    ⟨date.year, date.month - 1, daysIn date.year (date.month - 1)⟩
  else ⟨date.year - 1, 12, 31⟩

end Date

/-- A time of day, to the nanosecond. -/
structure TimeOfDay where
  hour : Nat
  minute : Nat
  second : Nat
  nanosecond : Nat
  deriving DecidableEq

namespace TimeOfDay

/-- The number of nanoseconds of a second. -/
def billion : Nat := 1000000000

/-- Whether the fields name a time; only the 59th second can be a leap second. -/
def Valid (time : TimeOfDay) : Prop :=
  time.hour < 24 ∧ time.minute < 60 ∧ time.second < 60 ∧
    time.nanosecond < (if time.second = 59 then 2 * billion else billion)

instance (time : TimeOfDay) : Decidable time.Valid :=
  inferInstanceAs (Decidable (_ ∧ _))

end TimeOfDay

/-- An instant in Coordinated Universal Time. -/
structure Timestamp where
  date : Date
  time : TimeOfDay
  dateValid : date.Valid
  timeValid : time.Valid
  deriving DecidableEq

namespace Timestamp

/-- The start of the year 1970. -/
def epoch : Timestamp :=
  ⟨⟨1970, 1, 1⟩, ⟨0, 0, 0, 0⟩, by decide, by decide⟩

instance : Inhabited Timestamp := ⟨epoch⟩

/-- The instant at a time of a day, if both are valid. -/
def of? (date : Date) (time : TimeOfDay) : Option Timestamp :=
  if valid : date.Valid ∧ time.Valid then some ⟨date, time, valid.1, valid.2⟩ else none

/-- The instant at a local time, where local time is `offset` minutes ahead. -/
def ofLocal? (date : Date) (time : TimeOfDay) (offset : Int) : Option Timestamp :=
  if date.Valid ∧ time.Valid then
    let minutes : Int := 60 * time.hour + time.minute - offset
    let ofDay := (minutes % 1440).toNat
    let shifted := { time with hour := ofDay / 60, minute := ofDay % 60 }
    if minutes < 0 then of? date.previous shifted
    else if 1440 ≤ minutes then of? date.next shifted
    else of? date shifted
  else none

end Timestamp
end Questionnaire
