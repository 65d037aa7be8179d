import Questionnaire.Binary64.Basic

/-!
# The shortest decimal of a binary64 number

A number is written with the fewest decimal digits that read back as the same
number, and of those decimals the one nearest to it.  Positional notation is
used while the decimal point stays within or near the digits.
-/

namespace Questionnaire
namespace Binary64

/-- A decimal `digits * 10 ^ exponent`. -/
structure Decimal where
  digits : Nat
  exponent : Int
  deriving DecidableEq

/-- An exponent of ten below that of every finite number's last digit. -/
def exponentFloor : Nat := 400

/-- The gap from a magnitude up to the midpoint with the next one, in quarters
of a unit. -/
def upperGap (rank : Nat) : Nat :=
  2 * 2 ^ stepExponent rank

/-- The gap from a magnitude down to the midpoint with the one before it, in
quarters of a unit: half as wide where the steps become smaller below. -/
def lowerGap (rank : Nat) : Nat :=
  if rank % 2 ^ 52 = 0 ∧ 1 < rank / 2 ^ 52 then 2 ^ stepExponent rank
  else 2 * 2 ^ stepExponent rank

/-- Whether the decimal `digits * 10 ^ (exponent - exponentFloor)` rounds to the
magnitude of `rank`; a midpoint does so exactly when the significand is even. -/
def roundsTo (rank digits exponent : Nat) : Bool :=
  let candidate := digits * 10 ^ exponent * (4 * 2 ^ 1074)
  let lower := (4 * units rank - lowerGap rank) * 10 ^ exponentFloor
  let upper := (4 * units rank + upperGap rank) * 10 ^ exponentFloor
  if significand rank % 2 = 0 then lower ≤ candidate && candidate ≤ upper
  else lower < candidate && candidate < upper

/-- The decimal on one grid that rounds to the magnitude of `rank`, the nearer
of its two neighbours if both do. -/
def onGrid? (rank exponent : Nat) : Option Nat :=
  let numerator := units rank * 10 ^ exponentFloor
  let denominator := 2 ^ 1074 * 10 ^ exponent
  let below := numerator / denominator
  let nearest := roundQuotient numerator denominator
  let other := if nearest = below then below + 1 else below
  if roundsTo rank nearest exponent then some nearest
  else if roundsTo rank other exponent then some other
  else none

/-- The first grid, from the coarsest on, that holds a decimal of the number. -/
def search (rank leading : Nat) : Nat → Decimal
  | 0 => ⟨0, 0⟩
  | grids + 1 =>
    let exponent := leading + grids + 1 - 17
    match onGrid? rank exponent with
    | some digits => ⟨digits, exponent - exponentFloor⟩
    | none => search rank leading grids

/-- The shortest decimal of a magnitude. -/
def shortest (rank : Nat) : Decimal :=
  if rank = 0 then ⟨0, 0⟩
  else
    let whole := units rank * 10 ^ exponentFloor / 2 ^ 1074
    let leading := (Nat.toDigits 10 whole).length - 1
    search rank leading 17

/-- Drop the zeros at the end of a decimal's digits. -/
def Decimal.trim (decimal : Decimal) : List Char × Int :=
  let digits := Nat.toDigits 10 decimal.digits
  let kept := (digits.reverse.dropWhile (· = '0')).reverse
  (kept, decimal.exponent + (digits.length - kept.length : Nat))

/-- The text of an exponent of ten, always with its sign. -/
def exponentText (exponent : Int) : List Char :=
  (if exponent < 0 then '-' else '+') :: Nat.toDigits 10 exponent.natAbs

/-- The text of a magnitude given by its digits without trailing zeros: a whole
number below `10 ^ 16` keeps one decimal place, a fraction down to `10 ^ (-5)` is
positional, and everything else has one digit before the point and an exponent. -/
def magnitudeText (digits : List Char) (exponent : Int) : List Char :=
  let count : Int := digits.length
  let point := count + exponent
  if 0 ≤ exponent ∧ point ≤ 16 then
    digits ++ List.replicate exponent.toNat '0' ++ ['.', '0']
  else if 0 < point ∧ point ≤ 16 then
    digits.take point.toNat ++ '.' :: digits.drop point.toNat
  else if -5 < point ∧ point ≤ 0 then
    '0' :: '.' :: List.replicate (-point).toNat '0' ++ digits
  else
    digits.take 1 ++ (if 1 < digits.length then '.' :: digits.drop 1 else [])
      ++ 'e' :: exponentText (point - 1)

/-- The text of a number. -/
def render (number : Binary64) : List Char :=
  let magnitude :=
    if number.rank = 0 then ['0', '.', '0']
    else
      let (digits, exponent) := (shortest number.rank).trim
      magnitudeText digits exponent
  if number.negative then '-' :: magnitude else magnitude

end Binary64
end Questionnaire
