/-!
# Finite binary64 numbers

A finite binary64 number is a sign and a rank: the number of binary64 numbers
above zero up to its magnitude.  Counted in units of `2 ^ (-1074)`, the least
positive magnitude, every magnitude is a natural number, so rounding, products
and quotients are exact arithmetic followed by one rounding to the nearest
number, a tie going to the even neighbour.
-/

-- Powers are the built-in ones, also where a module knows of powers in any monoid.
attribute [instance (high), default_instance (high + 1)] instPowNat

namespace Questionnaire

/-- A finite binary64 number: its sign and the rank of its magnitude. -/
structure Binary64 where
  negative : Bool
  rank : Nat
  deriving DecidableEq

namespace Binary64

/-- The number of finite magnitudes. -/
def rankLimit : Nat := 2047 * 2 ^ 52

/-- How many units of `2 ^ (-1074)` separate a magnitude from the next one, as
the exponent of a power of two. -/
def stepExponent (rank : Nat) : Nat :=
  rank / 2 ^ 52 - 1

/-- The significand of a magnitude: how many of its steps make it up. -/
def significand (rank : Nat) : Nat :=
  if rank < 2 ^ 52 then rank else 2 ^ 52 + rank % 2 ^ 52

/-- The magnitude of a rank in units of `2 ^ (-1074)`. -/
def units (rank : Nat) : Nat :=
  significand rank * 2 ^ stepExponent rank

/-- The integer nearest to a quotient, a tie going to the even one. -/
def roundQuotient (numerator denominator : Nat) : Nat :=
  let floor := numerator / denominator
  let twice := 2 * (numerator % denominator)
  if twice < denominator ∨ (twice = denominator ∧ floor % 2 = 0) then floor
  else floor + 1

/-- The rank of the magnitude nearest to a quotient; beyond `rankLimit` when
the quotient is too large. -/
def nearestRank (numerator denominator : Nat) : Nat :=
  let scaled := numerator * 2 ^ 1074
  let step := (scaled / denominator).log2 - 52
  step * 2 ^ 52 + roundQuotient scaled (denominator * 2 ^ step)

/-- The rank of a power of ten. -/
def powerOfTen (exponent : Nat) : Nat :=
  nearestRank (10 ^ exponent) 1

/-- The largest exponent whose power of ten is finite. -/
def largestPower : Nat := 308

/-- The rounded product of two magnitudes. -/
def product (left right : Nat) : Nat :=
  nearestRank (units left * units right) (2 ^ 2148)

/-- The rounded quotient of two magnitudes. -/
def quotient (left right : Nat) : Nat :=
  nearestRank (units left) (units right)

/-- Divide a magnitude by a power of ten, as many times by the largest finite
power as needed. -/
def dividedByTens (rank exponent : Nat) : Nat :=
  if exponent ≤ largestPower then quotient rank (powerOfTen exponent)
  else if rank = 0 then 0
  else dividedByTens (quotient rank (powerOfTen largestPower)) (exponent - largestPower)
termination_by exponent
decreasing_by simp [largestPower] at *; omega

/-- Multiply a magnitude by a power of ten; none if the product is not finite. -/
def timesTens? (rank exponent : Nat) : Option Nat :=
  if exponent ≤ largestPower then
    let scaled := product rank (powerOfTen exponent)
    if scaled < rankLimit then some scaled else none
  else if rank = 0 then some 0
  else none

/-- The magnitude of `digits * 10 ^ exponent`: the digits are rounded first, and
the result of scaling them is rounded again. -/
def ofDecimal? (digits : Nat) (exponent : Int) : Option Nat :=
  let rank := nearestRank digits 1
  if exponent < 0 then some (dividedByTens rank exponent.natAbs)
  else timesTens? rank exponent.natAbs

end Binary64
end Questionnaire
