import OpenApiGate.Decimal.Numeral

/-!
# Rounding to decimal digits

A positive rational number is rounded to a given number of significant digits,
or to the fewest digits that stay within a given interval around it.  All
comparisons are exact: numbers are quotients of natural numbers.
-/

namespace OpenApiGate.Decimal

/-- A nonnegative rational number as a quotient. -/
structure Quotient where
  numerator : Nat
  /-- The denominator; it is positive wherever a quotient is built. -/
  denominator : Nat

namespace Quotient

/-- The product of a natural number and a power of ten. -/
def ofScaled (coefficient : Nat) (power : Int) : Quotient :=
  match power with
  | .ofNat exponent => ⟨coefficient * Nat.pow 10 exponent, 1⟩
  | .negSucc exponent => ⟨coefficient, Nat.pow 10 (exponent + 1)⟩

/-- The product of a natural number and a power of two. -/
def ofBinary (coefficient : Nat) (power : Int) : Quotient :=
  match power with
  | .ofNat exponent => ⟨coefficient * Nat.pow 2 exponent, 1⟩
  | .negSucc exponent => ⟨coefficient, Nat.pow 2 (exponent + 1)⟩

/-- The order of the numbers that two quotients stand for. -/
def compare (left right : Quotient) : Ordering :=
  Ord.compare (left.numerator * right.denominator) (right.numerator * left.denominator)

/-- A quotient divided by a power of ten. -/
def dividedByPower (quotient : Quotient) (power : Int) : Quotient :=
  match power with
  | .ofNat exponent => ⟨quotient.numerator, quotient.denominator * Nat.pow 10 exponent⟩
  | .negSucc exponent =>
    ⟨quotient.numerator * Nat.pow 10 (exponent + 1), quotient.denominator⟩

/-- The greatest whole number that is not above the quotient. -/
def floor (quotient : Quotient) : Nat :=
  quotient.numerator / quotient.denominator

/-- Twice the distance to the floor against one: below, at or above the half. -/
def half (quotient : Quotient) : Ordering :=
  Ord.compare (2 * (quotient.numerator % quotient.denominator)) quotient.denominator

/-- The nearest whole number; a tie goes to the even neighbour. -/
def roundEven (quotient : Quotient) : Nat :=
  match quotient.half with
  | .lt => quotient.floor
  | .gt => quotient.floor + 1
  | .eq => quotient.floor + quotient.floor % 2

/-- The power of ten of the leading digit of a positive quotient. -/
def magnitude (quotient : Quotient) : Int :=
  if quotient.denominator ≤ quotient.numerator then
    ((digitsOf quotient.floor).length - 1 : Nat)
  else
    let inverse := quotient.denominator / quotient.numerator
    let length := (digitsOf inverse).length
    let isExact := quotient.denominator % quotient.numerator == 0
    if inverse = Nat.pow 10 (length - 1) && isExact then
      -((length - 1 : Nat) : Int)
    else -(length : Int)

/-- A positive quotient to `count` significant digits; a tie goes to the even digit. -/
def significant
    (quotient : Quotient)
    (count : Nat) :
    Numeral :=
  let power := quotient.magnitude - (count : Int) + 1
  Numeral.ofScaled (quotient.dividedByPower power).roundEven power

end Quotient

/-- An interval of positive numbers. -/
structure Interval where
  low : Quotient
  high : Quotient
  /-- Whether the ends belong to the interval. -/
  closed : Bool

/-- Whether a number lies in an interval. -/
def Interval.contains
    (interval : Interval)
    (quotient : Quotient) :
    Bool :=
  match interval.low.compare quotient, quotient.compare interval.high with
  | .lt, .lt => true
  | .eq, .lt | .lt, .eq => interval.closed
  | _, _ => false

/--
The multiple of `10 ^ power` next to a quotient that lies in the interval: the
nearer one of two, and the even one if both are as near.
-/
def Interval.neighbour?
    (interval : Interval)
    (quotient : Quotient)
    (power : Int) :
    Option Nat :=
  let scaled := quotient.dividedByPower power
  let below := scaled.floor
  let lower := interval.contains (Quotient.ofScaled below power)
  let upper := interval.contains (Quotient.ofScaled (below + 1) power)
  match lower, upper with
  | true, true => some scaled.roundEven
  | true, false => some below
  | false, true => some (below + 1)
  | false, false => none

/--
The numeral with the fewest digits in an interval around a positive quotient,
and the nearest one of these.  Numerals of up to `most` digits are tried.
-/
def Interval.shortest
    (interval : Interval)
    (quotient : Quotient)
    (most : Nat) :
    Numeral :=
  let magnitude := quotient.magnitude
  let candidate (count : Nat) : Option Numeral :=
    let power := magnitude - (count : Int)
    (interval.neighbour? quotient power).map fun coefficient =>
      Numeral.ofScaled coefficient power
  ((List.range most).findSome? candidate).getD (quotient.significant most)

end OpenApiGate.Decimal
