import OpenApiGate.Decimal.Rounding

/-!
# Decimal forms of doubles

The fewest digits that read back as a double, and a double to a given number
of digits.  A positive double is `m · 2 ^ e`; the numbers that round to it
reach half way to its neighbours, and the ends belong to them when `m` is even.
-/

namespace OpenApiGate.Decimal

open Float.Model (UnpackedFloat)

/-- The numbers that round to the double `mantissa · 2 ^ exponent`. -/
def roundingInterval
    (mantissa : Nat)
    (exponent : Int) :
    Interval :=
  let isBinade := mantissa = 0x10000000000000 && exponent != -1074
  { low := Quotient.ofBinary (4 * mantissa - if isBinade then 1 else 2) (exponent - 2)
    high := Quotient.ofBinary (4 * mantissa + 2) (exponent - 2)
    closed := mantissa % 2 == 0 }

/-- A double as a sign and a numeral, or the text of a double that is no number. -/
inductive DoubleForm where
  | numeral (negative : Bool) (value : Numeral)
  | word (text : Text)

/-- The form of a double, given the numeral of a positive one. -/
def doubleForm
    (positive : Nat → Int → Numeral)
    (double : Float) :
    DoubleForm :=
  match double.toModel.unpack with
  | .notANumber => .word "nan"
  | .infinity .positive => .word "inf"
  | .infinity .negative => .word "-inf"
  | .zero .positive => .numeral false ⟨[0], 0⟩
  | .zero .negative => .numeral true ⟨[0], 0⟩
  | .finite .positive mantissa exponent _ => .numeral false (positive mantissa exponent)
  | .finite .negative mantissa exponent _ => .numeral true (positive mantissa exponent)

/-- The fewest digits that read back as a double. -/
def shortestForm : Float → DoubleForm :=
  doubleForm fun mantissa exponent =>
    (roundingInterval mantissa exponent).shortest (Quotient.ofBinary mantissa exponent) 17

/-- A double to `count` significant digits. -/
def significantForm (count : Nat) : Float → DoubleForm :=
  doubleForm fun mantissa exponent =>
    (Quotient.ofBinary mantissa exponent).significant count

/-- The text of a form in a layout. -/
def DoubleForm.render
    (layout : Layout) :
    DoubleForm → Text
  | .word text => text
  | .numeral false value => layout.render value
  | .numeral true value => "-" ++ layout.render value

/-- The integer that a double without a fraction stands for. -/
def wholeValue? (double : Float) : Option Int :=
  match double.toModel.unpack with
  | .zero _ => some 0
  | .finite sign mantissa exponent _ =>
    let signed (magnitude : Nat) : Int :=
      match sign with
      | .positive => magnitude
      | .negative => -magnitude
    match exponent with
    | .ofNat power => some (signed (mantissa * Nat.pow 2 power))
    | .negSucc power =>
      let unit := Nat.pow 2 (power + 1)
      if mantissa % unit = 0 then some (signed (mantissa / unit)) else none
  | _ => none

/-- The layout of doubles in messages and values: positional from 0.0001 up to below 1e16. -/
def plainLayout : Layout where
  leastPositional := -4
  leastExponential := 16
  showsFraction := true
  exponentWidth := 2

/-- The layout of limits: six digits, positional from 0.0001 up to below a million. -/
def limitLayout : Layout where
  leastPositional := -4
  leastExponential := 6
  showsFraction := false
  exponentWidth := 2

/-- The layout of doubles in JSON reports: positional from 0.00001 up to below 1e16. -/
def reportLayout : Layout where
  leastPositional := -5
  leastExponential := 16
  showsFraction := true
  exponentWidth := 1

/-- A double in its fewest digits. -/
def plain (double : Float) : Text :=
  (shortestForm double).render plainLayout

/-- A double to six digits. -/
def limit (double : Float) : Text :=
  (significantForm 6 double).render limitLayout

end OpenApiGate.Decimal
