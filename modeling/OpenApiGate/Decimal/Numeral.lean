import OpenApiGate.Text.CodePoint

/-!
# Decimal numerals

A numeral is a list of significant digits together with the power of ten of
the first digit.  A layout says how a numeral is written: which powers of ten
are written positionally, whether a whole number shows its fraction, and how
wide an exponent is at least.
-/

namespace OpenApiGate.Decimal

/-- The number `d₁.d₂d₃… · 10 ^ scale`. -/
structure Numeral where
  /-- The significant digits, each below ten. -/
  digits : List Nat
  /-- The power of ten of the first digit. -/
  scale : Int
deriving DecidableEq

/-- The digits of a number, most significant first. -/
def digitsOf (number : Nat) : List Nat :=
  (Nat.toDigits 10 number).map fun digit => digit.toNat - 0x30

/-- The number that a list of digits spells. -/
def ofDigits (digits : List Nat) : Nat :=
  digits.foldl (fun number digit => number * 10 + digit) 0

/-- The numeral of a whole multiple of a power of ten, without trailing zeros. -/
def Numeral.ofScaled (coefficient : Nat) (power : Int) : Numeral :=
  let digits := digitsOf coefficient
  let significant := (digits.reverse.dropWhile (· == 0)).reverse
  if significant.isEmpty then ⟨[0], 0⟩
  else ⟨significant, power + (digits.length - 1 : Nat)⟩

/-- How numerals are written. -/
structure Layout where
  /-- The least power of ten that is written positionally. -/
  leastPositional : Int
  /-- Powers of ten from here on are written with an exponent. -/
  leastExponential : Int
  /-- Whether a whole number in positional form ends in `.0`. -/
  showsFraction : Bool
  /-- The least number of digits of an exponent. -/
  exponentWidth : Nat

/-- The text of digits. -/
def digitsText (digits : List Nat) : Text :=
  digits.map CodePoint.ofDigit

/-- Zeros that fill up a numeral. -/
def zeros (count : Nat) : Text :=
  List.replicate count (CodePoint.ofDigit 0)

/-- A numeral in positional form. -/
def Layout.positional
    (layout : Layout)
    (numeral : Numeral) :
    Text :=
  match numeral.scale with
  | .ofNat whole =>
    let wholeDigits := numeral.digits.take (whole + 1)
    let fraction := numeral.digits.drop (whole + 1)
    let wholeText := digitsText wholeDigits ++ zeros (whole + 1 - wholeDigits.length)
    if !fraction.isEmpty then wholeText ++ "." ++ digitsText fraction
    else if layout.showsFraction then wholeText ++ ".0"
    else wholeText
  | .negSucc leading => "0." ++ zeros leading ++ digitsText numeral.digits

/-- A numeral with an exponent. -/
def Layout.exponential
    (layout : Layout)
    (numeral : Numeral) :
    Text :=
  let fraction : Text :=
    if numeral.digits.length ≤ 1 then [] else "." ++ digitsText (numeral.digits.drop 1)
  let mark : Text := if numeral.scale < 0 then "e-" else "e+"
  let exponent := Text.ofNat numeral.scale.natAbs
  digitsText (numeral.digits.take 1) ++ fraction ++ mark ++
    zeros (layout.exponentWidth - exponent.length) ++ exponent

/-- A numeral as the layout writes it. -/
def Layout.render
    (layout : Layout)
    (numeral : Numeral) :
    Text :=
  if layout.leastPositional ≤ numeral.scale && numeral.scale < layout.leastExponential then
    layout.positional numeral
  else layout.exponential numeral

end OpenApiGate.Decimal
