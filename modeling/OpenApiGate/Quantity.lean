import OpenApiGate.Decimal.Double

/-!
# Quantities

A limit is a whole number or a double.  Both forms occur on their own: a whole
number is shown without a fraction.
-/

namespace OpenApiGate

/-- A whole number or a double. -/
inductive Quantity where
  | whole (number : Int)
  | real (number : Float)

namespace Quantity

/-- The double nearest to a quantity. -/
def toDouble : Quantity → Float
  | .whole number => Float.ofInt number
  | .real number => number

/-- A quantity in full. -/
def plain : Quantity → Text
  | .whole number => Text.ofInt number
  | .real number => Decimal.plain number

/-- A size is larger than the quantity; no size is larger than what is no number. -/
def isExceededBy
    (quantity : Quantity)
    (size : Float) :
    Bool :=
  decide (quantity.toDouble < size)

/-- A quantity to six digits, unless it is a whole number beyond all doubles. -/
def limit? : Quantity → Option Text
  | .whole number =>
    let double := Float.ofInt number
    if double.isFinite then some (Decimal.limit double) else none
  | .real number => some (Decimal.limit number)

end Quantity

end OpenApiGate
