import OpenApiGate.Decimal.Double
import OpenApiGate.Decimal.Reading

/-!
# Sizes in kilobytes

The size of a file is shown in kilobytes to one decimal; a half is rounded up.
-/

namespace OpenApiGate

/-- The whole part of a positive double, and zero for any other double. -/
def Decimal.wholePart (double : Float) : Nat :=
  match double.toModel.unpack with
  | .finite .positive mantissa (.ofNat power) _ => mantissa * Nat.pow 2 power
  | .finite .positive mantissa (.negSucc power) _ => mantissa / Nat.pow 2 (power + 1)
  | _ => 0

/--
The double nearest to a number of bytes over 1024.  A number beyond all doubles
is divided first: the reciprocal of 1024 is `9765625 · 10 ^ -10`.
-/
def bytesOverKilo (bytes : Nat) : Float :=
  let double := Float.ofNat bytes
  if double.isFinite then double / 1024 else Decimal.toDouble false (bytes * 9765625) (-10)

/-- The tenths of a kilobyte that are nearest to a number of bytes. -/
def kilobyteTenths (bytes : Nat) : Nat :=
  Decimal.wholePart (bytesOverKilo bytes * 10 + 0.5)

/-- A number of bytes in kilobytes, to one decimal. -/
def kilobytes (bytes : Nat) : Float :=
  Float.ofNat (kilobyteTenths bytes) / 10

/-- Why a number of bytes has no size in kilobytes. -/
inductive SizeError where
  /-- The kilobytes are beyond all doubles. -/
  | tooManyKilobytes
  /-- The tenths of kilobytes are beyond all doubles. -/
  | tooManyTenths
deriving DecidableEq

/-- The wording of a size error. -/
def SizeError.message : SizeError → Text
  | .tooManyKilobytes => "integer division result too large for a float"
  | .tooManyTenths => "cannot convert float infinity to integer"

/-- The size of a number of bytes that need not be those of a file. -/
def kilobytesOf (bytes : Nat) : Except SizeError Float :=
  let quotient := bytesOverKilo bytes
  if !quotient.isFinite then .error .tooManyKilobytes
  else if !(quotient * 10).isFinite then .error .tooManyTenths
  else .ok (kilobytes bytes)

end OpenApiGate
