import OpenApiGate.Decimal.Numeral
import OpenApiGate.Text.Blank
import OpenApiGate.Text.DecimalDigit
import OpenApiGate.Text.Quoted

/-!
# Reading numbers

Numbers occur in JSON documents, in settings, on the command line and as list
indices in references.  A decimal with an exponent becomes the nearest double.
Settings and the command line differ in the digits they know and in the places
where an underscore may separate digits.
-/

namespace OpenApiGate.Decimal

/-- The double nearest to `coefficient · 10 ^ power`, with a sign. -/
def toDouble
    (negative : Bool)
    (coefficient : Nat)
    (power : Int) :
    Float :=
  let magnitude := Float.ofScientific coefficient (decide (power < 0)) power.natAbs
  if negative then -magnitude else magnitude

/-- A text without its sign, and whether the sign is a minus. -/
def splitSign : Text → Bool × Text
  | [] => (false, [])
  | point :: rest =>
    if point.is '-' then (true, rest)
    else if point.is '+' then (false, rest)
    else (false, point :: rest)

/-- The number of a text of ASCII digits. -/
def ofDigitText (text : Text) : Nat :=
  ofDigits (text.map CodePoint.digitValue)

/-- The value of an exponent part, which is absent or starts with `e`. -/
def exponentValue? : Text → Option Int
  | [] => some 0
  | mark :: rest =>
    if mark.is 'e' || mark.is 'E' then
      let (negative, digits) := splitSign rest
      if digits.isEmpty || !digits.all CodePoint.isDigit then none
      else if negative then some (-(ofDigitText digits : Int))
      else some (ofDigitText digits)
    else none

/-- The double of a text that starts with an ASCII digit or a point. -/
def unsignedDouble? (negative : Bool) (text : Text) : Option Float :=
  let whole := text.takeWhile CodePoint.isDigit
  let afterWhole := text.dropWhile CodePoint.isDigit
  let hasPoint := afterWhole.head?.any (CodePoint.is '.')
  let fractionOn := if hasPoint then afterWhole.drop 1 else []
  let fraction := fractionOn.takeWhile CodePoint.isDigit
  let afterFraction := if hasPoint then fractionOn.dropWhile CodePoint.isDigit else afterWhole
  if whole.isEmpty && fraction.isEmpty then none
  else
    (exponentValue? afterFraction).map fun exponent =>
      toDouble negative (ofDigitText (whole ++ fraction)) (exponent - fraction.length)

/-- An ASCII letter in lower case; other code points are kept. -/
def asciiLower (point : CodePoint) : CodePoint :=
  if point.inRange 0x41 0x5A then CodePoint.ofNat (point.value + 0x20) else point

/-- The double of a decimal literal or of one of the words for infinity and for no number. -/
def literalDouble? (text : Text) : Option Float :=
  let (negative, unsigned) := splitSign text
  let word := unsigned.map asciiLower
  if word = "inf" || word = "infinity" then
    some (if negative then -(1.0 / 0.0) else 1.0 / 0.0)
  else if word = "nan" then some (0.0 / 0.0)
  else unsignedDouble? negative unsigned

/--
A text without its underscores, which may stand anywhere except at its ends and
beside one another.  A text without underscores has none to take out.
-/
def withoutUnderscores? (text : Text) : Option Text :=
  let isUnderscore := CodePoint.is '_'
  let doubled := (text.zip (text.drop 1)).any fun (left, right) =>
    isUnderscore left && isUnderscore right
  if !text.any isUnderscore || text.head?.any isUnderscore ||
      text.getLast?.any isUnderscore || doubled then none
  else some (text.filter (!isUnderscore ·))

/-- The double that a setting spells, with blanks around it or with underscores in it. -/
def settingDouble? (text : Text) : Option Float :=
  (literalDouble? (text.trimWhile CodePoint.isWhiteSpace)).or
    ((withoutUnderscores? text).bind literalDouble?)

/-- Every underscore stands between two ASCII digits. -/
def separatesDigits (previous : Option CodePoint) : Text → Bool
  | [] => true
  | point :: rest =>
    (!point.is '_' ||
        (previous.any CodePoint.isDigit && rest.head?.any CodePoint.isDigit)) &&
      separatesDigits (some point) rest

/-- A decimal digit of any script as an ASCII digit; other code points are kept. -/
def asciiDigit (point : CodePoint) : CodePoint :=
  match point.decimalValue? with
  | some digit => CodePoint.ofDigit digit
  | none => point

/-- The double that a word of the command line spells. -/
def argumentDouble? (text : Text) : Option Float :=
  let literal := (text.trimWhile CodePoint.isWhiteSpace).map asciiDigit
  if separatesDigits none literal then literalDouble? (literal.filter (!·.is '_')) else none

/-- Integers of more decimal digits are refused. -/
def integerDigitLimit : Nat := 4300

/-- Why a text of digits is no integer, or an integer has no text. -/
inductive IntegerError where
  /-- There are more digits than the limit allows. -/
  | tooLong (digits : Nat)
  /-- The text holds something other than decimal digits. -/
  | notDecimal (text : Text)
  /-- The integer has more digits than the limit allows. -/
  | unwritable
deriving DecidableEq

/-- The wording of an integer error; a long text is cut. -/
def IntegerError.message : IntegerError → Text
  | .tooLong digits =>
    "Exceeds the limit (" ++ Text.ofNat integerDigitLimit ++
      " digits) for integer string conversion: value has " ++ Text.ofNat digits ++
      " digits; use sys.set_int_max_str_digits() to increase the limit"
  | .notDecimal text =>
    "invalid literal for int() with base 10: " ++ text.quoted.take 200
  | .unwritable =>
    "Exceeds the limit (" ++ Text.ofNat integerDigitLimit ++
      " digits) for integer string conversion; use sys.set_int_max_str_digits() to increase " ++
      "the limit"

/-- The number that decimal digits of any script spell. -/
def naturalOf (text : Text) : Except IntegerError Nat :=
  let digits := text.takeWhile fun point => point.decimalValue?.isSome
  if integerDigitLimit < digits.length then .error (.tooLong digits.length)
  else if digits.length < text.length then .error (.notDecimal text)
  else .ok (ofDigits (digits.filterMap CodePoint.decimalValue?))

/-- Why a text is no integer setting. -/
inductive SettingIntegerError where
  | malformed
  | tooLong
deriving DecidableEq

/--
Digits without the zeros in front of them, between which underscores may stand.
A minus may follow the zeros.  In front of a point, and at the end of the text,
the last code point that would be left out stays.
-/
def withoutLeadingZeros? (text : Text) : Option Text :=
  let lead := text.takeWhile fun point => point.is '0' || point.is '_'
  let last := lead.drop (lead.length - 1)
  if text.head?.any (CodePoint.is '0') then
    match text.drop lead.length with
    | [] => some last
    | next :: after =>
      if next.isDigit || next.is '-' then some (next :: after)
      else if next.is '.' then some (last ++ next :: after)
      else none
  else if text.head?.any fun first => first.isDigit || first.is '-' then some text
  else none

/-- A text without a point that is followed by zeros only, of which there is one at least. -/
def withoutZeroFraction (text : Text) : Text :=
  let whole := text.takeWhile (!·.is '.')
  let fraction := text.drop (whole.length + 1)
  if !fraction.isEmpty && fraction.all (CodePoint.is '0') then whole else text

/--
The integer of ASCII digits after an optional minus.  Too many digits, among which
the minus counts, are refused before what follows them is looked at.
-/
def plainInteger (text : Text) : Except SettingIntegerError Int :=
  let negative := text.head?.any (CodePoint.is '-')
  let unsigned := if negative then text.drop 1 else text
  let digits := unsigned.takeWhile CodePoint.isDigit
  if digits.isEmpty || 1 < digits.length && digits.head?.any (CodePoint.is '0') then
    .error .malformed
  else if integerDigitLimit < digits.length + (if negative then 1 else 0) then .error .tooLong
  else if digits.length < unsigned.length then .error .malformed
  else if negative then .ok (-(ofDigitText digits : Int))
  else .ok (ofDigitText digits)

/-- Digits without zeros in front, without a fraction of zeros and without underscores. -/
def cleanDigits? (text : Text) : Option Text :=
  (withoutLeadingZeros? text).map fun digits =>
    let whole := withoutZeroFraction digits
    (withoutUnderscores? whole).getD whole

/-- A text in the form that `plainInteger` reads, if blanks, sign and zeros allow it. -/
def cleanInteger? (text : Text) : Option Text :=
  match text.trimWhile CodePoint.isWhiteSpace with
  | [] => none
  | first :: rest =>
    if first.is '+' then
      if rest.head?.any CodePoint.isDigit then cleanDigits? rest else none
    else if first.is '-' then (cleanDigits? rest).map fun digits => first :: digits
    else cleanDigits? (first :: rest)

/-- The integer that a setting spells, as it stands or after it was cleaned. -/
def settingInteger (text : Text) : Except SettingIntegerError Int :=
  match plainInteger text with
  | .error .malformed =>
    match (cleanInteger? text).map plainInteger with
    | some (.ok value) => .ok value
    | _ => .error .malformed
  | result => result

end OpenApiGate.Decimal
