import OpenApiGate.Text.Printable

/-!
# Quoted text

A text shown inside a message is quoted, so that its ends and its invisible
code points can be seen.  The quotation mark is the apostrophe unless the text
holds apostrophes and no double quotes.
-/

namespace OpenApiGate

namespace Text

/-- A number in lower case hexadecimal with at least `width` digits. -/
def hexadecimal (width number : Nat) : Text :=
  let digits := ofString (String.ofList (Nat.toDigits 16 number))
  List.replicate (width - digits.length) (CodePoint.ofChar '0') ++ digits

end Text

namespace CodePoint

/-- The numeric escape of a code point: two, four or eight hexadecimal digits. -/
def numericEscape (point : CodePoint) : Text :=
  if point.value < 0x100 then "\\x" ++ Text.hexadecimal 2 point.value
  else if point.value < 0x10000 then "\\u" ++ Text.hexadecimal 4 point.value
  else "\\U" ++ Text.hexadecimal 8 point.value

/-- A code point as it stands between two quotation marks `mark`. -/
def quotedBetween (mark point : CodePoint) : Text :=
  if point = mark || point.is '\\' then "\\" ++ [point]
  else if point.is '\n' then "\\n"
  else if point.is '\r' then "\\r"
  else if point.is '\t' then "\\t"
  else if point.isPrintable then [point]
  else point.numericEscape

end CodePoint

namespace Text

/-- The quotation mark of a text. -/
def quotationMark (text : Text) : CodePoint :=
  if text.any (CodePoint.is '\'') && !text.any (CodePoint.is '"') then '"' else '\''

/-- A text in quotation marks, with its marks and invisible code points escaped. -/
def quoted (text : Text) : Text :=
  let mark := quotationMark text
  [mark] ++ text.flatMap (CodePoint.quotedBetween mark) ++ [mark]

/-- A text whose surrogates are replaced by their numeric escapes. -/
def escapeSurrogates (text : Text) : Text :=
  text.flatMap fun point => if point.isSurrogate then point.numericEscape else [point]

end Text

end OpenApiGate
