import OpenApiGate.Text.CodePoint

/-!
# Blank code points

Two sets of blanks are in use.  White space in the sense of Unicode surrounds
the numbers of the settings; the output of a program is trimmed of the four
information separators as well.
-/

namespace OpenApiGate

namespace CodePoint

/-- The white space of Unicode. -/
def isWhiteSpace (point : CodePoint) : Bool :=
  point.inRange 0x09 0x0D || point.value == 0x20 || point.value == 0x85 ||
    point.value == 0xA0 || point.value == 0x1680 || point.inRange 0x2000 0x200A ||
    point.inRange 0x2028 0x2029 || point.value == 0x202F || point.value == 0x205F ||
    point.value == 0x3000

/-- White space and the four information separators U+001C to U+001F. -/
def isBlank (point : CodePoint) : Bool :=
  point.isWhiteSpace || point.inRange 0x1C 0x1F

/-- The blanks that keep two words on one line. -/
def isBlankInLine (point : CodePoint) : Bool :=
  point.isBlank && point.value != 0x0A && point.value != 0x0D

end CodePoint

namespace Text

/-- A text without the code points at its end that satisfy a test. -/
def trimEndWhile
    (test : CodePoint → Bool)
    (text : Text) :
    Text :=
  (text.reverse.dropWhile test).reverse

/-- A text without the code points at both ends that satisfy a test. -/
def trimWhile
    (test : CodePoint → Bool)
    (text : Text) :
    Text :=
  trimEndWhile test (text.dropWhile test)

/-- A text without the blanks at both ends. -/
def trim : Text → Text :=
  trimWhile CodePoint.isBlank

end Text

end OpenApiGate
