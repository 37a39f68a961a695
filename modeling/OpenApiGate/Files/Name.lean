import OpenApiGate.Text.Utf8

/-!
# Names outside the program

The names of files and the variables of the environment are sequences of bytes.
In a text, a byte that spells no character is a surrogate from U+DC80 on, so
that every sequence of bytes has a text.  Different texts may stand for the
same bytes; `Text.ofNameBytes` picks one of them.
-/

namespace OpenApiGate

namespace CodePoint

/-- Surrogates that stand for the single bytes from 0x80 on. -/
def standsForByte : CodePoint → Bool :=
  inRange 0xDC80 0xDCFF

/-- Surrogates that stand for no byte. -/
def isStranded (point : CodePoint) : Bool :=
  point.isSurrogate && !point.standsForByte

/-- The surrogate that stands for a byte. -/
def ofByte (byte : UInt8) : CodePoint :=
  ofNat (0xDC00 + byte.toNat)

/-- The bytes of a code point in a name. -/
def nameBytes (point : CodePoint) : Bytes :=
  if point.standsForByte then [(point.value - 0xDC00).toUInt8] else point.utf8

end CodePoint

namespace Text

/-- The bytes of a name. -/
def nameBytes (text : Text) : Bytes :=
  text.flatMap CodePoint.nameBytes

/-- The text of a name, in which only bytes that spell no character are surrogates. -/
def ofNameBytes : Bytes → Text :=
  Utf8.decodeWith fun bytes => bytes.map CodePoint.ofByte

/-- A name as messages show it: bytes that spell no character become U+FFFD. -/
def shownName (text : Text) : Text :=
  Utf8.decodeWith (fun _ => [CodePoint.ofNat 0xFFFD]) text.nameBytes

/-- The first surrogates of a name that stand for no bytes, if there are any. -/
def strandedRun? : Text → Option Utf8.EncodeError :=
  Utf8.surrogateRun? CodePoint.isStranded

end Text

end OpenApiGate
