import OpenApiGate.Decimal.Reading

/-!
# Why a text is no JSON document

A text is refused for a fault of syntax at some place, for an integer of too
many digits, or because its containers are nested too deeply.
-/

namespace OpenApiGate.Json

/-- A fault of syntax. -/
inductive SyntaxFault where
  | byteOrderMark
  | value
  | extraData
  | propertyName
  | colon
  | comma
  | unterminatedString
  | controlCharacter
  | escape
  | unicodeEscape
deriving DecidableEq

/-- The wording of a fault. -/
def SyntaxFault.message : SyntaxFault → Text
  | .byteOrderMark => "Unexpected UTF-8 BOM (decode using utf-8-sig)"
  | .value => "Expecting value"
  | .extraData => "Extra data"
  | .propertyName => "Expecting property name enclosed in double quotes"
  | .colon => "Expecting ':' delimiter"
  | .comma => "Expecting ',' delimiter"
  | .unterminatedString => "Unterminated string starting at"
  | .controlCharacter => "Invalid control character at"
  | .escape => "Invalid \\escape"
  | .unicodeEscape => "Invalid \\uXXXX escape"

/-- A place in a text. -/
structure Position where
  /-- The number of code points before the place. -/
  index : Nat
  /-- The line, counted from one. -/
  line : Nat
  /-- The column, counted from one. -/
  column : Nat
deriving DecidableEq

/-- The place after a text. -/
def Position.after (before : Text) : Position where
  index := before.length
  line := before.countP (CodePoint.is '\n') + 1
  column := (before.reverse.takeWhile (!·.is '\n')).length + 1

/-- The two kinds of containers. -/
inductive Container where
  | array
  | object
deriving DecidableEq

/-- Why a text is refused. -/
inductive DecodeError where
  | syntaxFault (fault : SyntaxFault) (position : Position)
  | integer (error : Decimal.IntegerError)
  | nestedTooDeeply (container : Container)
deriving DecidableEq

/-- The wording of a refusal. -/
def DecodeError.message : DecodeError → Text
  | .syntaxFault fault position =>
    fault.message ++ ": line " ++ Text.ofNat position.line ++ " column " ++
      Text.ofNat position.column ++ " (char " ++ Text.ofNat position.index ++ ")"
  | .integer error => error.message
  | .nestedTooDeeply .array =>
    "maximum recursion depth exceeded while decoding a JSON array from a unicode string"
  | .nestedTooDeeply .object =>
    "maximum recursion depth exceeded while decoding a JSON object from a unicode string"

end OpenApiGate.Json
