import OpenApiGate.Json.Value
import OpenApiGate.Text.Quoted

/-!
# Writing JSON

The text of a value with one item or member a line, indented by two spaces for
each container around it.  Doubles are written in their fewest digits; those
that are no numbers are written as null.
-/

namespace OpenApiGate.Json

/-- A code point inside a JSON string. -/
def escapedPoint (point : CodePoint) : Text :=
  if point.is '"' then "\\\""
  else if point.is '\\' then "\\\\"
  else if point.value = 0x08 then "\\b"
  else if point.value = 0x0C then "\\f"
  else if point.is '\n' then "\\n"
  else if point.is '\r' then "\\r"
  else if point.is '\t' then "\\t"
  else if point.value < 0x20 then "\\u" ++ Text.hexadecimal 4 point.value
  else [point]

/-- A text as a JSON string. -/
def stringLiteral (text : Text) : Text :=
  "\"" ++ text.flatMap escapedPoint ++ "\""

/-- A double as a JSON number. -/
def doubleLiteral (double : Float) : Text :=
  match Decimal.shortestForm double with
  | .word _ => "null"
  | form => form.render Decimal.reportLayout

/-- The lines of a container: its marks, and its parts on lines of their own. -/
def containerText
    (opening closing : Text)
    (indent : Nat)
    (parts : List Text) :
    Text :=
  if parts.isEmpty then opening ++ closing
  else
    let margin := List.replicate indent (CodePoint.ofChar ' ')
    opening ++ "\n" ++
      Text.joined ",\n" (parts.map fun part => margin ++ "  " ++ part) ++
      "\n" ++ margin ++ closing

namespace Value

mutual

/-- The text of a value inside containers that take `indent` spaces. -/
def written (indent : Nat) : Value → Text
  | .null => "null"
  | .bool true => "true"
  | .bool false => "false"
  | .integer value => Text.ofInt value
  | .double value => doubleLiteral value
  | .string text => stringLiteral text
  | .array items => containerText "[" "]" indent (writtenItems (indent + 2) items)
  | .object members =>
    containerText "\x7b" "\x7d" indent (writtenMembers (indent + 2) members)

/-- The texts of the items of an array. -/
def writtenItems (indent : Nat) : List Value → List Text
  | [] => []
  | item :: rest => item.written indent :: writtenItems indent rest

/-- The texts of the members of an object. -/
def writtenMembers (indent : Nat) : List (Text × Value) → List Text
  | [] => []
  | (key, value) :: rest =>
    (stringLiteral key ++ ": " ++ value.written indent) :: writtenMembers indent rest

end

end Value

end OpenApiGate.Json
