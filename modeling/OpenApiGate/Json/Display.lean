import OpenApiGate.Json.Value
import OpenApiGate.Text.Quoted

/-!
# Values in messages

How a value is shown inside a message: a string as it is, and a string inside
an array or an object in quotation marks.
-/

namespace OpenApiGate.Json.Value

mutual

/-- A value with its strings in quotation marks. -/
def quoted : Value → Text
  | .null => "None"
  | .bool true => "True"
  | .bool false => "False"
  | .integer value => Text.ofInt value
  | .double value => Decimal.plain value
  | .string text => text.quoted
  | .array items => "[" ++ Text.joined ", " (quotedItems items) ++ "]"
  | .object members => "\x7b" ++ Text.joined ", " (quotedMembers members) ++ "\x7d"

/-- The items of an array with their strings in quotation marks. -/
def quotedItems : List Value → List Text
  | [] => []
  | item :: rest => item.quoted :: quotedItems rest

/-- The members of an object with their strings in quotation marks. -/
def quotedMembers : List (Text × Value) → List Text
  | [] => []
  | (key, value) :: rest => (key.quoted ++ ": " ++ value.quoted) :: quotedMembers rest

end

/-- A value as a message shows it. -/
def display : Value → Text
  | .string text => text
  | value => value.quoted

end OpenApiGate.Json.Value
