import OpenApiGate.Decimal.Double

/-!
# JSON values

A decoded document is a value: integers are unbounded, other numbers are
doubles, and the members of an object keep the order in which their keys first
occurred.
-/

namespace OpenApiGate.Json

/-- A decoded JSON value. -/
inductive Value where
  | null
  | bool (value : Bool)
  | integer (value : Int)
  | double (value : Float)
  | string (text : Text)
  | array (items : List Value)
  | object (members : List (Text × Value))

instance : Inhabited Value := ⟨.null⟩

/-- The members of an object in order, each key once. -/
abbrev Members := List (Text × Value)

/--
One more member in front of members in reverse order.  A key that occurs
already keeps its place and takes the new value.
-/
def Members.prepend
    (members : Members)
    (key : Text)
    (value : Value) :
    Members :=
  if members.any fun member => member.1 == key then
    members.map fun member => if member.1 == key then (key, value) else member
  else (key, value) :: members

/-- The members that a list of keys and values stands for. -/
def Members.ofPairs (pairs : List (Text × Value)) : Members :=
  (pairs.foldl (fun members pair => Members.prepend members pair.1 pair.2) []).reverse

namespace Value

/-- The members of an object, and none for any other value. -/
def members : Value → Members
  | .object members => members
  | _ => []

/-- The value under a key of an object. -/
def get? (value : Value) (key : Text) : Option Value :=
  value.members.lookup key

/-- The value under a key of an object that is an object itself. -/
def object? (value : Value) (key : Text) : Option Value :=
  match value.get? key with
  | some (.object members) => some (.object members)
  | _ => none

/-- The value is an object. -/
def isObject : Value → Bool
  | .object _ => true
  | _ => false

/-- A value counts as present unless it is null, false, zero or empty. -/
def isTruthy : Value → Bool
  | .null => false
  | .bool value => value
  | .integer value => value != 0
  | .double value => !(value == 0.0)
  | .string text => !text.isEmpty
  | .array items => !items.isEmpty
  | .object members => !members.isEmpty

/-- The value under a key counts as present. -/
def hasTruthy (value : Value) (key : Text) : Bool :=
  (value.get? key).any isTruthy

/-- The value is a number or a truth value equal to a natural number. -/
def equalsNumber (number : Nat) : Value → Bool
  | .bool value => value.toNat == number
  | .integer value => value == number
  | .double value => value == Float.ofNat number
  | _ => false

/-- The word for the type of a value. -/
def typeName : Value → Text
  | .null => "NoneType"
  | .bool _ => "bool"
  | .integer _ => "int"
  | .double _ => "float"
  | .string _ => "str"
  | .array _ => "list"
  | .object _ => "dict"

end Value

end OpenApiGate.Json
