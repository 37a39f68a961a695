import OpenApiGate.Decimal.Reading
import OpenApiGate.Json.Value

/-!
# References

A reference `#/a/b` names a place inside its own document by the keys and
indices that lead to it.  In a key `~1` stands for a slash and `~0` for a tilde.
Following a chain of references ends at a value that is no reference, or
nowhere: at an unknown place, or at a reference that has been followed before.
-/

namespace OpenApiGate.Reference

open Json (Value)

/-- A text in which every pair of a tilde and `second` is replaced by a character. -/
def unescapePair (second replacement : Char) : Text → Text
  | [] => []
  | [point] => [point]
  | point :: next :: rest =>
    if point.is '~' && next.is second then
      CodePoint.ofChar replacement :: unescapePair second replacement rest
    else point :: unescapePair second replacement (next :: rest)

/-- The key that a part of a reference stands for. -/
def unescape (part : Text) : Text :=
  unescapePair '0' '~' (unescapePair '1' '/' part)

/-- The keys of a reference into the same document. -/
def keys? : Text → Option (List Text)
  | hash :: slash :: rest =>
    if hash.is '#' && slash.is '/' then
      some ((Text.splitOn (CodePoint.ofChar '/') rest).map unescape)
    else none
  | _ => none

/-- The value under a key or at an index. -/
def step
    (value : Value)
    (key : Text) :
    Except Decimal.IntegerError (Option Value) :=
  match value with
  | .object members => .ok (members.lookup key)
  | .array items =>
    if key.isEmpty || !key.all CodePoint.isAnyDigit then .ok none
    else (Decimal.naturalOf key).map fun index => items[index]?
  | _ => .ok none

/-- The value that a list of keys leads to. -/
def walk : Value → List Text → Except Decimal.IntegerError (Option Value)
  | value, [] => .ok (some value)
  | value, key :: rest =>
    match step value key with
    | .error error => .error error
    | .ok none => .ok none
    | .ok (some next) => walk next rest

/-- The value that a reference names, if it names a place of the document. -/
def resolve
    (document reference : Value) :
    Except Decimal.IntegerError (Option Value) :=
  match reference with
  | .string text => (keys? text).elim (.ok none) (walk document)
  | _ => .ok none

/-- The key that makes an object a reference. -/
def key : Text := "$ref"

mutual

/-- The number of references inside a value. -/
def count : Value → Nat
  | .array items => countItems items
  | .object members => countMembers members
  | _ => 0

/-- The number of references inside the items of an array. -/
def countItems : List Value → Nat
  | [] => 0
  | item :: rest => count item + countItems rest

/-- The number of references inside the members of an object. -/
def countMembers : List (Text × Value) → Nat
  | [] => 0
  | (name, value) :: rest =>
    (if name = key then 1 else 0) + count value + countMembers rest

end

/-- A chain through a document is followed for at most this many rounds. -/
def rounds (document : Value) : Nat :=
  count document + 2

/-- Follows a chain for some rounds; `seen` are the references followed so far. -/
def followFrom
    (document : Value) :
    Nat → List Text → Value → Except Decimal.IntegerError (Option Value)
  | 0, _, _ => .ok none
  | more + 1, seen, value =>
    match value.get? key with
    | none => .ok (some value)
    | some (.string text) =>
      if seen.contains text then .ok none
      else
        match resolve document (.string text) with
        | .error error => .error error
        | .ok none => .ok none
        | .ok (some next) => followFrom document more (text :: seen) next
    | some _ => .ok none

/-- The value at the end of the chain of references that starts with a value. -/
def follow
    (document value : Value) :
    Except Decimal.IntegerError (Option Value) :=
  followFrom document (rounds document) [] value

end OpenApiGate.Reference
