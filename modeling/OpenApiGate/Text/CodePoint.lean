/-!
# Code points and text

A JSON document may spell one half of a surrogate pair on its own.  Text read
from such a document is therefore a list of code points, surrogates included,
rather than a `String`.  Every `String` is a text, and a text without
surrogates is a `String` again (`Text.toString?_ofString`).
-/

namespace OpenApiGate

/-- A Unicode code point; surrogates are code points too. -/
structure CodePoint where
  /-- The number of the code point. -/
  value : Nat
  /-- Code points end at U+10FFFF. -/
  value_lt : value < 0x110000
deriving DecidableEq

namespace CodePoint

/-- Every character is a code point. -/
def ofChar (char : Char) : CodePoint where
  value := char.toNat
  value_lt := by
    have valid := char.valid
    simp only [UInt32.isValidChar, Nat.isValidChar] at valid
    show char.val.toNat < 0x110000
    omega

instance : Coe Char CodePoint := ⟨ofChar⟩

instance : Inhabited CodePoint := ⟨ofChar ' '⟩

/-- The code point of a number below U+110000, and U+FFFD for any other number. -/
def ofNat (number : Nat) : CodePoint :=
  if valid : number < 0x110000 then ⟨number, valid⟩ else ⟨0xFFFD, by decide⟩

/-- The code point is the given character. -/
def is
    (char : Char)
    (point : CodePoint) :
    Bool :=
  point == ofChar char

/-- Code points from `low` to `high`, both included. -/
def inRange
    (low high : Nat)
    (point : CodePoint) :
    Bool :=
  low ≤ point.value && point.value ≤ high

/-- The first half of a surrogate pair. -/
def isHighSurrogate : CodePoint → Bool :=
  inRange 0xD800 0xDBFF

/-- The second half of a surrogate pair. -/
def isLowSurrogate : CodePoint → Bool :=
  inRange 0xDC00 0xDFFF

/-- Code points that stand for no character of their own. -/
def isSurrogate : CodePoint → Bool :=
  inRange 0xD800 0xDFFF

/-- The decimal digits `0` to `9`. -/
def isDigit : CodePoint → Bool :=
  inRange 0x30 0x39

/-- The value of a decimal digit `0` to `9`. -/
def digitValue (point : CodePoint) : Nat :=
  point.value - 0x30

/-- The decimal digit of a number below ten. -/
def ofDigit (digit : Nat) : CodePoint :=
  ofNat (0x30 + digit)

/-- The value of a hexadecimal digit in either case. -/
def hexValue? (point : CodePoint) : Option Nat :=
  if point.isDigit then some (point.value - 0x30)
  else if point.inRange 0x41 0x46 then some (point.value - 0x37)
  else if point.inRange 0x61 0x66 then some (point.value - 0x57)
  else none

/-- The character of a code point that is no surrogate. -/
def toChar? (point : CodePoint) : Option Char :=
  if valid : point.value.isValidChar then some (Char.ofNatAux point.value valid) else none

@[ext]
theorem eq_of_value_eq
    {left right : CodePoint}
    (equality : left.value = right.value) :
    left = right := by
  cases left
  cases right
  simp_all

theorem value_eq_of_is
    {char : Char}
    {point : CodePoint}
    (same : point.is char = true) :
    point.value = char.toNat := by
  have equal : point = ofChar char := by simpa [is] using same
  rw [equal]
  rfl

@[simp]
theorem toChar?_ofChar (char : Char) :
    (ofChar char).toChar? = some char := by
  have valid : (ofChar char).value.isValidChar := char.valid
  unfold toChar?
  rw [dif_pos valid]
  exact congrArg some (Char.ext rfl)

end CodePoint

/-- Text as a sequence of code points. -/
abbrev Text := List CodePoint

namespace Text

/-- The code points of a string. -/
def ofString (string : String) : Text :=
  string.toList.map CodePoint.ofChar

instance : Coe String Text := ⟨ofString⟩

/-- The string of a text, if it holds no surrogate. -/
def toString? (text : Text) : Option String :=
  (text.mapM CodePoint.toChar?).map String.ofList

/-- A number in decimal digits. -/
def ofNat (number : Nat) : Text :=
  ofString (Nat.repr number)

/-- An integer in decimal digits, with a sign if it is negative. -/
def ofInt : Int → Text
  | .ofNat number => ofNat number
  | .negSucc number => ofString "-" ++ ofNat (number + 1)

/-- Texts in order with a separator between neighbours. -/
def joined
    (separator : Text)
    (parts : List Text) :
    Text :=
  List.intercalate separator parts

/-- The parts of a text between the occurrences of a code point. -/
def splitOn
    (separator : CodePoint)
    (text : Text) :
    List Text :=
  List.splitOn separator text

end Text

end OpenApiGate
