import OpenApiGate.Json.DecodeError
import OpenApiGate.Json.Value

/-!
# Decoding JSON

A reader takes a text that starts with what it reads, and returns the rest.
Containers are read by one loop over their parts; the loop is bounded by the
text itself, of which every part takes at least one code point.  Nesting is
bounded by `nestingLimit`.

Beyond the grammar of JSON the words `NaN`, `Infinity` and `-Infinity` are
numbers, and a lone half of a surrogate pair may be escaped.
-/

namespace OpenApiGate.Json

/--
Containers may be nested this deeply.  The calls above the decoder count towards a
common limit of 1000: the number stands for a decoder with ten of them above it.
With more calls above it the decoder stops sooner, with fewer later.
-/
def nestingLimit : Nat := 990

/-- Why reading stopped: at a fault with the rest of the text, or for another reason. -/
inductive Stop where
  | fault (fault : SyntaxFault) (rest : Text)
  | integer (error : Decimal.IntegerError)
  | nestedTooDeeply (container : Container)

/-- Reads one part from the front of a text and returns it with the rest. -/
abbrev Reader (α : Type) := Text → Except Stop (α × Text)

/-- The blanks between the parts of a document. -/
def isSpace (point : CodePoint) : Bool :=
  point.is ' ' || point.is '\t' || point.is '\n' || point.is '\r'

/-- A text without the blanks in front. -/
def skipSpaces (text : Text) : Text :=
  text.dropWhile isSpace

/-! ## Strings -/

/-- The number of four hexadecimal digits. -/
def hexQuad? (a b c d : CodePoint) : Option Nat := do
  return ((← a.hexValue?) * 16 + (← b.hexValue?)) * 256 + (← c.hexValue?) * 16 + (← d.hexValue?)

/-- The code point of a one-letter escape. -/
def letterEscape? (letter : CodePoint) : Option CodePoint :=
  if letter.is '"' || letter.is '\\' || letter.is '/' then some letter
  else if letter.is 'b' then some (CodePoint.ofNat 0x08)
  else if letter.is 'f' then some (CodePoint.ofNat 0x0C)
  else if letter.is 'n' then some (CodePoint.ofNat 0x0A)
  else if letter.is 'r' then some (CodePoint.ofNat 0x0D)
  else if letter.is 't' then some (CodePoint.ofNat 0x09)
  else none

/-- The code point of a surrogate pair. -/
def joinSurrogates (high low : CodePoint) : CodePoint :=
  CodePoint.ofNat (0x10000 + (high.value - 0xD800) * 0x400 + (low.value - 0xDC00))

/-- The part of a string that has been read. -/
structure StringProgress where
  /-- The code points read so far, the last one first. -/
  reversed : Text
  /-- The last code point is an escaped first half of a surrogate pair. -/
  awaitsLow : Bool

namespace StringProgress

/-- One more code point that stands for itself. -/
def push (progress : StringProgress) (point : CodePoint) : StringProgress :=
  ⟨point :: progress.reversed, false⟩

/-- One more code point from a numeric escape, which may complete a pair. -/
def pushEscaped (progress : StringProgress) (point : CodePoint) : StringProgress :=
  match progress.awaitsLow && point.isLowSurrogate, progress.reversed with
  | true, high :: before => ⟨joinSurrogates high point :: before, false⟩
  | _, reversed => ⟨point :: reversed, point.isHighSurrogate⟩

end StringProgress

/--
Reads the rest of a string up to its closing quotation mark.  `opening` is the
text from the opening quotation mark on.  A numeric escape needs four digits
and some code point after them; a fault of it lies at its letter `u`.
-/
def readString
    (opening : Text)
    (progress : StringProgress) :
    Reader Text
  | [] => .error (.fault .unterminatedString opening)
  | point :: rest =>
    if point.is '"' then .ok (progress.reversed.reverse, rest)
    else if point.is '\\' then
      match rest with
      | [] => .error (.fault .unterminatedString opening)
      | letter :: after =>
        if letter.is 'u' then
          match after with
          | a :: b :: c :: d :: tail =>
            match tail.isEmpty, hexQuad? a b c d with
            | false, some number =>
              readString opening (progress.pushEscaped (CodePoint.ofNat number)) tail
            | _, _ => .error (.fault .unicodeEscape rest)
          | _ => .error (.fault .unicodeEscape rest)
        else
          match letterEscape? letter with
          | some escaped => readString opening (progress.push escaped) after
          | none => .error (.fault .escape (point :: rest))
    else if point.value < 0x20 then .error (.fault .controlCharacter (point :: rest))
    else readString opening (progress.push point) rest

/-! ## Numbers and words -/

/-- The whole part of a number: a zero, or digits that start with another one. -/
def wholeDigits : Text → Text
  | [] => []
  | first :: rest =>
    if first.is '0' then [first]
    else if first.isDigit then first :: rest.takeWhile CodePoint.isDigit
    else []

/-- The digits of a fraction that a text starts with, if it starts with one. -/
def fractionDigits : Text → Text
  | point :: rest => if point.is '.' then rest.takeWhile CodePoint.isDigit else []
  | [] => []

/-- The exponent that a text starts with, and how many code points it takes. -/
def exponentPart : Text → Option (Int × Nat)
  | [] => none
  | mark :: rest =>
    if mark.is 'e' || mark.is 'E' then
      let (negative, unsigned) := Decimal.splitSign rest
      let digits := unsigned.takeWhile CodePoint.isDigit
      let signed := rest.head?.any fun point => point.is '-' || point.is '+'
      let length := 1 + signed.toNat + digits.length
      if digits.isEmpty then none
      else if negative then some (-(Decimal.ofDigitText digits : Int), length)
      else some (Decimal.ofDigitText digits, length)
    else none

/-- Reads a number; `text` is the text from its sign on. -/
def readNumber
    (text : Text)
    (negative : Bool)
    (unsigned : Text) :
    Except Stop (Value × Text) :=
  let whole := wholeDigits unsigned
  let afterWhole := unsigned.drop whole.length
  let fraction := fractionDigits afterWhole
  let afterFraction :=
    if fraction.isEmpty then afterWhole else afterWhole.drop (fraction.length + 1)
  if whole.isEmpty then .error (.fault .value text)
  else
    match fraction.isEmpty, exponentPart afterFraction with
    | true, none =>
      if Decimal.integerDigitLimit < whole.length then
        .error (.integer (.tooLong whole.length))
      else
        let magnitude : Int := Decimal.ofDigitText whole
        .ok (.integer (if negative then -magnitude else magnitude), afterWhole)
    | _, exponent =>
      let (power, length) := exponent.getD (0, 0)
      let coefficient := Decimal.ofDigitText (whole ++ fraction)
      .ok
        (.double (Decimal.toDouble negative coefficient (power - fraction.length)),
          afterFraction.drop length)

/-- The rest of a text after a word that it starts with. -/
def afterWord? (word : String) (text : Text) : Option Text :=
  let points := Text.ofString word
  if points.isPrefixOf text then some (text.drop points.length) else none

/-- The words that stand for values. -/
def words : List (String × Value) :=
  [("null", .null), ("true", .bool true), ("false", .bool false),
    ("NaN", .double (0.0 / 0.0)), ("Infinity", .double (1.0 / 0.0)),
    ("-Infinity", .double (-(1.0 / 0.0)))]

/-- Reads a value that is no container. -/
def readScalar : Reader Value
  | [] => .error (.fault .value [])
  | point :: rest =>
    if point.is '"' then
      match readString (point :: rest) ⟨[], false⟩ rest with
      | .ok (text, after) => .ok (.string text, after)
      | .error stop => .error stop
    else
      let word := words.findSome? fun (word, value) =>
        (afterWord? word (point :: rest)).map fun after => (value, after)
      match word with
      | some (value, after) => .ok (value, after)
      | none =>
        if point.is '-' then readNumber (point :: rest) true rest
        else readNumber (point :: rest) false (point :: rest)

/-! ## Containers -/

/--
Reads parts separated by commas up to a closing mark.  Each round takes one
code point off `bound`, which is at least as long as the text.
-/
def readParts
    {α : Type}
    (closing : Char)
    (readPart : Reader α)
    (bound : Text)
    (reversed : List α)
    (text : Text) :
    Except Stop (List α × Text) :=
  match bound with
  | [] => .error (.fault .comma text)
  | _ :: shorter =>
    match readPart text with
    | .error stop => .error stop
    | .ok (part, afterPart) =>
      match skipSpaces afterPart with
      | [] => .error (.fault .comma [])
      | point :: rest =>
        if point.is closing then .ok ((part :: reversed).reverse, rest)
        else if point.is ',' then
          readParts closing readPart shorter (part :: reversed) (skipSpaces rest)
        else .error (.fault .comma (point :: rest))

/-- Reads the parts of a container from behind its opening mark. -/
def readContainer
    {α : Type}
    (closing : Char)
    (readPart : Reader α)
    (text : Text) :
    Except Stop (List α × Text) :=
  match skipSpaces text with
  | [] =>
    match readPart [] with
    | .error stop => .error stop
    | .ok _ => .error (.fault .comma [])
  | point :: rest =>
    if point.is closing then .ok ([], rest)
    else readParts closing readPart (point :: rest) [] (point :: rest)

/-- Reads a key, a colon and a value. -/
def readMember (readValue : Reader Value) : Reader (Text × Value)
  | [] => .error (.fault .propertyName [])
  | point :: rest =>
    if point.is '"' then
      match readString (point :: rest) ⟨[], false⟩ rest with
      | .error stop => .error stop
      | .ok (key, afterKey) =>
        match skipSpaces afterKey with
        | [] => .error (.fault .colon [])
        | colon :: afterColon =>
          if colon.is ':' then
            match readValue (skipSpaces afterColon) with
            | .error stop => .error stop
            | .ok (value, after) => .ok ((key, value), after)
          else .error (.fault .colon (colon :: afterColon))
    else .error (.fault .propertyName (point :: rest))

/-- Reads a value whose containers are nested at most `depth` deep. -/
def readValue : Nat → Reader Value
  | _, [] => .error (.fault .value [])
  | 0, point :: rest =>
    if point.is '[' then .error (.nestedTooDeeply .array)
    else if point.is '\x7b' then .error (.nestedTooDeeply .object)
    else readScalar (point :: rest)
  | depth + 1, point :: rest =>
    if point.is '[' then
      match readContainer ']' (readValue depth) rest with
      | .error stop => .error stop
      | .ok (items, after) => .ok (.array items, after)
    else if point.is '\x7b' then
      match readContainer '\x7d' (readMember (readValue depth)) rest with
      | .error stop => .error stop
      | .ok (pairs, after) => .ok (.object (Members.ofPairs pairs), after)
    else readScalar (point :: rest)

/-! ## Documents -/

/-- Reads a document: one value with blanks around it. -/
def readDocument (text : Text) : Except Stop Value :=
  if text.head?.any fun point => point.value == 0xFEFF then .error (.fault .byteOrderMark text)
  else
    match readValue nestingLimit (skipSpaces text) with
    | .error stop => .error stop
    | .ok (value, after) =>
      let rest := skipSpaces after
      if rest.isEmpty then .ok value else .error (.fault .extraData rest)

/-- The reason to refuse a text, given why reading it stopped. -/
def Stop.toError (text : Text) : Stop → DecodeError
  | .fault kind rest =>
    .syntaxFault kind (Position.after (text.take (text.length - rest.length)))
  | .integer error => .integer error
  | .nestedTooDeeply container => .nestedTooDeeply container

/-- The value that a text spells. -/
def decode (text : Text) : Except DecodeError Value :=
  match readDocument text with
  | .ok value => .ok value
  | .error stop => .error (stop.toError text)

end OpenApiGate.Json
