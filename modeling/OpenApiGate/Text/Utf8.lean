import OpenApiGate.Text.Quoted

/-!
# UTF-8

Strict decoding of bytes into text: a byte sequence is refused if it is
overlong, spells a surrogate, lies above U+10FFFF or is cut short.  The decoder
is a small automaton whose state says which bytes may come next.  A refusal
names the bytes of the unfinished character and the reason; bytes may also be
decoded with a replacement for whatever is refused.
-/

namespace OpenApiGate

/-- A sequence of bytes. -/
abbrev Bytes := List UInt8

namespace CodePoint

/-- The UTF-8 form of a code point; a surrogate has the form of its neighbours. -/
def utf8 (point : CodePoint) : Bytes :=
  let tail (unit : Nat) : UInt8 := (0x80 + point.value / unit % 0x40).toUInt8
  if point.value < 0x80 then [point.value.toUInt8]
  else if point.value < 0x800 then [(0xC0 + point.value / 0x40).toUInt8, tail 1]
  else if point.value < 0x10000 then
    [(0xE0 + point.value / 0x1000).toUInt8, tail 0x40, tail 1]
  else [(0xF0 + point.value / 0x40000).toUInt8, tail 0x1000, tail 0x40, tail 1]

end CodePoint

namespace Utf8

/-- Why bytes are not UTF-8. -/
inductive Reason where
  | startByte
  | continuationByte
  | endOfData
deriving DecidableEq

/-- The wording of a reason. -/
def Reason.message : Reason → Text
  | .startByte => "invalid start byte"
  | .continuationByte => "invalid continuation byte"
  | .endOfData => "unexpected end of data"

/-- The bytes at which decoding stopped, and why. -/
structure DecodeError where
  /-- Index of the first byte of the refused character. -/
  start : Nat
  /-- How many bytes of the character were read. -/
  length : Nat
  /-- The first byte of the character. -/
  first : UInt8
  /-- Why the character is refused. -/
  reason : Reason
deriving DecidableEq

/-- The wording of a decoding error. -/
def DecodeError.message (error : DecodeError) : Text :=
  let place : Text :=
    if error.length = 1 then
      "byte 0x" ++ Text.hexadecimal 2 error.first.toNat ++ " in position " ++
        Text.ofNat error.start
    else
      "bytes in position " ++ Text.ofNat error.start ++ "-" ++
        Text.ofNat (error.start + error.length - 1)
  "'utf-8' codec can't decode " ++ place ++ ": " ++ error.reason.message

/-- A character whose first bytes have been read. -/
structure Unfinished where
  /-- The first byte. -/
  first : UInt8
  /-- How many bytes have been read. -/
  length : Nat
  /-- How many bytes are still to come after the next one. -/
  remaining : Nat
  /-- The next byte lies between `low` and `high`. -/
  low : UInt8
  high : UInt8
  /-- The bits read so far. -/
  bits : Nat
deriving DecidableEq

/-- The first byte of a character: the whole character, an unfinished one, or none. -/
def start? (byte : UInt8) : Option (CodePoint ⊕ Unfinished) :=
  let unfinished (remaining : Nat) (low high : UInt8) (lead : Nat) :=
    some (.inr ⟨byte, 1, remaining, low, high, byte.toNat - lead⟩)
  if byte < 0x80 then some (.inl (CodePoint.ofNat byte.toNat))
  else if byte < 0xC2 then none
  else if byte < 0xE0 then unfinished 0 0x80 0xBF 0xC0
  else if byte = 0xE0 then unfinished 1 0xA0 0xBF 0xE0
  else if byte = 0xED then unfinished 1 0x80 0x9F 0xE0
  else if byte < 0xF0 then unfinished 1 0x80 0xBF 0xE0
  else if byte = 0xF0 then unfinished 2 0x90 0xBF 0xF0
  else if byte < 0xF4 then unfinished 2 0x80 0xBF 0xF0
  else if byte = 0xF4 then unfinished 2 0x80 0x8F 0xF0
  else none

/-- The next byte of an unfinished character. -/
def Unfinished.next?
    (character : Unfinished)
    (byte : UInt8) :
    Option (CodePoint ⊕ Unfinished) :=
  if byte < character.low || character.high < byte then none
  else
    let bits := character.bits * 0x40 + (byte.toNat - 0x80)
    match character.remaining with
    | 0 => some (.inl (CodePoint.ofNat bits))
    | remaining + 1 =>
      some (.inr ⟨character.first, character.length + 1, remaining, 0x80, 0xBF, bits⟩)

/-- The refusal of an unfinished character that starts `length` bytes before `position`. -/
def Unfinished.refusal
    (character : Unfinished)
    (position : Nat)
    (reason : Reason) :
    DecodeError :=
  ⟨position - character.length, character.length, character.first, reason⟩

/--
Decodes the bytes from `position` on, given the character in progress and the
decoded text in reverse order.
-/
def decodeFrom
    (position : Nat)
    (progress : Option Unfinished)
    (decoded : Text) :
    Bytes → Except DecodeError Text
  | [] =>
    match progress with
    | none => .ok decoded.reverse
    | some character => .error (character.refusal position .endOfData)
  | byte :: rest =>
    match progress with
    | none =>
      match start? byte with
      | none => .error ⟨position, 1, byte, .startByte⟩
      | some (.inl point) => decodeFrom (position + 1) none (point :: decoded) rest
      | some (.inr character) => decodeFrom (position + 1) (some character) decoded rest
    | some character =>
      match character.next? byte with
      | none => .error (character.refusal position .continuationByte)
      | some (.inl point) => decodeFrom (position + 1) none (point :: decoded) rest
      | some (.inr longer) => decodeFrom (position + 1) (some longer) decoded rest

/-- The text that bytes spell. -/
def decode (bytes : Bytes) : Except DecodeError Text :=
  decodeFrom 0 none [] bytes

/--
Decodes bytes with a replacement for each refused character, given the character
in progress and the bytes of it that have been read.
-/
def decodeWithFrom
    (replacement : Bytes → Text)
    (progress : Option Unfinished)
    (read : Bytes) :
    Bytes → Text
  | [] => if read.isEmpty then [] else replacement read
  | byte :: rest =>
    match progress.bind (·.next? byte) with
    | some (.inl point) => point :: decodeWithFrom replacement none [] rest
    | some (.inr longer) => decodeWithFrom replacement (some longer) (read ++ [byte]) rest
    | none =>
      (if read.isEmpty then [] else replacement read) ++
        match start? byte with
        | none => replacement [byte] ++ decodeWithFrom replacement none [] rest
        | some (.inl point) => point :: decodeWithFrom replacement none [] rest
        | some (.inr character) => decodeWithFrom replacement (some character) [byte] rest

/-- The text that bytes spell, with a replacement for the bytes of each refused character. -/
def decodeWith (replacement : Bytes → Text) : Bytes → Text :=
  decodeWithFrom replacement none []

/-- The bytes that spell a text. -/
def encode (text : Text) : Bytes :=
  text.flatMap CodePoint.utf8

/-- A run of surrogates, which UTF-8 cannot spell. -/
structure EncodeError where
  /-- Index of the first surrogate. -/
  start : Nat
  /-- How many surrogates follow one another. -/
  length : Nat
  /-- The first surrogate. -/
  first : CodePoint
deriving DecidableEq

/-- The wording of an encoding error. -/
def EncodeError.message (error : EncodeError) : Text :=
  let place : Text :=
    if error.length = 1 then
      "character '" ++ error.first.numericEscape ++ "' in position " ++ Text.ofNat error.start
    else
      "characters in position " ++ Text.ofNat error.start ++ "-" ++
        Text.ofNat (error.start + error.length - 1)
  "'utf-8' codec can't encode " ++ place ++ ": surrogates not allowed"

/-- The surrogates from the first refused one on, if a text has one. -/
def surrogateRun?
    (isRefused : CodePoint → Bool)
    (text : Text) :
    Option EncodeError :=
  match text.dropWhile (!isRefused ·) with
  | [] => none
  | first :: rest =>
    some
      ⟨(text.takeWhile (!isRefused ·)).length,
        ((first :: rest).takeWhile CodePoint.isSurrogate).length, first⟩

/-- The first run of surrogates of a text, if it has one. -/
def unencodable? : Text → Option EncodeError :=
  surrogateRun? CodePoint.isSurrogate

end Utf8

end OpenApiGate
