import Mathlib.Logic.Relation
import OpenApiGate.Json.DecodeError

/-!
# The grammar of JSON

A production tells which texts start with a piece of some kind and what is left
behind the piece.  The productions are those of the standard, the words for
values apart, which are a parameter: what the standard admits and what the
decoder admits differ in the words only.
-/

namespace OpenApiGate.Json

/-- Which texts start with a piece of some kind, and what is left behind it. -/
abbrev Production :=
  Text → Text → Prop

namespace Production

/-- One code point that passes a test. -/
def one (test : CodePoint → Prop) : Production :=
  fun text rest => ∃ point, test point ∧ text = point :: rest

/-- A given character. -/
def mark (char : Char) : Production :=
  one fun point => point = CodePoint.ofChar char

/-- A code point from `low` to `high`. -/
def range (low high : Nat) : Production :=
  one fun point => low ≤ point.value ∧ point.value ≤ high

/-- A given word. -/
def word (letters : Text) : Production :=
  fun text rest => text = letters ++ rest

/-- A piece of the one kind and behind it a piece of the other. -/
def andThen (first second : Production) : Production :=
  Relation.Comp first second

/-- A piece of either kind. -/
def orElse (first second : Production) : Production :=
  fun text rest => first text rest ∨ second text rest

/-- A piece or nothing. -/
def maybe (production : Production) : Production :=
  Relation.ReflGen production

/-- Pieces behind one another, any number of them. -/
def many (production : Production) : Production :=
  Relation.ReflTransGen production

/-! ## Blanks, numbers and strings -/

/-- A blank: a space, a tab, a line feed or a carriage return. -/
def blank : Production :=
  one fun point =>
    point.value = 0x20 ∨ point.value = 0x09 ∨ point.value = 0x0A ∨ point.value = 0x0D

def blanks : Production :=
  blank.many

def digit : Production :=
  range 0x30 0x39

def digits : Production :=
  digit.andThen digit.many

/-- The whole part of a number: a zero, or digits that start with another one. -/
def whole : Production :=
  (mark '0').orElse ((range 0x31 0x39).andThen digit.many)

/-- A point and digits. -/
def fraction : Production :=
  (mark '.').andThen digits

/-- An `e` in either case and digits, which may have a sign. -/
def exponent : Production :=
  ((mark 'e').orElse (mark 'E')).andThen (((mark '-').orElse (mark '+')).maybe.andThen digits)

/-- A number without its sign. -/
def unsigned : Production :=
  whole.andThen (fraction.maybe.andThen exponent.maybe)

def number : Production :=
  (mark '-').maybe.andThen unsigned

/-- A code point that stands for itself: no control character, no quotation mark, no backslash. -/
def plain : Production :=
  (range 0x20 0x21).orElse ((range 0x23 0x5B).orElse (range 0x5D 0x10FFFF))

def hexDigit : Production :=
  digit.orElse ((range 0x41 0x46).orElse (range 0x61 0x66))

def hexQuad : Production :=
  hexDigit.andThen (hexDigit.andThen (hexDigit.andThen hexDigit))

/-- The letters of the short escapes. -/
def escapeLetters : Text :=
  "\"\\/bfnrt"

/-- A backslash and behind it a letter, or a `u` and four hexadecimal digits. -/
def escape : Production :=
  (mark '\\').andThen
    ((one fun point => point ∈ escapeLetters).orElse
      ((mark 'u').andThen hexQuad))

/-- What is between the quotation marks of a string. -/
def characters : Production :=
  (plain.orElse escape).many

/-- What is left of a string behind its opening quotation mark. -/
def stringTail : Production :=
  characters.andThen (mark '"')

def string : Production :=
  (mark '"').andThen stringTail

end Production

/-! ## Values -/

/-- The kinds of pieces that are described by one another. -/
inductive Part where
  | value
  | member
  /-- What is between the marks of a container that is not empty. -/
  | entries (container : Container)

namespace Container

def opening : Container → Char
  | .array => '['
  | .object => '\x7b'

def closing : Container → Char
  | .array => ']'
  | .object => '\x7d'

/-- What the entries of a container are. -/
def entry : Container → Part
  | .array => .value
  | .object => .member

end Container

open Production (blanks mark)

/-- The pieces of a text in which the given words stand for values. -/
inductive Derives (words : List Text) : Part → Production where
  | word
      {letters text rest : Text}
      (known : letters ∈ words)
      (spelled : Production.word letters text rest) :
      Derives words .value text rest
  | number
      {text rest : Text}
      (spelled : Production.number text rest) :
      Derives words .value text rest
  | string
      {text rest : Text}
      (spelled : Production.string text rest) :
      Derives words .value text rest
  | empty
      {container : Container}
      {text inner behind rest : Text}
      (opens : mark container.opening text inner)
      (blank : blanks inner behind)
      (closes : mark container.closing behind rest) :
      Derives words .value text rest
  | full
      {container : Container}
      {text inner behind rest : Text}
      (opens : mark container.opening text inner)
      (entries : Derives words (.entries container) inner behind)
      (closes : mark container.closing behind rest) :
      Derives words .value text rest
  | member
      {text afterKey colon afterColon value rest : Text}
      (key : Production.string text afterKey)
      (beforeColon : blanks afterKey colon)
      (separates : mark ':' colon afterColon)
      (beforeValue : blanks afterColon value)
      (derives : Derives words .value value rest) :
      Derives words .member text rest
  | last
      {container : Container}
      {text entry afterEntry rest : Text}
      (before : blanks text entry)
      (derives : Derives words container.entry entry afterEntry)
      (after : blanks afterEntry rest) :
      Derives words (.entries container) text rest
  | more
      {container : Container}
      {text entry afterEntry comma next rest : Text}
      (before : blanks text entry)
      (derives : Derives words container.entry entry afterEntry)
      (after : blanks afterEntry comma)
      (separates : mark ',' comma next)
      (others : Derives words (.entries container) next rest) :
      Derives words (.entries container) text rest

/-- One value with blanks around it. -/
def IsDocument (words : List Text) (text : Text) : Prop :=
  ∃ value after, blanks text value ∧ Derives words .value value after ∧ blanks after []

/-- The words that stand for values by the standard. -/
def standardWords : List Text :=
  ["null", "true", "false"]

/-- The words for what is no number in the sense of the standard. -/
def numberWords : List Text :=
  ["NaN", "Infinity", "-Infinity"]

/-- The words that the decoder takes for values. -/
def admittedWords : List Text :=
  standardWords ++ numberWords

/-! ## What a piece is made of -/

namespace Production

/-- A piece of the production is made of code points that pass the test, whatever follows it. -/
structure Takes (test : CodePoint → Prop) (production : Production) : Prop where
  taken :
    ∀ {text rest : Text}, production text rest →
      ∃ taken : Text, text = taken ++ rest ∧ (∀ point ∈ taken, test point) ∧
        ∀ other, production (taken ++ other) other

namespace Takes

variable {test : CodePoint → Prop} {first second production : Production}

theorem one
    {narrower : CodePoint → Prop}
    (passes : ∀ point, narrower point → test point) :
    Takes test (one narrower) where
  taken := by
    rintro _ rest ⟨point, narrow, rfl⟩
    exact
      ⟨[point], rfl, List.forall_mem_singleton.mpr (passes point narrow),
        fun other => ⟨point, narrow, rfl⟩⟩

theorem mark
    {char : Char}
    (passes : test (CodePoint.ofChar char)) :
    Takes test (mark char) :=
  one fun _ same => same ▸ passes

theorem word
    {letters : Text}
    (pass : ∀ point ∈ letters, test point) :
    Takes test (word letters) where
  taken := by
    rintro _ rest rfl
    exact ⟨letters, rfl, pass, fun other => rfl⟩

theorem andThen
    (takesFirst : Takes test first)
    (takesSecond : Takes test second) :
    Takes test (first.andThen second) where
  taken := by
    rintro text rest ⟨between, before, after⟩
    rcases takesFirst.taken before with ⟨taken, rfl, pass, again⟩
    rcases takesSecond.taken after with ⟨others, rfl, othersPass, othersAgain⟩
    refine ⟨taken ++ others, ?_, List.forall_mem_append.mpr ⟨pass, othersPass⟩, ?_⟩
    · rw [List.append_assoc]
    · intro other
      rw [List.append_assoc]
      exact ⟨others ++ other, again _, othersAgain other⟩

theorem orElse
    (takesFirst : Takes test first)
    (takesSecond : Takes test second) :
    Takes test (first.orElse second) where
  taken := by
    rintro text rest (piece | piece)
    · rcases takesFirst.taken piece with ⟨taken, spelled, pass, again⟩
      exact ⟨taken, spelled, pass, fun other => Or.inl (again other)⟩
    · rcases takesSecond.taken piece with ⟨taken, spelled, pass, again⟩
      exact ⟨taken, spelled, pass, fun other => Or.inr (again other)⟩

theorem maybe (takes : Takes test production) : Takes test production.maybe where
  taken := by
    rintro text rest (_ | piece)
    · exact ⟨[], rfl, List.forall_mem_nil test, fun other => .refl⟩
    · rcases takes.taken piece with ⟨taken, spelled, pass, again⟩
      exact ⟨taken, spelled, pass, fun other => .single (again other)⟩

theorem many (takes : Takes test production) : Takes test production.many where
  taken := by
    intro text rest pieces
    induction pieces using Relation.ReflTransGen.head_induction_on with
    | refl => exact ⟨[], rfl, List.forall_mem_nil test, fun other => .refl⟩
    | head piece _ ih =>
        rcases takes.taken piece with ⟨taken, rfl, pass, again⟩
        rcases ih with ⟨others, rfl, othersPass, othersAgain⟩
        refine ⟨taken ++ others, ?_, List.forall_mem_append.mpr ⟨pass, othersPass⟩, ?_⟩
        · rw [List.append_assoc]
        · intro other
          rw [List.append_assoc]
          exact .head (again _) (othersAgain other)

theorem mono
    {wider : CodePoint → Prop}
    (takes : Takes test production)
    (widens : ∀ point, test point → wider point) :
    Takes wider production where
  taken := by
    intro text rest piece
    rcases takes.taken piece with ⟨taken, spelled, pass, again⟩
    exact ⟨taken, spelled, fun point member => widens point (pass point member), again⟩

theorem length_le
    {text rest : Text}
    (takes : Takes test production)
    (piece : production text rest) :
    rest.length ≤ text.length := by
  rcases takes.taken piece with ⟨taken, rfl, -⟩
  rw [List.length_append]
  exact Nat.le_add_left _ _

end Takes

/-- The code points of numbers: digits, and the marks before and between them. -/
def IsNumeric (point : CodePoint) : Prop :=
  (0x30 ≤ point.value ∧ point.value ≤ 0x39) ∨
    point.value = 0x2B ∨ point.value = 0x2D ∨ point.value = 0x2E ∨
      point.value = 0x45 ∨ point.value = 0x65

instance (point : CodePoint) : Decidable (IsNumeric point) :=
  inferInstanceAs (Decidable (_ ∨ _))

theorem takes_number : Takes IsNumeric number := by
  have digitTakes : Takes IsNumeric digit := .one fun _ bounds => Or.inl bounds
  have digitsTake : Takes IsNumeric digits := digitTakes.andThen digitTakes.many
  have wholeTakes : Takes IsNumeric whole :=
    (Takes.mark (by decide)).orElse
      ((Takes.one fun _ bounds => Or.inl (by omega)).andThen digitTakes.many)
  have fractionTakes : Takes IsNumeric fraction := (Takes.mark (by decide)).andThen digitsTake
  have signTakes : Takes IsNumeric ((Production.mark '-').orElse (.mark '+')) :=
    (Takes.mark (by decide)).orElse (.mark (by decide))
  have exponentTakes : Takes IsNumeric exponent :=
    ((Takes.mark (by decide)).orElse (.mark (by decide))).andThen
      (signTakes.maybe.andThen digitsTake)
  exact
    (Takes.mark (by decide)).maybe.andThen
      (wholeTakes.andThen (fractionTakes.maybe.andThen exponentTakes.maybe))

theorem takes_blanks : Takes (fun point => point.value ≤ 0x20) blanks :=
  (Takes.one fun point isBlank => by omega).many

/-- A string holds no control character. -/
theorem takes_string : Takes (fun point => 0x20 ≤ point.value) string := by
  have rangeTakes {low high : Nat} (above : 0x20 ≤ low) :
      Takes (fun point => 0x20 ≤ point.value) (range low high) :=
    .one fun point bounds => Nat.le_trans above bounds.1
  have hexDigitTakes : Takes (fun point => 0x20 ≤ point.value) hexDigit :=
    (rangeTakes (by decide)).orElse ((rangeTakes (by decide)).orElse (rangeTakes (by decide)))
  have quadTakes : Takes (fun point => 0x20 ≤ point.value) hexQuad :=
    hexDigitTakes.andThen (hexDigitTakes.andThen (hexDigitTakes.andThen hexDigitTakes))
  have plainTakes : Takes (fun point => 0x20 ≤ point.value) plain :=
    (rangeTakes (by decide)).orElse ((rangeTakes (by decide)).orElse (rangeTakes (by decide)))
  have escapeTakes : Takes (fun point => 0x20 ≤ point.value) escape :=
    (Takes.mark (by decide)).andThen
      ((Takes.one (by decide)).orElse ((Takes.mark (by decide)).andThen quadTakes))
  exact
    (Takes.mark (by decide)).andThen
      ((plainTakes.orElse escapeTakes).many.andThen (.mark (by decide)))

end Production

open Production (takes_blanks takes_number takes_string)

theorem length_lt_of_mark
    {char : Char}
    {text rest : Text}
    (marked : mark char text rest) :
    rest.length < text.length := by
  rcases marked with ⟨point, -, rfl⟩
  exact Nat.lt_succ_self _

/-- A piece does not leave more of the text than there was. -/
theorem length_le_of_derives
    {words : List Text}
    {part : Part}
    {text rest : Text}
    (derives : Derives words part text rest) :
    rest.length ≤ text.length := by
  induction derives with
  | word _ spelled =>
      rw [spelled, List.length_append]
      omega
  | number spelled => exact takes_number.length_le spelled
  | string spelled => exact takes_string.length_le spelled
  | empty opens blank closes =>
      have first := length_lt_of_mark opens
      have second := takes_blanks.length_le blank
      have third := length_lt_of_mark closes
      omega
  | full opens _ closes ih =>
      have first := length_lt_of_mark opens
      have third := length_lt_of_mark closes
      omega
  | member key beforeColon separates beforeValue _ ih =>
      have first := takes_string.length_le key
      have second := takes_blanks.length_le beforeColon
      have third := length_lt_of_mark separates
      have fourth := takes_blanks.length_le beforeValue
      omega
  | last before _ after ih =>
      have first := takes_blanks.length_le before
      have third := takes_blanks.length_le after
      omega
  | more before _ after separates _ ih ihOthers =>
      have first := takes_blanks.length_le before
      have third := takes_blanks.length_le after
      have fourth := length_lt_of_mark separates
      omega

end OpenApiGate.Json
