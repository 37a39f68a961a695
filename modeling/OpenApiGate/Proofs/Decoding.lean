import Mathlib.Data.List.TakeWhile
import OpenApiGate.Json.Decoder
import OpenApiGate.Text.Newline
import OpenApiGate.Text.Utf8

/-!
# How decoding starts

The first code point of a text decides what is read from it: a container, a
string, a word, or a number.  A text of nothing but digits is a number, which is
refused once it has more digits than the limit.  A blank text holds no value.
-/

namespace OpenApiGate

/-- A test tells a code point that passes it from a character that does not. -/
theorem CodePoint.is_eq_false_of_test
    {test : CodePoint → Bool}
    {char : Char}
    {point : CodePoint}
    (passes : test point = true)
    (fails : test (ofChar char) = false) :
    point.is char = false := by
  rw [Bool.eq_false_iff]
  intro same
  have equal : point = ofChar char := by simpa [is] using same
  rw [equal, fails] at passes
  cases passes

/-- Digits are no line ends. -/
theorem Text.unifyLineEnds_of_digits
    {text : Text}
    (digits : ∀ point ∈ text, point.isDigit = true) :
    text.unifyLineEnds = text := by
  induction text with
  | nil => rfl
  | cons first rest ih =>
      have noReturn : first.is '\r' = false :=
        CodePoint.is_eq_false_of_test (digits first List.mem_cons_self) rfl
      unfold unifyLineEnds
      rw [noReturn, ih fun point member => digits point (List.mem_cons_of_mem first member)]
      rfl

/-- A text that is trimmed away is blank throughout. -/
theorem Text.isBlank_of_trim_eq_nil
    {text : Text}
    (trimmed : text.trim = []) :
    ∀ point ∈ text, point.isBlank = true := by
  unfold trim trimWhile trimEndWhile at trimmed
  rw [List.reverse_eq_nil_iff, List.dropWhile_eq_nil_iff] at trimmed
  have nothingLeft : text.dropWhile CodePoint.isBlank = [] := by
    cases left : text.dropWhile CodePoint.isBlank with
    | nil => rfl
    | cons first rest =>
        have blank : first.isBlank = true := by
          apply trimmed
          simp [left]
        have notBlank := List.head?_dropWhile_not CodePoint.isBlank text
        rw [left] at notBlank
        simp [blank] at notBlank
  exact List.dropWhile_eq_nil_iff.mp nothingLeft

namespace Utf8

/-- Bytes below 0x80 spell one code point each. -/
theorem decodeFrom_of_ascii
    {bytes : Bytes}
    (ascii : ∀ byte ∈ bytes, byte < 0x80)
    (position : Nat)
    (decoded : Text) :
    decodeFrom position none decoded bytes =
      .ok (decoded.reverse ++ bytes.map fun byte => CodePoint.ofNat byte.toNat) := by
  induction bytes generalizing position decoded with
  | nil => simp [decodeFrom]
  | cons byte rest ih =>
      have whole : start? byte = some (.inl (CodePoint.ofNat byte.toNat)) :=
        if_pos (ascii byte List.mem_cons_self)
      rw [decodeFrom, whole]
      simp only
      rw [ih fun other member => ascii other (List.mem_cons_of_mem byte member)]
      simp

/-- A byte below 0x80 spells the code point of its number. -/
theorem decode_of_ascii
    {bytes : Bytes}
    (ascii : ∀ byte ∈ bytes, byte < 0x80) :
    decode bytes = .ok (bytes.map fun byte => CodePoint.ofNat byte.toNat) :=
  decodeFrom_of_ascii ascii 0 []

end Utf8

namespace Json

open CodePoint (is_eq_false_of_test)

/-! ## Where a number is expected -/

/-- The characters with which a container, a string, a word or a negative number starts. -/
def startMarks : List Char :=
  ['[', '\x7b', '"', '-', 'n', 't', 'f', 'N', 'I']

/-- The code point starts nothing but a number, if it starts anything. -/
def LeavesNumber (first : CodePoint) : Prop :=
  ∀ mark ∈ startMarks, first.is mark = false

/-- A code point leaves only a number if it passes a test that all these characters fail. -/
theorem leavesNumber_of_test
    {test : CodePoint → Bool}
    {first : CodePoint}
    (passes : test first = true)
    (fails : (startMarks.any fun mark => test (CodePoint.ofChar mark)) = false) :
    LeavesNumber first := by
  intro mark member
  apply is_eq_false_of_test passes
  exact Bool.eq_false_iff.mpr (List.any_eq_false.mp fails mark member)

variable {first : CodePoint} {rest : Text}

theorem exists_mark_of_mem_words
    {entry : String × Value}
    (member : entry ∈ words) :
    ∃ mark letters, Text.ofString entry.1 = CodePoint.ofChar mark :: letters ∧
      mark ∈ startMarks := by
  simp only [words, List.mem_cons, List.not_mem_nil, or_false] at member
  rcases member with rfl | rfl | rfl | rfl | rfl | rfl <;> exact ⟨_, _, rfl, by decide⟩

theorem afterWord?_of_leavesNumber
    (leaves : LeavesNumber first)
    {entry : String × Value}
    (member : entry ∈ words) :
    afterWord? entry.1 (first :: rest) = none := by
  rcases exists_mark_of_mem_words member with ⟨mark, letters, spelled, isMark⟩
  have different : CodePoint.ofChar mark ≠ first := by
    rintro rfl
    have other := leaves mark isMark
    simp [CodePoint.is] at other
  simp [afterWord?, spelled, different]

theorem readScalar_of_leavesNumber (leaves : LeavesNumber first) :
    readScalar (first :: rest) = readNumber (first :: rest) false (first :: rest) := by
  have noQuote : first.is '"' = false := leaves '"' (by decide)
  have noSign : first.is '-' = false := leaves '-' (by decide)
  unfold readScalar
  simp only [noQuote, noSign, Bool.false_eq_true, if_false]
  split
  · next found =>
      rcases List.exists_of_findSome?_eq_some found with ⟨entry, member, isWord⟩
      simp only [afterWord?_of_leavesNumber leaves member] at isWord
      cases isWord
  · rfl

theorem readValue_of_leavesNumber
    (leaves : LeavesNumber first)
    (depth : Nat) :
    readValue (depth + 1) (first :: rest) =
      readNumber (first :: rest) false (first :: rest) := by
  have noArray : first.is '[' = false := leaves '[' (by decide)
  have noObject : first.is '\x7b' = false := leaves '\x7b' (by decide)
  rw [← readScalar_of_leavesNumber leaves]
  unfold readValue
  simp only [noArray, noObject, Bool.false_eq_true, if_false]

/-! ## Integers beyond the limit -/

/-- Digits beyond the limit are counted and refused. -/
theorem readNumber_of_digits
    (digits : ∀ point ∈ first :: rest, point.isDigit = true)
    (noZero : first.is '0' = false)
    (many : Decimal.integerDigitLimit < (first :: rest).length) :
    readNumber (first :: rest) false (first :: rest) =
      .error (.integer (.tooLong (first :: rest).length)) := by
  have all : rest.takeWhile CodePoint.isDigit = rest :=
    List.takeWhile_eq_self_iff.mpr fun point member =>
      digits point (List.mem_cons_of_mem first member)
  have whole : wholeDigits (first :: rest) = first :: rest := by
    simp [wholeDigits, noZero, digits first List.mem_cons_self, all]
  simp only [readNumber, whole, List.drop_length, fractionDigits, exponentPart]
  exact if_pos many

theorem skipSpaces_of_not_isSpace (notSpace : isSpace first = false) :
    skipSpaces (first :: rest) = first :: rest :=
  List.dropWhile_cons_of_neg (by simp [notSpace])

theorem isSpace_of_isDigit (digit : first.isDigit = true) : isSpace first = false := by
  simp only [isSpace, Bool.or_eq_false_iff]
  exact
    ⟨⟨⟨is_eq_false_of_test digit rfl, is_eq_false_of_test digit rfl⟩,
      is_eq_false_of_test digit rfl⟩, is_eq_false_of_test digit rfl⟩

/-- A text of nothing but digits is refused if it has too many of them. -/
theorem decode_of_digits
    (digits : ∀ point ∈ first :: rest, point.isDigit = true)
    (noZero : first.is '0' = false)
    (many : Decimal.integerDigitLimit < (first :: rest).length) :
    decode (first :: rest) = .error (.integer (.tooLong (first :: rest).length)) := by
  have digit : first.isDigit = true := digits first List.mem_cons_self
  have leaves : LeavesNumber first := leavesNumber_of_test digit rfl
  have noMark : (first.value == 0xFEFF) = false := by
    simp only [CodePoint.isDigit, CodePoint.inRange, Bool.and_eq_true, decide_eq_true_eq] at digit
    simp only [beq_eq_false_iff_ne]
    omega
  have read :
      readDocument (first :: rest) = .error (.integer (.tooLong (first :: rest).length)) := by
    unfold readDocument
    simp only [List.head?_cons, Option.any_some, noMark, nestingLimit,
      skipSpaces_of_not_isSpace (isSpace_of_isDigit digit), readValue_of_leavesNumber leaves 989,
      readNumber_of_digits digits noZero many, Bool.false_eq_true, if_false]
  simp only [decode, read, Stop.toError]

/-! ## Blank texts -/

theorem readNumber_of_isBlank (blank : first.isBlank = true) :
    readNumber (first :: rest) false (first :: rest) = .error (.fault .value (first :: rest)) := by
  have noZero : first.is '0' = false := is_eq_false_of_test blank rfl
  have noDigit : first.isDigit = false := by
    rw [Bool.eq_false_iff]
    intro digit
    simp only [CodePoint.isDigit, CodePoint.inRange, Bool.and_eq_true, decide_eq_true_eq] at digit
    simp [CodePoint.isBlank, CodePoint.isWhiteSpace, CodePoint.inRange] at blank
    omega
  have noDigits : wholeDigits (first :: rest) = [] := by
    simp [wholeDigits, noZero, noDigit]
  simp [readNumber, noDigits]

/-- Blanks alone hold no value. -/
theorem readDocument_of_isBlank
    {text : Text}
    (blank : ∀ point ∈ text, point.isBlank = true) :
    ∃ left, readDocument text = .error (.fault .value left) := by
  have noMark : (text.head?.any fun point => point.value == 0xFEFF) = false := by
    cases text with
    | nil => rfl
    | cons first rest =>
        have firstBlank : first.isBlank = true := blank first List.mem_cons_self
        simp only [List.head?_cons, Option.any_some, beq_eq_false_iff_ne]
        simp [CodePoint.isBlank, CodePoint.isWhiteSpace, CodePoint.inRange] at firstBlank
        omega
  unfold readDocument
  simp only [noMark, Bool.false_eq_true, if_false, nestingLimit]
  cases left : skipSpaces text with
  | nil => exact ⟨[], rfl⟩
  | cons first rest =>
      -- The decoder skips fewer blanks than trimming takes away, so one may be left.
      have member : first ∈ text := by
        apply (List.dropWhile_sublist isSpace).subset
        show first ∈ skipSpaces text
        rw [left]
        exact List.mem_cons_self
      have leaves : LeavesNumber first := leavesNumber_of_test (blank first member) rfl
      refine ⟨first :: rest, ?_⟩
      rw [readValue_of_leavesNumber leaves 989, readNumber_of_isBlank (blank first member)]

/-- A blank text holds no value. -/
theorem decode_of_isBlank
    {text : Text}
    (blank : ∀ point ∈ text, point.isBlank = true) :
    ∃ position, decode text = .error (.syntaxFault .value position) := by
  rcases readDocument_of_isBlank blank with ⟨left, stopped⟩
  simp only [decode, stopped, Stop.toError]
  exact ⟨_, rfl⟩

end Json

end OpenApiGate
