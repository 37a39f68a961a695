import OpenApiGate.Json.Writer
import OpenApiGate.Proofs.Decoding
import OpenApiGate.Proofs.Numerals

/-!
# What spells a scalar

A text spells a part for a reader if the reader takes the part off the front of
every longer text, as long as what follows does not go on with a number.  The
words, the integers of few enough digits, the literals of doubles and the
escaped strings are spelled so.
-/

namespace OpenApiGate

namespace Json

open CodePoint (is_eq_false_of_test)
open Decimal (Below Literal Whole digitsText digitsText_append ofDigits)

/-! ## Where a part starts and ends -/

/-- A code point that a number could go on with. -/
def continuesNumber (point : CodePoint) : Bool :=
  point.isDigit || point.is '.' || point.is 'e' || point.is 'E'

/-- What follows a number does not go on with it. -/
def Ends (rest : Text) : Prop :=
  ∀ point ∈ rest.head?, continuesNumber point = false

theorem ends_nil : Ends [] := by
  intro point member
  cases member

theorem ends_cons
    {point : CodePoint}
    (ends : continuesNumber point = false)
    (rest : Text) :
    Ends (point :: rest) := by
  rintro _ ⟨⟩
  exact ends

/-- A code point that a part can start with: no blank, no closing mark and no byte order mark. -/
structure Starts (point : CodePoint) : Prop where
  notSpace : isSpace point = false
  notArrayEnd : point.is ']' = false
  notObjectEnd : point.is '\x7d' = false
  ascii : point.value < 0x80

theorem starts_of_isDigit
    {point : CodePoint}
    (digit : point.isDigit = true) :
    Starts point where
  notSpace := isSpace_of_isDigit digit
  notArrayEnd := is_eq_false_of_test digit rfl
  notObjectEnd := is_eq_false_of_test digit rfl
  ascii := by
    simp only [CodePoint.isDigit, CodePoint.inRange, Bool.and_eq_true, decide_eq_true_eq] at digit
    omega

/-- A reader reads a part from the front of every text that starts with the text of the part. -/
structure Spells
    {α : Type}
    (reader : Reader α)
    (text : Text)
    (part : α) :
    Prop where
  starts : ∃ first more, text = first :: more ∧ Starts first
  reads : ∀ rest, Ends rest → reader (text ++ rest) = .ok (part, rest)

/-! ## Numbers -/

section Numbers

variable {rest : Text}

theorem Ends.noDigit (ends : Ends rest) : ∀ point ∈ rest.head?, point.isDigit = false := by
  intro point member
  have other := ends point member
  simp only [continuesNumber, Bool.or_eq_false_iff] at other
  exact other.1.1.1

theorem Ends.noFraction (ends : Ends rest) : fractionDigits rest = [] := by
  cases rest with
  | nil => rfl
  | cons point after =>
      have other := ends point rfl
      simp only [continuesNumber, Bool.or_eq_false_iff] at other
      simp only [fractionDigits, other.1.1.2, Bool.false_eq_true, if_false]

theorem Ends.noExponent (ends : Ends rest) : exponentPart rest = none := by
  cases rest with
  | nil => rfl
  | cons point after =>
      have other := ends point rfl
      simp only [continuesNumber, Bool.or_eq_false_iff] at other
      simp only [exponentPart, other.1.2, other.2, Bool.or_self, Bool.false_eq_true, if_false]

theorem takeWhile_digitsText
    {digits : List Nat}
    (below : Below digits)
    (ends : ∀ point ∈ rest.head?, point.isDigit = false) :
    (digitsText digits ++ rest).takeWhile CodePoint.isDigit = digitsText digits := by
  rw [List.takeWhile_append_of_pos (Decimal.isDigit_of_mem_digitsText below)]
  cases rest with
  | nil => exact List.append_nil _
  | cons point after =>
      have noDigit : point.isDigit = false := ends point rfl
      rw [List.takeWhile_cons_of_neg (by simp [noDigit]), List.append_nil]

theorem wholeDigits_digitsText
    {digits : List Nat}
    (whole : Whole digits)
    (ends : ∀ point ∈ rest.head?, point.isDigit = false) :
    wholeDigits (digitsText digits ++ rest) = digitsText digits := by
  have all := takeWhile_digitsText whole.below ends
  rcases whole.leads with rfl | ⟨first, others, rfl, positive⟩
  · rfl
  · have small : first < 10 := whole.below first List.mem_cons_self
    have noZero : (CodePoint.ofDigit first).is '0' = false := by
      rw [Bool.eq_false_iff]
      intro zero
      have value := CodePoint.value_eq_of_is zero
      rw [Decimal.value_ofDigit small] at value
      change 0x30 + first = 0x30 at value
      omega
    have digit : (CodePoint.ofDigit first).isDigit = true :=
      Decimal.isDigit_of_mem_digitsText whole.below _ List.mem_cons_self
    change (CodePoint.ofDigit first :: (digitsText others ++ rest)).takeWhile _ = _ at all
    rw [List.takeWhile_cons_of_pos digit] at all
    show wholeDigits (CodePoint.ofDigit first :: (digitsText others ++ rest)) = _
    simp only [wholeDigits, noZero, digit, Bool.false_eq_true, if_false, if_true, all]

/-- An integer of few enough digits is read back as it is. -/
theorem readNumber_ofNat
    {number : Nat}
    (short : (Decimal.digitsOf number).length ≤ Decimal.integerDigitLimit)
    (text : Text)
    (negative : Bool)
    (ends : Ends rest) :
    readNumber text negative (Text.ofNat number ++ rest) =
      .ok (.integer (if negative then -(number : Int) else number), rest) := by
  have proper := Decimal.whole_digitsOf number
  have whole := wholeDigits_digitsText proper ends.noDigit
  have nonempty : (digitsText (Decimal.digitsOf number)).isEmpty = false :=
    Decimal.isEmpty_digitsText proper.ne_nil
  have limited : ¬Decimal.integerDigitLimit < (digitsText (Decimal.digitsOf number)).length := by
    rw [Decimal.length_digitsText]
    exact Nat.not_lt.mpr short
  rw [Decimal.ofNat_eq_digitsText]
  simp only [readNumber, whole, nonempty, List.drop_left, ends.noFraction, ends.noExponent,
    limited, Decimal.ofDigitText_digitsText proper.below, Decimal.ofDigits_digitsOf,
    List.isEmpty_nil, Bool.false_eq_true, if_true, if_false]

theorem fractionDigits_fractionText
    {fraction : List Nat}
    (below : Below fraction)
    (noDigit : ∀ point ∈ rest.head?, point.isDigit = false)
    (noPoint : fractionDigits rest = []) :
    fractionDigits (Literal.fractionText fraction ++ rest) = digitsText fraction := by
  cases fraction with
  | nil => exact noPoint
  | cons first more => exact takeWhile_digitsText below noDigit

theorem drop_fractionText (fraction : List Nat) :
    (if (digitsText fraction).isEmpty then Literal.fractionText fraction ++ rest
      else (Literal.fractionText fraction ++ rest).drop ((digitsText fraction).length + 1)) =
      rest := by
  cases fraction with
  | nil => rfl
  | cons first more =>
      show (digitsText (first :: more) ++ rest).drop (digitsText (first :: more)).length = rest
      exact List.drop_left

/-- An exponent is read back as the power of ten that it stands for. -/
theorem exponentPart_of_sign
    {sign : CodePoint}
    {negative : Bool}
    {digits : List Nat}
    (isSign : (sign.is '-' || sign.is '+') = true)
    (split : ∀ text, Decimal.splitSign (sign :: text) = (negative, text))
    (nonempty : digits ≠ [])
    (below : Below digits)
    (ends : Ends rest) :
    exponentPart (CodePoint.ofChar 'e' :: sign :: (digitsText digits ++ rest)) =
      some (Literal.power (some (negative, digits)),
        (CodePoint.ofChar 'e' :: sign :: digitsText digits).length) := by
  have mark : ((CodePoint.ofChar 'e').is 'e' || (CodePoint.ofChar 'e').is 'E') = true := rfl
  have all := takeWhile_digitsText below ends.noDigit
  have present : (digitsText digits).isEmpty = false := Decimal.isEmpty_digitsText nonempty
  have length :
      1 + true.toNat + (digitsText digits).length =
        (CodePoint.ofChar 'e' :: sign :: digitsText digits).length := by
    simp only [Bool.toNat_true, List.length_cons]
    omega
  simp only [exponentPart, mark, split, all, present, List.head?_cons, Option.any_some, isSign,
    length, Decimal.ofDigitText_digitsText below, Literal.power, Bool.false_eq_true, if_true,
    if_false]
  cases negative <;> rfl

theorem exponentPart_exponentText
    {exponent : Option (Bool × List Nat)}
    (proper : ∀ mark ∈ exponent, mark.2 ≠ [] ∧ Below mark.2)
    (ends : Ends rest) :
    exponentPart (Literal.exponentText exponent ++ rest) =
      exponent.map fun mark =>
        (Literal.power (some mark), (Literal.exponentText (some mark)).length) := by
  rcases exponent with _ | ⟨_ | _, digits⟩
  · exact ends.noExponent
  · rcases proper _ rfl with ⟨nonempty, below⟩
    exact exponentPart_of_sign rfl (fun _ => rfl) nonempty below ends
  · rcases proper _ rfl with ⟨nonempty, below⟩
    exact exponentPart_of_sign rfl (fun _ => rfl) nonempty below ends

theorem head_exponentText
    (exponent : Option (Bool × List Nat))
    (ends : Ends rest) :
    (∀ point ∈ (Literal.exponentText exponent ++ rest).head?, point.isDigit = false) ∧
      fractionDigits (Literal.exponentText exponent ++ rest) = [] := by
  rcases exponent with _ | ⟨_ | _, digits⟩
  · exact ⟨ends.noDigit, ends.noFraction⟩
  all_goals
    refine ⟨?_, rfl⟩
    rintro point ⟨⟩
    rfl

theorem head_fractionText
    (fraction : List Nat)
    (ends : ∀ point ∈ rest.head?, point.isDigit = false) :
    ∀ point ∈ (Literal.fractionText fraction ++ rest).head?, point.isDigit = false := by
  cases fraction with
  | nil => exact ends
  | cons first more =>
      rintro point ⟨⟩
      rfl

/-- A literal is read back as the double nearest to it. -/
theorem readNumber_literal
    {literal : Literal}
    (proper : literal.Proper)
    (text : Text)
    (negative : Bool)
    (ends : Ends rest) :
    readNumber text negative (literal.text ++ rest) =
      .ok (.double (literal.double negative), rest) := by
  rcases head_exponentText literal.exponent ends with ⟨noDigit, noPoint⟩
  have whole := wholeDigits_digitsText proper.whole (head_fractionText literal.fraction noDigit)
  have nonempty : (digitsText literal.whole).isEmpty = false :=
    Decimal.isEmpty_digitsText proper.whole.ne_nil
  have fraction := fractionDigits_fractionText proper.fraction noDigit noPoint
  have exponent := exponentPart_exponentText proper.exponent ends
  have coefficient :
      Decimal.ofDigitText (digitsText literal.whole ++ digitsText literal.fraction) =
        ofDigits (literal.whole ++ literal.fraction) := by
    rw [← digitsText_append]
    exact Decimal.ofDigitText_digitsText (proper.whole.below.append proper.fraction)
  simp only [Literal.text, List.append_assoc, readNumber, whole, nonempty, List.drop_left,
    fraction, drop_fractionText, exponent, coefficient, Bool.false_eq_true, if_false]
  -- Only a number without fraction and without exponent would be an integer.
  cases present : literal.exponent with
  | none =>
      have isDouble : (digitsText literal.fraction).isEmpty = false :=
        Decimal.isEmpty_digitsText (proper.isDouble.resolve_right (absurd present))
      simp only [isDouble, Option.map_none, Option.getD_none, Literal.double, present,
        Decimal.length_digitsText]
      rfl
  | some mark =>
      simp only [Option.map_some, Literal.double, present, Decimal.length_digitsText]
      cases (digitsText literal.fraction).isEmpty <;>
        simp only [Option.getD_some, List.drop_left]

end Numbers

/-! ## Values that are no containers -/

section Scalars

variable {first : CodePoint} {rest : Text}

theorem readValue_eq_readScalar
    (noArray : first.is '[' = false)
    (noObject : first.is '\x7b' = false)
    (depth : Nat) :
    readValue depth (first :: rest) = readScalar (first :: rest) := by
  cases depth <;>
    simp only [readValue, noArray, noObject, Bool.false_eq_true, if_false]

/-- A part that is read as a scalar is read as a value at any depth. -/
theorem spells_of_readScalar
    {more : Text}
    {value : Value}
    (starts : Starts first)
    (noArray : first.is '[' = false)
    (noObject : first.is '\x7b' = false)
    (reads : ∀ rest, Ends rest → readScalar (first :: (more ++ rest)) = .ok (value, rest))
    (depth : Nat) :
    Spells (readValue depth) (first :: more) value where
  starts := ⟨first, more, rfl, starts⟩
  reads := by
    intro rest ends
    rw [List.cons_append, readValue_eq_readScalar noArray noObject]
    exact reads rest ends

theorem spells_null (depth : Nat) : Spells (readValue depth) "null" .null := by
  refine spells_of_readScalar ⟨rfl, rfl, rfl, by decide⟩ rfl rfl ?_ depth
  intro rest ends
  rfl

theorem spells_true (depth : Nat) : Spells (readValue depth) "true" (.bool true) := by
  refine spells_of_readScalar ⟨rfl, rfl, rfl, by decide⟩ rfl rfl ?_ depth
  intro rest ends
  rfl

theorem spells_false (depth : Nat) : Spells (readValue depth) "false" (.bool false) := by
  refine spells_of_readScalar ⟨rfl, rfl, rfl, by decide⟩ rfl rfl ?_ depth
  intro rest ends
  rfl

/-- No word starts with a minus and a digit. -/
theorem afterWord?_of_minus
    (digit : first.isDigit = true)
    {entry : String × Value}
    (member : entry ∈ words) :
    afterWord? entry.1 (CodePoint.ofChar '-' :: first :: rest) = none := by
  have noInfinity : CodePoint.ofChar 'I' ≠ first := by
    rintro rfl
    cases digit
  have spelled :
      Text.ofString "-Infinity" =
        CodePoint.ofChar '-' :: CodePoint.ofChar 'I' :: Text.ofString "nfinity" := rfl
  simp only [words, List.mem_cons, List.not_mem_nil, or_false] at member
  rcases member with rfl | rfl | rfl | rfl | rfl | rfl
  case inr.inr.inr.inr.inr => simp [afterWord?, spelled, noInfinity]
  all_goals rfl

theorem readScalar_of_minus (digit : first.isDigit = true) :
    readScalar (CodePoint.ofChar '-' :: first :: rest) =
      readNumber (CodePoint.ofChar '-' :: first :: rest) true (first :: rest) := by
  have noQuote : (CodePoint.ofChar '-').is '"' = false := rfl
  have minus : (CodePoint.ofChar '-').is '-' = true := rfl
  unfold readScalar
  simp only [noQuote, minus, Bool.false_eq_true, if_false, if_true]
  split
  · next found =>
      rcases List.exists_of_findSome?_eq_some found with ⟨entry, member, isWord⟩
      simp only [afterWord?_of_minus digit member] at isWord
      cases isWord
  · rfl

/-- A number starts with a digit behind its sign. -/
theorem spells_number
    {more : Text}
    {value : Value}
    (negative : Bool)
    (digit : first.isDigit = true)
    (reads : ∀ text rest, Ends rest →
      readNumber text negative (first :: (more ++ rest)) = .ok (value, rest))
    (depth : Nat) :
    Spells (readValue depth) (Decimal.signText negative ++ first :: more) value := by
  cases negative with
  | false =>
      have leaves : LeavesNumber first := leavesNumber_of_test digit rfl
      apply spells_of_readScalar (starts_of_isDigit digit)
      · exact leaves '[' (by decide)
      · exact leaves '\x7b' (by decide)
      · intro rest ends
        rw [readScalar_of_leavesNumber leaves]
        exact reads _ rest ends
  | true =>
      refine spells_of_readScalar ⟨rfl, rfl, rfl, by decide⟩ rfl rfl ?_ depth
      intro rest ends
      show readScalar (CodePoint.ofChar '-' :: first :: (more ++ rest)) = _
      rw [readScalar_of_minus digit]
      exact reads _ rest ends

/-- A number whose text is made of digits at its start. -/
theorem spells_digits
    {digits : List Nat}
    {more : Text}
    {value : Value}
    (nonempty : digits ≠ [])
    (below : Below digits)
    (negative : Bool)
    (reads : ∀ text rest, Ends rest →
      readNumber text negative (digitsText digits ++ more ++ rest) = .ok (value, rest))
    (depth : Nat) :
    Spells (readValue depth) (Decimal.signText negative ++ (digitsText digits ++ more)) value := by
  rcases List.exists_cons_of_ne_nil nonempty with ⟨leading, others, rfl⟩
  apply spells_number negative _ _ depth
  · exact Decimal.isDigit_of_mem_digitsText below _ List.mem_cons_self
  · exact reads

theorem spells_ofNat
    {number : Nat}
    (short : (Decimal.digitsOf number).length ≤ Decimal.integerDigitLimit)
    (negative : Bool)
    (depth : Nat) :
    Spells (readValue depth) (Decimal.signText negative ++ Text.ofNat number)
      (.integer (if negative then -(number : Int) else number)) := by
  have proper := Decimal.whole_digitsOf number
  rw [Decimal.ofNat_eq_digitsText, ← List.append_nil (digitsText _)]
  apply spells_digits proper.ne_nil proper.below
  intro text rest ends
  rw [List.append_nil, ← Decimal.ofNat_eq_digitsText]
  exact readNumber_ofNat short text negative ends

/-- An integer of few enough digits is read back as the same integer. -/
theorem spells_integer
    {value : Int}
    (short : (Decimal.digitsOf value.natAbs).length ≤ Decimal.integerDigitLimit)
    (depth : Nat) :
    Spells (readValue depth) (Text.ofInt value) (.integer value) := by
  cases value with
  | ofNat number => exact spells_ofNat short false depth
  | negSucc number => exact spells_ofNat short true depth

/-- A literal of a double is read back as the double nearest to it. -/
theorem spells_literal
    {literal : Literal}
    (proper : literal.Proper)
    (negative : Bool)
    (depth : Nat) :
    Spells (readValue depth) (Decimal.signText negative ++ literal.text)
      (.double (literal.double negative)) := by
  rw [Literal.text, List.append_assoc]
  apply spells_digits proper.whole.ne_nil proper.whole.below
  intro text rest ends
  rw [← List.append_assoc (digitsText literal.whole)]
  exact readNumber_literal proper text negative ends

end Scalars

/-! ## Strings -/

section Strings

variable (opening : Text) (progress : StringProgress) {rest : Text}

theorem readString_of_quote :
    readString opening progress (CodePoint.ofChar '"' :: rest) =
      .ok (progress.reversed.reverse, rest) := by
  unfold readString
  exact if_pos rfl

theorem readString_of_plain
    {point : CodePoint}
    (noQuote : point.is '"' = false)
    (noBackslash : point.is '\\' = false)
    (noControl : ¬point.value < 0x20) :
    readString opening progress (point :: rest) =
      readString opening (progress.push point) rest := by
  rw [readString.eq_def]
  simp only [noQuote, noBackslash, noControl, Bool.false_eq_true, if_false]

theorem readString_of_letter
    {letter escaped : CodePoint}
    (noNumber : letter.is 'u' = false)
    (escape : letterEscape? letter = some escaped) :
    readString opening progress (CodePoint.ofChar '\\' :: letter :: rest) =
      readString opening (progress.push escaped) rest := by
  have backslash : (CodePoint.ofChar '\\').is '\\' = true := rfl
  have noQuote : (CodePoint.ofChar '\\').is '"' = false := rfl
  rw [readString.eq_def]
  simp only [backslash, noQuote, noNumber, escape, Bool.false_eq_true, if_false, if_true]

theorem readString_of_number
    {a b c d : CodePoint}
    {number : Nat}
    (quad : hexQuad? a b c d = some number)
    (goesOn : rest ≠ []) :
    readString opening progress
        (CodePoint.ofChar '\\' :: CodePoint.ofChar 'u' :: a :: b :: c :: d :: rest) =
      readString opening (progress.pushEscaped (CodePoint.ofNat number)) rest := by
  have backslash : (CodePoint.ofChar '\\').is '\\' = true := rfl
  have noQuote : (CodePoint.ofChar '\\').is '"' = false := rfl
  have isNumber : (CodePoint.ofChar 'u').is 'u' = true := rfl
  have nonempty : rest.isEmpty = false := List.isEmpty_eq_false_iff.mpr goesOn
  rw [readString.eq_def]
  simp only [backslash, noQuote, isNumber, nonempty, quad, Bool.false_eq_true, if_false, if_true]

end Strings

/-- The number of a text of four hexadecimal digits. -/
def hexText? : Text → Option Nat
  | [a, b, c, d] => hexQuad? a b c d
  | _ => none

theorem exists_hexQuad?_of_hexText?
    {text : Text}
    {number : Nat}
    (spelled : hexText? text = some number) :
    ∃ a b c d, text = [a, b, c, d] ∧ hexQuad? a b c d = some number := by
  unfold hexText? at spelled
  split at spelled
  · next a b c d => exact ⟨a, b, c, d, rfl, spelled⟩
  · cases spelled

/-- A control character is escaped by the four hexadecimal digits of its number. -/
theorem hexQuad?_hexadecimal
    {number : Nat}
    (control : number < 0x20) :
    ∃ a b c d, Text.hexadecimal 4 number = [a, b, c, d] ∧ hexQuad? a b c d = some number := by
  have all : ∀ number < 0x20, hexText? (Text.hexadecimal 4 number) = some number := by decide
  exact exists_hexQuad?_of_hexText? (all number control)

/-- An escaped code point is read back as the code point. -/
theorem readString_escapedPoint
    (opening reversed : Text)
    (point : CodePoint)
    {rest : Text}
    (goesOn : rest ≠ []) :
    readString opening ⟨reversed, false⟩ (escapedPoint point ++ rest) =
      readString opening ⟨point :: reversed, false⟩ rest := by
  have readLetter : ∀ letter, letter.is 'u' = false → letterEscape? letter = some point →
      readString opening ⟨reversed, false⟩ (CodePoint.ofChar '\\' :: letter :: rest) =
        readString opening ⟨point :: reversed, false⟩ rest :=
    fun letter noNumber escape => readString_of_letter opening ⟨reversed, false⟩ noNumber escape
  unfold escapedPoint
  split
  · next quote =>
      rw [eq_of_beq quote] at readLetter ⊢
      exact readLetter '"' rfl rfl
  split
  · next backslash =>
      rw [eq_of_beq backslash] at readLetter ⊢
      exact readLetter '\\' rfl rfl
  split
  · next backspace =>
      have same : point = CodePoint.ofNat 0x08 := CodePoint.eq_of_value_eq backspace
      exact readLetter 'b' rfl (congrArg some same.symm)
  split
  · next formFeed =>
      have same : point = CodePoint.ofNat 0x0C := CodePoint.eq_of_value_eq formFeed
      exact readLetter 'f' rfl (congrArg some same.symm)
  split
  · next lineFeed =>
      have same : point = CodePoint.ofNat 0x0A := eq_of_beq lineFeed
      exact readLetter 'n' rfl (congrArg some same.symm)
  split
  · next carriageReturn =>
      have same : point = CodePoint.ofNat 0x0D := eq_of_beq carriageReturn
      exact readLetter 'r' rfl (congrArg some same.symm)
  split
  · next tab =>
      have same : point = CodePoint.ofNat 0x09 := eq_of_beq tab
      exact readLetter 't' rfl (congrArg some same.symm)
  split
  · next control =>
      rcases hexQuad?_hexadecimal control with ⟨a, b, c, d, digits, quad⟩
      have same : CodePoint.ofNat point.value = point := by
        rw [CodePoint.ofNat, dif_pos point.value_lt]
      -- The escape does not open a surrogate pair, so the next escape stands for itself.
      have noHigh : point.isHighSurrogate = false := by
        simp only [CodePoint.isHighSurrogate, CodePoint.inRange, Bool.and_eq_false_iff,
          decide_eq_false_iff_not]
        omega
      have read := readString_of_number opening ⟨reversed, false⟩ quad goesOn
      rw [same, StringProgress.pushEscaped, noHigh] at read
      rw [digits]
      exact read
  · next noQuote noBackslash _ _ _ _ _ noControl =>
      exact readString_of_plain opening ⟨reversed, false⟩ (Bool.eq_false_iff.mpr noQuote)
        (Bool.eq_false_iff.mpr noBackslash) noControl

/-- A string literal is read back as its text. -/
theorem readString_flatMap
    (opening text reversed rest : Text) :
    readString opening ⟨reversed, false⟩
        (text.flatMap escapedPoint ++ CodePoint.ofChar '"' :: rest) =
      .ok (reversed.reverse ++ text, rest) := by
  induction text generalizing reversed with
  | nil =>
      rw [List.append_nil]
      exact readString_of_quote opening ⟨reversed, false⟩
  | cons point more ih =>
      have goesOn : more.flatMap escapedPoint ++ CodePoint.ofChar '"' :: rest ≠ [] :=
        List.append_ne_nil_of_right_ne_nil _ (List.cons_ne_nil _ _)
      rw [List.flatMap_cons, List.append_assoc, readString_escapedPoint _ _ _ goesOn, ih,
        List.reverse_cons, List.append_assoc]
      rfl

/-- A string value is read back as its text. -/
theorem spells_string (text : Text) (depth : Nat) :
    Spells (readValue depth) (stringLiteral text) (.string text) := by
  refine spells_of_readScalar ⟨rfl, rfl, rfl, by decide⟩ rfl rfl ?_ depth
  intro rest _
  have quote : (CodePoint.ofChar '"').is '"' = true := rfl
  show readScalar
    (CodePoint.ofChar '"' :: (text.flatMap escapedPoint ++ "\"" ++ rest)) = _
  rw [List.append_assoc]
  simp only [readScalar, quote, if_true]
  rw [show Text.ofString "\"" ++ rest = CodePoint.ofChar '"' :: rest from rfl,
    readString_flatMap]
  rfl

end Json

end OpenApiGate
