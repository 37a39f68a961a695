import OpenApiGate.Proofs.Grammar
import OpenApiGate.Proofs.Spellings

/-!
# What the decoder reads as words, numbers and strings

Whatever the decoder reads as a value without parts is derived by the grammar, and
whatever is derived so it reads, up to the same rest, unless the number of digits
stops it.  Numbers are read as far as they go, so what follows must not go on with
them.
-/

namespace OpenApiGate.Json

open Production (blank blanks digit digits)

/-! ## Runs of code points -/

section Runs

variable {test : CodePoint → Prop} {isTest : CodePoint → Bool} {text rest : Text}

/-- Dropping code points from the front reads as many of them as there are. -/
theorem many_dropWhile
    (agree : ∀ point, isTest point = true ↔ test point)
    (text : Text) :
    (Production.one test).many text (text.dropWhile isTest) := by
  induction text with
  | nil => exact .refl
  | cons point more ih =>
      by_cases passes : isTest point = true
      · rw [List.dropWhile_cons_of_pos passes]
        exact .head ⟨point, (agree point).mp passes, rfl⟩ ih
      · rw [List.dropWhile_cons_of_neg passes]
        exact .refl

/-- A run that stops early leaves the rest of the run to be dropped. -/
theorem dropWhile_of_many
    (agree : ∀ point, isTest point = true ↔ test point)
    (run : (Production.one test).many text rest) :
    text.dropWhile isTest = rest.dropWhile isTest := by
  induction run with
  | refl => rfl
  | tail _ piece ih =>
      rcases piece with ⟨point, passes, rfl⟩
      rw [ih, List.dropWhile_cons_of_pos ((agree point).mpr passes)]

theorem dropWhile_of_head
    (stops : ∀ point ∈ rest.head?, isTest point = false) :
    rest.dropWhile isTest = rest := by
  cases rest with
  | nil => rfl
  | cons point more => exact List.dropWhile_cons_of_neg (by simp [stops point rfl])

theorem drop_length_takeWhile (text : Text) :
    text.drop (text.takeWhile isTest).length = text.dropWhile isTest := by
  induction text with
  | nil => rfl
  | cons point more ih => cases passes : isTest point <;> simp [passes, ih]

end Runs

theorem is_iff_value (char : Char) (point : CodePoint) :
    point.is char = true ↔ point.value = char.toNat :=
  ⟨CodePoint.value_eq_of_is, fun same => beq_iff_eq.mpr (CodePoint.eq_of_value_eq same)⟩

/-- The blanks of a document are four code points. -/
theorem isSpace_iff (point : CodePoint) :
    isSpace point = true ↔
      point.value = 0x20 ∨ point.value = 0x09 ∨ point.value = 0x0A ∨ point.value = 0x0D := by
  unfold isSpace
  simp only [Bool.or_eq_true, is_iff_value, or_assoc]
  rfl

theorem isDigit_iff (point : CodePoint) :
    point.isDigit = true ↔ 0x30 ≤ point.value ∧ point.value ≤ 0x39 := by
  simp [CodePoint.isDigit, CodePoint.inRange]

theorem blanks_skipSpaces (text : Text) : blanks text (skipSpaces text) :=
  many_dropWhile isSpace_iff text

theorem skipSpaces_of_blanks
    {text rest : Text}
    (blank : blanks text rest) :
    skipSpaces text = skipSpaces rest :=
  dropWhile_of_many isSpace_iff blank

/-! ## Numbers -/

/-- The text does not start with a digit. -/
def NoDigit (text : Text) : Prop :=
  ∀ point ∈ text.head?, point.isDigit = false

/-- The rest of a text behind its digits. -/
def afterDigits (text : Text) : Text :=
  text.dropWhile CodePoint.isDigit

theorem digits_afterDigits
    {text : Text}
    (nonempty : (text.takeWhile CodePoint.isDigit).isEmpty = false) :
    digits text (afterDigits text) := by
  cases text with
  | nil => cases nonempty
  | cons point more =>
      cases isDigit : point.isDigit with
      | false => simp [isDigit] at nonempty
      | true =>
          unfold afterDigits
          rw [List.dropWhile_cons_of_pos isDigit]
          exact
            ⟨more, ⟨point, (isDigit_iff point).mp isDigit, rfl⟩, many_dropWhile isDigit_iff more⟩

/-- Digits are read to their end if no digit follows them. -/
theorem afterDigits_of_digits
    {text rest : Text}
    (spelled : digits text rest)
    (ends : NoDigit rest) :
    (text.takeWhile CodePoint.isDigit).isEmpty = false ∧ afterDigits text = rest := by
  rcases spelled with ⟨more, ⟨point, isDigit, rfl⟩, others⟩
  rw [← isDigit_iff] at isDigit
  unfold afterDigits
  rw [List.takeWhile_cons_of_pos isDigit, List.dropWhile_cons_of_pos isDigit]
  exact ⟨rfl, (dropWhile_of_many isDigit_iff others).trans (dropWhile_of_head ends)⟩

/-- The rest of a text behind the whole part of a number. -/
def afterWhole (text : Text) : Text :=
  text.drop (wholeDigits text).length

theorem whole_afterWhole
    {text : Text}
    (nonempty : (wholeDigits text).isEmpty = false) :
    Production.whole text (afterWhole text) := by
  cases text with
  | nil => cases nonempty
  | cons first rest =>
      unfold afterWhole
      simp only [wholeDigits] at nonempty ⊢
      split at nonempty
      · next zero =>
          left
          rw [if_pos zero]
          exact ⟨first, eq_of_beq zero, rfl⟩
      · split at nonempty
        · next noZero isDigit =>
            right
            rw [if_neg noZero, if_pos isDigit, List.length_cons, List.drop_succ_cons,
              drop_length_takeWhile]
            refine ⟨rest, ⟨first, ?_, rfl⟩, many_dropWhile isDigit_iff rest⟩
            rw [is_iff_value] at noZero
            rw [isDigit_iff] at isDigit
            change first.value ≠ 0x30 at noZero
            omega
        · cases nonempty

/-- A whole part is read to its end; after a zero it ends at once. -/
theorem afterWhole_of_whole
    {text rest : Text}
    (spelled : Production.whole text rest)
    (ends : NoDigit rest) :
    (wholeDigits text).isEmpty = false ∧ afterWhole text = rest := by
  unfold afterWhole
  rcases spelled with ⟨first, rfl, rfl⟩ | ⟨more, ⟨first, bounds, rfl⟩, others⟩
  · exact ⟨rfl, rfl⟩
  · have noZero : ¬ first.is '0' = true := by
      rw [is_iff_value]
      change first.value ≠ 0x30
      omega
    have isDigit : first.isDigit = true := (isDigit_iff first).mpr (by omega)
    rw [wholeDigits, if_neg noZero, if_pos isDigit, List.length_cons, List.drop_succ_cons,
      drop_length_takeWhile]
    exact ⟨rfl, (dropWhile_of_many isDigit_iff others).trans (dropWhile_of_head ends)⟩

/-- The rest of a text behind the fraction that it may start with. -/
def afterFraction (text : Text) : Text :=
  if (fractionDigits text).isEmpty then text else text.drop ((fractionDigits text).length + 1)

theorem fraction_afterFraction (text : Text) :
    Production.fraction.maybe text (afterFraction text) := by
  unfold afterFraction
  cases text with
  | nil => exact .refl
  | cons point rest =>
      cases isPoint : point.is '.' with
      | false =>
          simp only [fractionDigits, isPoint, Bool.false_eq_true, if_false]
          exact .refl
      | true =>
          simp only [fractionDigits, isPoint, if_true]
          cases empty : (rest.takeWhile CodePoint.isDigit).isEmpty with
          | true => exact .refl
          | false =>
              rw [if_neg Bool.false_ne_true, List.drop_succ_cons, drop_length_takeWhile]
              exact .single ⟨rest, ⟨point, eq_of_beq isPoint, rfl⟩, digits_afterDigits empty⟩

/-- A fraction is read to its end if what follows is neither a digit nor a fraction. -/
theorem afterFraction_of_fraction
    {text rest : Text}
    (spelled : Production.fraction.maybe text rest)
    (noDigit : NoDigit rest)
    (noFraction : fractionDigits rest = []) :
    afterFraction text = rest := by
  unfold afterFraction
  rcases spelled with _ | ⟨more, ⟨_, rfl, rfl⟩, spelled⟩
  · rw [noFraction]
    rfl
  · rcases afterDigits_of_digits spelled noDigit with ⟨nonempty, after⟩
    have isPoint : (CodePoint.ofChar '.').is '.' = true := rfl
    simp only [fractionDigits, isPoint, if_true, nonempty, Bool.false_eq_true, if_false,
      List.drop_succ_cons, drop_length_takeWhile]
    exact after

/-- The rest of a text behind the exponent that it may start with. -/
def afterExponent (text : Text) : Text :=
  text.drop ((exponentPart text).getD (0, 0)).2

theorem sign_splitSign (text : Text) :
    ((Production.mark '-').orElse (Production.mark '+')).maybe text (Decimal.splitSign text).2 := by
  cases text with
  | nil => exact .refl
  | cons point rest =>
      simp only [Decimal.splitSign]
      split
      · next minus => exact .single (Or.inl ⟨point, eq_of_beq minus, rfl⟩)
      · split
        · next plus => exact .single (Or.inr ⟨point, eq_of_beq plus, rfl⟩)
        · exact .refl

/-- A sign is read off if a digit follows it. -/
theorem splitSign_of_sign
    {text rest : Text}
    (spelled : ((Production.mark '-').orElse (Production.mark '+')).maybe text rest)
    (startsWithDigit : ∀ point ∈ rest.head?, point.isDigit = true) :
    (Decimal.splitSign text).2 = rest := by
  rcases spelled with _ | ⟨_, rfl, rfl⟩ | ⟨_, rfl, rfl⟩
  · cases text with
    | nil => rfl
    | cons point more =>
        have digit := startsWithDigit point rfl
        have noMinus : point.is '-' = false := CodePoint.is_eq_false_of_test digit rfl
        have noPlus : point.is '+' = false := CodePoint.is_eq_false_of_test digit rfl
        simp only [Decimal.splitSign, noMinus, noPlus, Bool.false_eq_true, if_false]
  · rfl
  · rfl

/-- A sign takes one code point, if there is one. -/
theorem drop_sign (text : Text) :
    text.drop (text.head?.any fun point => point.is '-' || point.is '+').toNat =
      (Decimal.splitSign text).2 := by
  cases text with
  | nil => rfl
  | cons point rest =>
      cases minus : point.is '-' <;> cases plus : point.is '+' <;>
        simp [Decimal.splitSign, minus, plus]

/-- How far an exponent goes: to the end of the digits behind its sign. -/
theorem afterExponent_of_mark
    {mark : CodePoint}
    (isMark : (mark.is 'e' || mark.is 'E') = true)
    (rest : Text) :
    afterExponent (mark :: rest) =
      if ((Decimal.splitSign rest).2.takeWhile CodePoint.isDigit).isEmpty then mark :: rest
      else afterDigits (Decimal.splitSign rest).2 := by
  have dropped (count : Nat) :
      (mark :: rest).drop
          (1 + (rest.head?.any fun point => point.is '-' || point.is '+').toNat + count) =
        (Decimal.splitSign rest).2.drop count := by
    rw [Nat.add_assoc, Nat.add_comm 1, List.drop_succ_cons, ← List.drop_drop, drop_sign]
  unfold afterExponent afterDigits
  rw [← drop_length_takeWhile]
  simp only [exponentPart, isMark, if_true]
  split
  · rfl
  · cases (Decimal.splitSign rest).1 <;> exact dropped _

theorem exponent_afterExponent (text : Text) :
    Production.exponent.maybe text (afterExponent text) := by
  cases text with
  | nil => exact .refl
  | cons mark rest =>
      cases isMark : mark.is 'e' || mark.is 'E' with
      | false =>
          simp only [afterExponent, exponentPart, isMark, Bool.false_eq_true, if_false]
          exact .refl
      | true =>
          rw [afterExponent_of_mark isMark]
          split
          · exact .refl
          · next nonempty =>
              have spelled := digits_afterDigits (Bool.eq_false_iff.mpr nonempty)
              rcases Bool.or_eq_true _ _ ▸ isMark with lower | upper
              · exact
                  .single
                    ⟨rest, Or.inl ⟨mark, eq_of_beq lower, rfl⟩, _, sign_splitSign rest, spelled⟩
              · exact
                  .single
                    ⟨rest, Or.inr ⟨mark, eq_of_beq upper, rfl⟩, _, sign_splitSign rest, spelled⟩

theorem head_digits
    {text rest : Text}
    (spelled : digits text rest) :
    ∀ point ∈ text.head?, point.isDigit = true := by
  rcases spelled with ⟨more, ⟨first, isDigit, rfl⟩, -⟩
  rintro point ⟨⟩
  exact (isDigit_iff first).mpr isDigit

/-- An exponent is read to its end if what follows does not go on with the number. -/
theorem afterExponent_of_exponent
    {text rest : Text}
    (spelled : Production.exponent.maybe text rest)
    (ends : Ends rest) :
    afterExponent text = rest := by
  rcases spelled with _ | ⟨afterMark, marked, unsigned, signed, spelled⟩
  · unfold afterExponent
    rw [ends.noExponent]
    rfl
  · have split := splitSign_of_sign signed (head_digits spelled)
    rcases afterDigits_of_digits spelled ends.noDigit with ⟨nonempty, after⟩
    rcases marked with ⟨_, rfl, rfl⟩ | ⟨_, rfl, rfl⟩
    all_goals
      rw [afterExponent_of_mark rfl, split, nonempty]
      exact after

/-- Neither an exponent nor what ends a number goes on with the digits before it. -/
theorem head_exponent
    {text rest : Text}
    (spelled : Production.exponent.maybe text rest)
    (ends : Ends rest) :
    NoDigit text ∧ fractionDigits text = [] := by
  rcases spelled with _ | ⟨afterMark, ⟨_, rfl, rfl⟩ | ⟨_, rfl, rfl⟩, -⟩
  · exact ⟨ends.noDigit, ends.noFraction⟩
  all_goals
    refine ⟨?_, rfl⟩
    rintro point ⟨⟩
    rfl

/-- A fraction starts with a point; without one there is no digit either. -/
theorem head_fraction
    {text rest : Text}
    (spelled : Production.fraction.maybe text rest)
    (noDigit : NoDigit rest) :
    NoDigit text := by
  rcases spelled with _ | ⟨afterPoint, ⟨_, rfl, rfl⟩, -⟩
  · exact noDigit
  · rintro point ⟨⟩
    rfl

/-- The rest of a text behind the number without a sign that it starts with. -/
def afterUnsigned (text : Text) : Text :=
  afterExponent (afterFraction (afterWhole text))

theorem unsigned_afterUnsigned
    {text : Text}
    (nonempty : (wholeDigits text).isEmpty = false) :
    Production.unsigned text (afterUnsigned text) :=
  ⟨_, whole_afterWhole nonempty, _, fraction_afterFraction _, exponent_afterExponent _⟩

/-- A number without its sign is read to its end, part by part. -/
theorem afterUnsigned_of_unsigned
    {text rest : Text}
    (spelled : Production.unsigned text rest)
    (ends : Ends rest) :
    (wholeDigits text).isEmpty = false ∧ afterUnsigned text = rest := by
  rcases spelled with ⟨_, spelledWhole, _, spelledFraction, spelledExponent⟩
  rcases head_exponent spelledExponent ends with ⟨noDigit, noFraction⟩
  rcases afterWhole_of_whole spelledWhole (head_fraction spelledFraction noDigit) with
    ⟨nonempty, after⟩
  refine ⟨nonempty, ?_⟩
  unfold afterUnsigned
  rw [after, afterFraction_of_fraction spelledFraction noDigit noFraction,
    afterExponent_of_exponent spelledExponent ends]

/-! ## What readers come to -/

/-- Reading was stopped by a limit, not by a fault of the text. -/
inductive Stop.IsLimit : Stop → Prop where
  | integer (error : Decimal.IntegerError) : IsLimit (.integer error)
  | nesting (container : Container) : IsLimit (.nestedTooDeeply container)

/-- Something is read up to `rest`, unless a limit stops the reading. -/
def ReadsTo
    {α : Type}
    (result : Except Stop (α × Text))
    (rest : Text) :
    Prop :=
  (∃ part, result = .ok (part, rest)) ∨ ∃ stop, result = .error stop ∧ stop.IsLimit

theorem ReadsTo.rest_eq
    {α : Type}
    {result : Except Stop (α × Text)}
    {rest other : Text}
    {part : α}
    (reads : ReadsTo result rest)
    (read : result = .ok (part, other)) :
    other = rest := by
  rcases reads with ⟨_, found⟩ | ⟨_, stopped, -⟩
  · rw [read] at found
    cases found
    rfl
  · rw [read] at stopped
    cases stopped

/-- A number that starts with digits is read to its end, unless it is too long an integer. -/
theorem readNumber_readsTo
    {unsigned : Text}
    (nonempty : (wholeDigits unsigned).isEmpty = false)
    (text : Text)
    (negative : Bool) :
    ReadsTo (readNumber text negative unsigned) (afterUnsigned unsigned) := by
  unfold readNumber
  simp only [nonempty, Bool.false_eq_true, if_false]
  split
  · next noFraction noExponent =>
      change (fractionDigits (afterWhole unsigned)).isEmpty = true at noFraction
      change exponentPart (afterFraction (afterWhole unsigned)) = none at noExponent
      have same : afterUnsigned unsigned = afterWhole unsigned := by
        unfold afterUnsigned afterExponent
        rw [noExponent]
        unfold afterFraction
        rw [noFraction]
        rfl
      rw [same]
      split
      · exact Or.inr ⟨_, rfl, .integer _⟩
      · exact Or.inl ⟨_, rfl⟩
  · exact Or.inl ⟨_, rfl⟩

/-! ## Strings -/

/-- Two kinds of code points are one kind. -/
theorem one_orElse (first second : CodePoint → Prop) :
    (Production.one first).orElse (Production.one second) =
      Production.one fun point => first point ∨ second point := by
  funext text rest
  simp only [Production.orElse, Production.one, or_and_right, exists_or]

theorem hexDigit_iff (text rest : Text) :
    Production.hexDigit text rest ↔
      ∃ point : CodePoint, (∃ value, point.hexValue? = some value) ∧ text = point :: rest := by
  have known (point : CodePoint) :
      (∃ value, point.hexValue? = some value) ↔
        point.isDigit = true ∨ point.inRange 0x41 0x46 = true ∨ point.inRange 0x61 0x66 = true := by
    unfold CodePoint.hexValue?
    split
    · simp_all
    · split
      · simp_all
      · split <;> simp_all
  simp only [known, CodePoint.isDigit, CodePoint.inRange, Bool.and_eq_true, decide_eq_true_eq]
  unfold Production.hexDigit Production.digit Production.range
  rw [one_orElse, one_orElse]
  rfl

/-- Four code points that have a number are hexadecimal digits. -/
theorem hexQuad_of_hexQuad?
    {a b c d : CodePoint}
    {number : Nat}
    (quad : hexQuad? a b c d = some number)
    (rest : Text) :
    Production.hexQuad (a :: b :: c :: d :: rest) rest := by
  simp only [hexQuad?, Option.bind_eq_bind, Option.bind_eq_some_iff] at quad
  rcases quad with ⟨_, isA, _, isB, _, isC, _, isD, -⟩
  exact
    ⟨_, (hexDigit_iff _ _).mpr ⟨a, ⟨_, isA⟩, rfl⟩, _, (hexDigit_iff _ _).mpr ⟨b, ⟨_, isB⟩, rfl⟩, _,
      (hexDigit_iff _ _).mpr ⟨c, ⟨_, isC⟩, rfl⟩, (hexDigit_iff _ _).mpr ⟨d, ⟨_, isD⟩, rfl⟩⟩

theorem exists_hexQuad?_of_hexQuad
    {text rest : Text}
    (spelled : Production.hexQuad text rest) :
    ∃ a b c d, text = a :: b :: c :: d :: rest ∧ ∃ number, hexQuad? a b c d = some number := by
  rcases spelled with ⟨_, first, _, second, _, third, fourth⟩
  rcases (hexDigit_iff _ _).mp first with ⟨a, ⟨_, isA⟩, rfl⟩
  rcases (hexDigit_iff _ _).mp second with ⟨b, ⟨_, isB⟩, rfl⟩
  rcases (hexDigit_iff _ _).mp third with ⟨c, ⟨_, isC⟩, rfl⟩
  rcases (hexDigit_iff _ _).mp fourth with ⟨d, ⟨_, isD⟩, rfl⟩
  refine ⟨a, b, c, d, rfl, Option.isSome_iff_exists.mp ?_⟩
  rw [hexQuad?, isA, isB, isC, isD]
  rfl

/-- The letters that the decoder replaces are those of the grammar. -/
theorem letterEscape?_iff (letter : CodePoint) :
    (∃ escaped, letterEscape? letter = some escaped) ↔ letter ∈ Production.escapeLetters := by
  constructor
  · rintro ⟨escaped, found⟩
    have spelled : Production.escapeLetters =
        ['"', '\\', '/', 'b', 'f', 'n', 'r', 't'].map CodePoint.ofChar := rfl
    simp only [spelled, List.map_cons, List.map_nil, List.mem_cons, List.not_mem_nil, or_false]
    unfold letterEscape? CodePoint.is at found
    simp only [Bool.or_eq_true, beq_iff_eq] at found
    grind
  · have all : ∀ known ∈ Production.escapeLetters, (letterEscape? known).isSome = true := by
      decide
    exact fun known => Option.isSome_iff_exists.mp (all letter known)

/-- A plain code point is neither a quotation mark nor a backslash nor a control character. -/
theorem plain_iff (text rest : Text) :
    Production.plain text rest ↔
      ∃ point : CodePoint,
        (point.is '"' = false ∧ point.is '\\' = false ∧ ¬point.value < 0x20) ∧
          text = point :: rest := by
  have known (point : CodePoint) :
      (point.is '"' = false ∧ point.is '\\' = false ∧ ¬point.value < 0x20) ↔
        (0x20 ≤ point.value ∧ point.value ≤ 0x21) ∨ (0x23 ≤ point.value ∧ point.value ≤ 0x5B) ∨
          (0x5D ≤ point.value ∧ point.value ≤ 0x10FFFF) := by
    have below := point.value_lt
    have quote : point.is '"' = true ↔ point.value = 0x22 := is_iff_value _ _
    have backslash : point.is '\\' = true ↔ point.value = 0x5C := is_iff_value _ _
    rw [Bool.eq_false_iff, Bool.eq_false_iff, ne_eq, ne_eq, quote, backslash]
    omega
  simp only [known]
  unfold Production.plain Production.range
  rw [one_orElse, one_orElse]
  rfl

/-- Whatever is read as a string ends with a quotation mark, with characters before it. -/
theorem stringTail_of_readString
    {opening text rest result : Text}
    {progress : StringProgress}
    (read : readString opening progress text = .ok (result, rest)) :
    Production.stringTail text rest := by
  have goesOn {text next rest : Text}
      (piece : (Production.plain.orElse Production.escape) text next)
      (tail : Production.stringTail next rest) :
      Production.stringTail text rest := by
    rcases tail with ⟨last, characters, closes⟩
    exact ⟨last, .head piece characters, closes⟩
  fun_induction readString opening progress text with
  | case1 | case3 | case5 | case6 | case8 | case9 => cases read
  | case2 progress point after isQuote =>
      cases read
      exact ⟨_, .refl, point, eq_of_beq isQuote, rfl⟩
  | case4 progress point _ isBackslash letter isNumber a b c d after number quad _ ih =>
      refine goesOn (Or.inr ⟨_, ⟨point, eq_of_beq isBackslash, rfl⟩, Or.inr ?_⟩) (ih read)
      exact ⟨_, ⟨letter, eq_of_beq isNumber, rfl⟩, hexQuad_of_hexQuad? quad after⟩
  | case7 progress point _ isBackslash letter after _ escaped found ih =>
      refine goesOn (Or.inr ⟨_, ⟨point, eq_of_beq isBackslash, rfl⟩, Or.inl ?_⟩) (ih read)
      exact ⟨letter, (letterEscape?_iff letter).mp ⟨escaped, found⟩, rfl⟩
  | case10 progress point after noQuote noBackslash noControl ih =>
      rw [Bool.not_eq_true] at noQuote noBackslash
      refine goesOn (Or.inl ?_) (ih read)
      exact (plain_iff _ _).mpr ⟨point, ⟨noQuote, noBackslash, noControl⟩, rfl⟩

/-- A string is read to its end, whatever has been read before. -/
theorem readString_of_stringTail
    {text rest : Text}
    (tail : Production.stringTail text rest)
    (opening : Text)
    (progress : StringProgress) :
    ∃ result, readString opening progress text = .ok (result, rest) := by
  rcases tail with ⟨last, characters, _, rfl, rfl⟩
  induction characters using Relation.ReflTransGen.head_induction_on generalizing progress with
  | refl => exact ⟨_, readString_of_quote opening progress⟩
  | @head text next piece _ ih =>
      rcases piece with plain | ⟨_, ⟨_, rfl, rfl⟩, ⟨letter, known, rfl⟩ | ⟨_, ⟨_, rfl, rfl⟩, quad⟩⟩
      · rcases (plain_iff text next).mp plain with ⟨point, ⟨noQuote, noBackslash, noControl⟩, rfl⟩
        rw [readString_of_plain opening progress noQuote noBackslash noControl]
        exact ih _
      · have noNumber : ∀ letter ∈ Production.escapeLetters,
            letter.is 'u' = false := by decide
        rcases (letterEscape?_iff letter).mpr known with ⟨escaped, found⟩
        rw [readString_of_letter opening progress (noNumber letter known) found]
        exact ih _
      · rcases exists_hexQuad?_of_hexQuad quad with ⟨a, b, c, d, rfl, number, found⟩
        rcases ih (progress.pushEscaped (CodePoint.ofNat number)) with ⟨result, read⟩
        have goesOn : next ≠ [] := by
          rintro rfl
          cases read
        exact ⟨result, (readString_of_number opening progress found goesOn).trans read⟩

/-! ## Words -/

theorem admittedWords_eq : admittedWords = words.map fun entry => Text.ofString entry.1 :=
  rfl

/-- Reading a word off a text is what the grammar calls a word. -/
theorem afterWord?_eq_some_iff
    {word : String}
    {text rest : Text} :
    afterWord? word text = some rest ↔ Production.word (Text.ofString word) text rest := by
  unfold afterWord? Production.word
  simp only [List.isPrefixOf_iff_prefix]
  constructor
  · intro found
    split at found
    · next spelled =>
        cases found
        exact (List.prefix_iff_eq_append.mp spelled).symm
    · cases found
  · rintro rfl
    rw [if_pos (List.prefix_append _ rest), List.drop_left]

/-! ## Values without parts -/

/-- A number that is read is one of the grammar. -/
theorem unsigned_of_readNumber
    {text unsigned rest : Text}
    {negative : Bool}
    {value : Value}
    (read : readNumber text negative unsigned = .ok (value, rest)) :
    Production.unsigned unsigned rest := by
  cases empty : (wholeDigits unsigned).isEmpty with
  | true =>
      unfold readNumber at read
      simp only [empty, if_true] at read
      cases read
  | false =>
      rw [(readNumber_readsTo empty text negative).rest_eq read]
      exact unsigned_afterUnsigned empty

/-- What is read as a value without parts is a word, a number or a string. -/
theorem derives_of_readScalar
    {text rest : Text}
    {value : Value}
    (read : readScalar text = .ok (value, rest)) :
    Derives admittedWords .value text rest := by
  cases text with
  | nil => cases read
  | cons point more =>
      unfold readScalar at read
      simp only at read
      split at read
      · next isQuote =>
          split at read
          · next text after tail =>
              cases read
              exact .string ⟨more, ⟨point, eq_of_beq isQuote, rfl⟩, stringTail_of_readString tail⟩
          · cases read
      · split at read
        · next found =>
            cases read
            rcases List.exists_of_findSome?_eq_some found with ⟨entry, member, isWord⟩
            rcases Option.map_eq_some_iff.mp isWord with ⟨after, spelled, same⟩
            cases same
            have known : Text.ofString entry.1 ∈ admittedWords :=
              admittedWords_eq ▸ List.mem_map_of_mem member
            exact .word known (afterWord?_eq_some_iff.mp spelled)
        · split at read
          · next isMinus =>
              exact
                .number
                  ⟨more, .single ⟨point, eq_of_beq isMinus, rfl⟩, unsigned_of_readNumber read⟩
          · exact .number ⟨_, .refl, unsigned_of_readNumber read⟩

/-- Every admitted word is read. -/
theorem readsTo_of_word
    {letters text rest : Text}
    (known : letters ∈ admittedWords)
    (spelled : Production.word letters text rest)
    (depth : Nat) :
    ReadsTo (readValue depth text) rest := by
  left
  unfold Production.word at spelled
  rw [spelled]
  simp only [admittedWords, standardWords, numberWords, List.cons_append, List.nil_append,
    List.mem_cons, List.not_mem_nil, or_false] at known
  rcases known with rfl | rfl | rfl | rfl | rfl | rfl <;> cases depth <;> exact ⟨_, rfl⟩

/-- Every string of the grammar is read to its end. -/
theorem readsTo_of_string
    {text rest : Text}
    (spelled : Production.string text rest)
    (depth : Nat) :
    ReadsTo (readValue depth text) rest := by
  rcases spelled with ⟨more, ⟨_, rfl, rfl⟩, tail⟩
  have isQuote : (CodePoint.ofChar '"').is '"' = true := rfl
  rcases readString_of_stringTail tail (CodePoint.ofChar '"' :: more) ⟨[], false⟩ with
    ⟨result, read⟩
  left
  rw [readValue_eq_readScalar rfl rfl]
  simp only [readScalar, isQuote, if_true, read]
  exact ⟨_, rfl⟩

/-- A number starts with a digit behind its sign. -/
theorem head_unsigned
    {text rest : Text}
    (spelled : Production.unsigned text rest) :
    ∃ first more, text = first :: more ∧ first.isDigit = true := by
  rcases spelled with ⟨_, ⟨_, rfl, rfl⟩ | ⟨_, ⟨first, bounds, rfl⟩, -⟩, -⟩
  · exact ⟨_, _, rfl, rfl⟩
  · exact ⟨first, _, rfl, (isDigit_iff first).mpr (by omega)⟩

/-- Every number of the grammar is read to its end, or meets the limit of its digits. -/
theorem readsTo_of_number
    {text rest : Text}
    (spelled : Production.number text rest)
    (ends : Ends rest)
    (depth : Nat) :
    ReadsTo (readValue depth text) rest := by
  rcases spelled with ⟨unsigned, sign, spelled⟩
  rcases afterUnsigned_of_unsigned spelled ends with ⟨nonempty, rfl⟩
  rcases head_unsigned spelled with ⟨first, more, rfl, isDigit⟩
  rcases sign with _ | ⟨_, rfl, rfl⟩
  · have leaves : LeavesNumber first := leavesNumber_of_test isDigit rfl
    rw [readValue_eq_readScalar (leaves '[' (by decide)) (leaves '\x7b' (by decide)),
      readScalar_of_leavesNumber leaves]
    exact readNumber_readsTo nonempty _ _
  · rw [readValue_eq_readScalar rfl rfl, readScalar_of_minus isDigit]
    exact readNumber_readsTo nonempty _ _

end OpenApiGate.Json
