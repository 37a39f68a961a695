import OpenApiGate.Proofs.Numerals
import OpenApiGate.Report.Record
import OpenApiGate.Text.ControlSequence

/-!
# Reports without control sequences

A control sequence starts with an escape character, and that character is itself
escaped in a JSON string.  No report to process holds one, so that such a report
is printed as it was written.
-/

namespace OpenApiGate

open Json (Value)

/-- The text holds no escape character. -/
def Text.IsUnescaped (text : Text) : Prop :=
  ∀ point ∈ text, point.isEscape = false

namespace Text.IsUnescaped

/-- Whether a text is unescaped can be computed. -/
theorem of_all
    {text : Text}
    (plain : (text.all fun point => !point.isEscape) = true) :
    text.IsUnescaped := by
  intro point member
  simpa using List.all_eq_true.mp plain point member

theorem append
    {first second : Text}
    (before : first.IsUnescaped)
    (after : second.IsUnescaped) :
    (first ++ second).IsUnescaped :=
  List.forall_mem_append.mpr ⟨before, after⟩

/-- Joining texts brings in nothing but the separator. -/
theorem joined
    {separator : Text}
    {parts : List Text}
    (between : separator.IsUnescaped)
    (each : ∀ part ∈ parts, part.IsUnescaped) :
    (Text.joined separator parts).IsUnescaped := by
  induction parts with
  | nil => exact .of_all rfl
  | cons part more ih =>
      have first : part.IsUnescaped := each part List.mem_cons_self
      have later := ih fun other member => each other (List.mem_cons_of_mem part member)
      cases more with
      | nil => simpa only [Text.joined, List.intercalate_singleton] using first
      | cons second others =>
          rw [Text.joined, List.intercalate_cons_cons]
          exact (first.append between).append later

end Text.IsUnescaped

namespace Decimal

/-- Digits lie above the escape character. -/
theorem isUnescaped_digitsText {digits : List Nat} (below : Below digits) :
    (digitsText digits).IsUnescaped := by
  intro point member
  have digit := isDigit_of_mem_digitsText below point member
  simp only [CodePoint.isDigit, CodePoint.inRange, Bool.and_eq_true, decide_eq_true_eq] at digit
  simp only [CodePoint.isEscape, beq_eq_false_iff_ne]
  omega

/-- A number is made of digits, a point, signs and a letter. -/
theorem Literal.Proper.isUnescaped_text
    {literal : Literal}
    (proper : literal.Proper) :
    literal.text.IsUnescaped := by
  apply Text.IsUnescaped.append
  · apply (isUnescaped_digitsText proper.whole.below).append
    unfold fractionText
    split
    · exact .of_all rfl
    · exact Text.IsUnescaped.append (.of_all rfl) (isUnescaped_digitsText proper.fraction)
  · rcases present : literal.exponent with _ | ⟨_ | _, digits⟩
    · exact .of_all rfl
    all_goals
      have below := (proper.exponent _ present).2
      exact Text.IsUnescaped.append (.of_all rfl) (isUnescaped_digitsText below)

end Decimal

namespace Json

/-- The code of a control character is written in ordinary characters. -/
theorem isUnescaped_hexadecimal
    {number : Nat}
    (control : number < 0x20) :
    (Text.hexadecimal 4 number).IsUnescaped := by
  have all : ∀ number < 0x20, ((Text.hexadecimal 4 number).all (!·.isEscape)) = true := by decide
  exact .of_all (all number control)

/-- In a string the escape character is replaced, as all control characters are. -/
theorem isUnescaped_escapedPoint (point : CodePoint) : (escapedPoint point).IsUnescaped := by
  unfold escapedPoint
  iterate 7
    split
    · exact .of_all rfl
  split
  · next control =>
      exact Text.IsUnescaped.append (.of_all rfl) (isUnescaped_hexadecimal control)
  · next noControl =>
      intro other member
      rw [List.mem_singleton.mp member, CodePoint.isEscape, beq_eq_false_iff_ne]
      omega

theorem isUnescaped_stringLiteral (text : Text) : (stringLiteral text).IsUnescaped := by
  have escaped : Text.IsUnescaped (text.flatMap escapedPoint) := by
    intro point member
    rcases List.mem_flatMap.mp member with ⟨source, _, within⟩
    exact isUnescaped_escapedPoint source point within
  have quote : (Text.ofString "\"").IsUnescaped := .of_all rfl
  exact (quote.append escaped).append quote

theorem isUnescaped_ofInt (value : Int) : (Text.ofInt value).IsUnescaped := by
  have digits (number : Nat) : (Text.ofNat number).IsUnescaped := by
    rw [Decimal.ofNat_eq_digitsText]
    exact Decimal.isUnescaped_digitsText (Decimal.below_digitsOf number)
  cases value with
  | ofNat number => exact digits number
  | negSucc number => exact Text.IsUnescaped.append (.of_all rfl) (digits (number + 1))

/-- A double that is no number is written as a word, and any other as digits. -/
theorem isUnescaped_doubleLiteral (double : Float) : (doubleLiteral double).IsUnescaped := by
  cases finite : double.isFinite with
  | false =>
      rcases Decimal.shortestForm_of_not_isFinite finite with ⟨text, form⟩
      simp only [doubleLiteral, form]
      exact .of_all rfl
  | true =>
      rcases Decimal.shortestForm_of_isFinite finite with ⟨negative, numeral, form, proper⟩
      have literal : (Decimal.reportLayout.render numeral).IsUnescaped := by
        rw [Decimal.Layout.render_eq_text rfl proper]
        exact (Decimal.Layout.proper_literal Decimal.reportLayout proper).isUnescaped_text
      simp only [doubleLiteral, form]
      cases negative with
      | false => exact literal
      | true => exact Text.IsUnescaped.append (.of_all rfl) literal

/-- What is laid out around the parts of a container is blanks, line feeds and commas. -/
theorem isUnescaped_containerText
    {opening closing : Text}
    (opens : opening.IsUnescaped)
    (closes : closing.IsUnescaped)
    (indent : Nat)
    {parts : List Text}
    (each : ∀ part ∈ parts, part.IsUnescaped) :
    (containerText opening closing indent parts).IsUnescaped := by
  have lineBreak : (Text.ofString "\n").IsUnescaped := .of_all rfl
  have margin : Text.IsUnescaped (List.replicate indent (CodePoint.ofChar ' ')) := by
    intro point member
    rw [List.eq_of_mem_replicate member]
    rfl
  have indented :
      ∀ line ∈ parts.map fun part => List.replicate indent (CodePoint.ofChar ' ') ++ "  " ++ part,
        Text.IsUnescaped line := by
    intro line member
    rcases List.mem_map.mp member with ⟨part, within, rfl⟩
    exact (margin.append (.of_all rfl)).append (each part within)
  unfold containerText
  split
  · exact opens.append closes
  · have lines := Text.IsUnescaped.joined (.of_all rfl : Text.IsUnescaped ",\n") indented
    exact ((((opens.append lineBreak).append lines).append lineBreak).append margin).append closes

namespace Value

mutual

/-- No value is written with an escape character; the induction is on the value. -/
theorem isUnescaped_written (indent : Nat) : ∀ value : Value, (value.written indent).IsUnescaped
  | .null => .of_all rfl
  | .bool true => .of_all rfl
  | .bool false => .of_all rfl
  | .integer value => isUnescaped_ofInt value
  | .double value => isUnescaped_doubleLiteral value
  | .string text => isUnescaped_stringLiteral text
  | .array items =>
    isUnescaped_containerText (.of_all rfl) (.of_all rfl) indent
      (isUnescaped_writtenItems (indent + 2) items)
  | .object members =>
    isUnescaped_containerText (.of_all rfl) (.of_all rfl) indent
      (isUnescaped_writtenMembers (indent + 2) members)

theorem isUnescaped_writtenItems (indent : Nat) :
    ∀ items : List Value, ∀ part ∈ writtenItems indent items, part.IsUnescaped
  | [] => fun _ member => absurd member List.not_mem_nil
  | item :: rest =>
    List.forall_mem_cons.mpr
      ⟨isUnescaped_written indent item, isUnescaped_writtenItems indent rest⟩

theorem isUnescaped_writtenMembers (indent : Nat) :
    ∀ members : List (Text × Value), ∀ part ∈ writtenMembers indent members, part.IsUnescaped
  | [] => fun _ member => absurd member List.not_mem_nil
  | (key, value) :: rest =>
    List.forall_mem_cons.mpr
      ⟨((isUnescaped_stringLiteral key).append (.of_all rfl)).append
          (isUnescaped_written indent value),
        isUnescaped_writtenMembers indent rest⟩

end

end Value

end Json

/-- A report to process is printed as it was written. -/
theorem Report.withoutControls_of_json
    {verdict : Verdict}
    {report : Text}
    (written : Report.json verdict = .ok report) :
    Text.withoutControls (report ++ "\n") = report ++ "\n" := by
  have isWritten : verdict.toValue.written 0 = report := by
    unfold Report.json at written
    cases unencodable : verdict.texts.findSome? Utf8.unencodable? with
    | some error =>
        rw [unencodable] at written
        cases written
    | none =>
        rw [unencodable] at written
        exact Except.ok.inj written
  apply Text.withoutControls_of_no_escape
  rw [← isWritten]
  exact (Value.isUnescaped_written 0 verdict.toValue).append (.of_all rfl)

end OpenApiGate
