import Mathlib.Data.List.TakeWhile
import OpenApiGate.Command.Outcome
import OpenApiGate.Proofs.Banners

/-!
# What can be printed

A report is printed without its control sequences, on a stream that may refuse
it.  Control sequences hold no surrogates, so that a stream in UTF-8 takes exactly
the reports that hold none.
-/

namespace OpenApiGate

namespace CodePoint

/-- Surrogates lie above all characters of control sequences. -/
theorem not_isSurrogate_of_lt
    {point : CodePoint}
    (below : point.value < 0xD800) :
    point.isSurrogate = false := by
  simp only [isSurrogate, inRange, Bool.and_eq_false_iff, decide_eq_false_iff_not]
  omega

theorem not_isSurrogate_of_isEscape
    {point : CodePoint}
    (escape : point.isEscape = true) :
    point.isSurrogate = false := by
  apply not_isSurrogate_of_lt
  have value : point.value = 0x1B := by simpa [isEscape] using escape
  omega

theorem not_isSurrogate_of_is
    {char : Char}
    {point : CodePoint}
    (same : point.is char = true)
    (below : char.toNat < 0xD800) :
    point.isSurrogate = false := by
  apply not_isSurrogate_of_lt
  rw [value_eq_of_is same]
  exact below

theorem not_isSurrogate_of_isControlParameter
    {point : CodePoint}
    (parameter : point.isControlParameter = true) :
    point.isSurrogate = false := by
  simp only [isControlParameter, Bool.or_eq_true] at parameter
  rcases parameter with (digit | semicolon) | mark
  · apply not_isSurrogate_of_lt
    simp only [isDigit, inRange, Bool.and_eq_true, decide_eq_true_eq] at digit
    omega
  · exact not_isSurrogate_of_is semicolon (by decide)
  · exact not_isSurrogate_of_is mark (by decide)

theorem not_isSurrogate_of_isControlEnd
    {point : CodePoint}
    (letter : point.isControlEnd = true) :
    point.isSurrogate = false := by
  apply not_isSurrogate_of_lt
  simp only [isControlEnd, inRange, Bool.or_eq_true, Bool.and_eq_true, decide_eq_true_eq]
    at letter
  omega

end CodePoint

namespace Text

/-- The surrogates of a text, in order. -/
def surrogates (text : Text) : Text :=
  text.filter CodePoint.isSurrogate

theorem surrogates_append (first second : Text) :
    (first ++ second).surrogates = first.surrogates ++ second.surrogates :=
  List.filter_append first second

theorem surrogates_eq_nil_iff (text : Text) :
    text.surrogates = [] ↔ ∀ point ∈ text, point.isSurrogate = false := by
  simp [surrogates]

/-- The parameters of a control sequence and the letter after them hold no surrogate. -/
theorem surrogates_take_parameters
    (text : Text)
    (ends :
      (text.drop (text.takeWhile CodePoint.isControlParameter).length).head?.any
        CodePoint.isControlEnd = true) :
    surrogates (text.take ((text.takeWhile CodePoint.isControlParameter).length + 1)) = [] := by
  rw [List.take_add, surrogates_append, List.append_eq_nil_iff]
  constructor
  · rw [← List.prefix_iff_eq_take.mp (List.takeWhile_prefix _), surrogates_eq_nil_iff]
    intro point within
    exact CodePoint.not_isSurrogate_of_isControlParameter (List.mem_takeWhile_imp within)
  · cases after : text.drop (text.takeWhile CodePoint.isControlParameter).length with
    | nil => rfl
    | cons letter rest =>
        rw [after] at ends
        rw [surrogates_eq_nil_iff]
        intro point within
        rw [List.mem_singleton.mp within]
        exact CodePoint.not_isSurrogate_of_isControlEnd ends

/-- The control sequence at the start of a text holds no surrogate. -/
theorem surrogates_take_controlLength (text : Text) :
    surrogates (text.take text.controlLength) = [] := by
  match text with
  | [] => rfl
  | [point] => rfl
  | first :: second :: rest =>
      simp only [controlLength]
      split
      · next starts =>
          rw [Bool.and_eq_true] at starts
          split
          · next ends =>
              have escape := CodePoint.not_isSurrogate_of_isEscape starts.1
              have bracket : second.isSurrogate = false :=
                CodePoint.not_isSurrogate_of_is starts.2 (by decide)
              have tail := surrogates_take_parameters rest ends
              simpa [surrogates, escape, bracket] using tail
          · rfl
      · rfl

theorem surrogates_dropControls
    (skipped : Nat)
    (text : Text) :
    (dropControls skipped text).surrogates = surrogates (text.drop skipped) := by
  induction text generalizing skipped with
  | nil => cases skipped <;> rfl
  | cons point rest ih =>
      cases skipped with
      | succ more => exact ih more
      | zero =>
          have sequence := surrogates_take_controlLength (point :: rest)
          unfold dropControls
          cases controls : controlLength (point :: rest) with
          | zero =>
              show surrogates ([point] ++ dropControls 0 rest) = surrogates ([point] ++ rest)
              rw [surrogates_append, surrogates_append, ih 0]
              rfl
          | succ length =>
              -- The whole sequence is dropped, and it held no surrogate.
              rw [controls] at sequence
              show (dropControls length rest).surrogates = surrogates (point :: rest)
              rw [ih length, ← List.take_append_drop (length + 1) (point :: rest),
                surrogates_append, sequence]
              rfl

theorem surrogates_withoutControls (text : Text) :
    text.withoutControls.surrogates = text.surrogates :=
  surrogates_dropControls 0 text

/-- UTF-8 spells exactly the texts without surrogates. -/
theorem unencodable?_eq_none_iff (text : Text) :
    Utf8.unencodable? text = none ↔ text.surrogates = [] := by
  have none_left :
      text.dropWhile (!CodePoint.isSurrogate ·) = [] ↔ text.surrogates = [] := by
    rw [List.dropWhile_eq_nil_iff, surrogates_eq_nil_iff]
    simp
  rw [← none_left]
  unfold Utf8.unencodable? Utf8.surrogateRun?
  cases text.dropWhile (!CodePoint.isSurrogate ·) <;> simp

end Text

namespace OutputStream

/-- A stream takes what is left of a report without its control sequences. -/
def Takes
    (output : OutputStream)
    (report : Text) :
    Prop :=
  output.refusal? (Text.withoutControls (report ++ "\n")) = none

theorem takes_utf8_iff (report : Text) :
    utf8.Takes report ↔ report.surrogates = [] := by
  have sameSurrogates :
      (Text.withoutControls (report ++ "\n")).surrogates = report.surrogates := by
    rw [Text.surrogates_withoutControls, Text.surrogates_append]
    exact List.append_nil _
  rw [← sameSurrogates, ← Text.unencodable?_eq_none_iff]
  exact Option.map_eq_none_iff

end OutputStream

namespace Report

/-- A number has no more digits than can be written. -/
def CanBeCounted (number : Nat) : Prop :=
  (Text.ofNat number).length ≤ Decimal.integerDigitLimit

theorem checkRemaining_eq_ok_iff
    (shown : Int)
    (verdict : Verdict) :
    checkRemaining shown verdict = .ok () ↔
      (verdict.fatal = none → CanBeCounted (remaining shown verdict.warnings)) := by
  unfold checkRemaining CanBeCounted
  cases verdict.fatal with
  | some condition => simp
  | none => simp

end Report

namespace Command

theorem printed_succeeds_iff
    (output : OutputStream)
    (report : Text) :
    (∃ line, printed output report = .ok line) ↔ output.Takes report := by
  simp only [printed, OutputStream.Takes]
  cases output.refusal? (Text.withoutControls (report ++ "\n")) <;> simp

/--
A report to read can be written exactly if the number of announced warnings can.
The size can, because the limit is known and a double.
-/
theorem report_succeeds_iff_of_text
    {order : Order}
    (plain : order.asJson = false)
    (settings : Settings)
    (verdict : Verdict) :
    (∃ report, order.report settings verdict = .ok report) ↔
      (verdict.fatal = none →
        Report.CanBeCounted (Report.remaining settings.maxWarningsShown verdict.warnings)) := by
  have sized :
      ∃ size, Report.sizeLines (some (.real settings.maxSizeKb)) verdict.sizeKb = .ok size := by
    cases verdict.sizeKb with
    | none => exact ⟨_, rfl⟩
    | some sizeKb => exact ⟨_, rfl⟩
  rcases sized with ⟨size, sized⟩
  rw [← Report.checkRemaining_eq_ok_iff]
  unfold Order.report
  rw [plain]
  simp only [Bool.false_eq_true, if_false, Report.text_eq_ok_iff]
  constructor
  · rintro ⟨_, _, -, counted, -⟩
    exact counted
  · intro counted
    exact ⟨_, size, sized, counted, rfl⟩

/-- A report to process can be written exactly if no text of the verdict holds a surrogate. -/
theorem report_succeeds_iff_of_json
    {order : Order}
    (json : order.asJson = true)
    (settings : Settings)
    (verdict : Verdict) :
    (∃ report, order.report settings verdict = .ok report) ↔
      ∀ text ∈ verdict.texts, text.surrogates = [] := by
  have encodable :
      verdict.texts.findSome? Utf8.unencodable? = none ↔
        ∀ text ∈ verdict.texts, text.surrogates = [] := by
    simp only [List.findSome?_eq_none_iff, Text.unencodable?_eq_none_iff]
  rw [← encodable]
  unfold Order.report Report.json
  rw [if_pos json]
  cases verdict.texts.findSome? Utf8.unencodable? <;> simp [Except.mapError]

end Command

end OpenApiGate
