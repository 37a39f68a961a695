import OpenApiGate.Proofs.Fallible
import OpenApiGate.Proofs.Numerals
import OpenApiGate.Proofs.Verdicts
import OpenApiGate.Report.Lines

/-!
# Reports on one verdict agree

A verdict says three times what became of a check: whether the document is
accepted, in the exit status, and in the line below the heading of the report.
Each is computed from other data.  They agree because a verdict is only ever
built from the findings of all stages or from a condition that stopped the check.
-/

namespace OpenApiGate

/-! ## How verdicts come about -/

/-- A verdict merges the findings of three stages, or tells why the check was stopped. -/
inductive Verdict.Built : Verdict → Prop where
  | merged
      (structural compatibility engine : Findings)
      (sizeKb : Option Float) :
      Built (.merge structural compatibility engine sizeKb)
  | stopped
      (condition : Text)
      (sizeKb : Option Float) :
      Built (.ofFatal condition sizeKb)

theorem Check.built_of_run
    {check : Check}
    {surroundings : Surroundings}
    {verdict : Verdict}
    (given : (check.run surroundings).result = .ok verdict) :
    verdict.Built := by
  rcases (run_eq_ok_iff verdict).mp given with
    ⟨error, -, rfl, -⟩ | ⟨_, _, error, -, -, -, rfl, -⟩ | merges
  · exact .stopped _ _
  · exact .stopped _ _
  · rcases merges.stages with ⟨document, compatibility, engine, loaded, checked, linted⟩
    rw [(mergesFindings_iff_of_linted loaded checked linted verdict).mp merges]
    exact .merged _ _ _ _

/-- Only the errors of two stages count for the exit status of merged findings. -/
theorem Verdict.exitStatus_merge
    (structural compatibility engine : Findings)
    (sizeKb : Option Float) :
    (Verdict.merge structural compatibility engine sizeKb).exitStatus =
      if structural.errors = [] ∧ engine.errors = [] then 0 else 1 := by
  rcases structural with ⟨_ | _, _⟩ <;> rcases engine with ⟨_ | _, _⟩ <;> rfl

/-! ## Lines of a text -/

namespace Text

/-- In a text, a line stands below a block and is not the last one. -/
structure HasLineBelow (text block line : Text) : Prop where
  oneLine : CodePoint.ofChar '\n' ∉ line
  place : ∃ rest, text = block ++ "\n" ++ line ++ "\n" ++ rest

theorem joined_append
    (separator : Text)
    {front back : List Text}
    (frontParts : front ≠ [])
    (backParts : back ≠ []) :
    joined separator (front ++ back) =
      joined separator front ++ separator ++ joined separator back := by
  induction front with
  | nil => exact absurd rfl frontParts
  | cons part rest ih =>
      cases rest with
      | nil => simpa [joined] using List.intercalate_cons_of_ne_nil backParts
      | cons next others =>
          -- Only a part that is not the last one is followed by the separator.
          have tail := ih (List.cons_ne_nil next others)
          unfold joined at tail ⊢
          rw [List.cons_append, List.intercalate_cons_of_ne_nil (by simp), tail,
            List.intercalate_cons_cons]
          simp

end Text

/-! ## The line below the heading -/

namespace Report

/-- The block above the banner; nothing in it depends on the findings. -/
def heading
    (document : Text)
    (size : List Text) :
    Text :=
  Text.joined "\n" (headLines document size)

theorem bodyLines_ne_nil
    (shown : Int)
    (verdict : Verdict) :
    bodyLines shown verdict ≠ [] := by
  unfold bodyLines bannerLines
  split
  · exact List.cons_ne_nil _ _
  · split <;> exact List.cons_ne_nil _ _

theorem lines_eq_ok_iff
    (options : ReportOptions)
    (verdict : Verdict)
    (written : List Text) :
    lines options verdict = .ok written ↔
      ∃ size, sizeLines options.limit verdict.sizeKb = .ok size ∧
        checkRemaining options.shownWarnings verdict = .ok () ∧
        headLines options.document size ++ bodyLines options.shownWarnings verdict = written := by
  simp only [lines, Fallible.bind_eq_ok_iff]
  constructor
  · rintro ⟨size, sized, _, counted, same⟩
    exact ⟨size, sized, counted, Except.ok.inj same⟩
  · rintro ⟨size, sized, counted, rfl⟩
    exact ⟨size, sized, (), counted, rfl⟩

/-- A report is the heading and, below it, the body. -/
theorem text_eq_ok_iff
    (options : ReportOptions)
    (verdict : Verdict)
    (text : Text) :
    Report.text options verdict = .ok text ↔
      ∃ size, sizeLines options.limit verdict.sizeKb = .ok size ∧
        checkRemaining options.shownWarnings verdict = .ok () ∧
        text =
          heading options.document size ++ "\n" ++
            Text.joined "\n" (bodyLines options.shownWarnings verdict) := by
  have joined (size : List Text) :
      Text.joined "\n"
          (headLines options.document size ++ bodyLines options.shownWarnings verdict) =
        heading options.document size ++ "\n" ++
          Text.joined "\n" (bodyLines options.shownWarnings verdict) :=
    Text.joined_append _ (List.cons_ne_nil _ _) (bodyLines_ne_nil _ _)
  simp only [Report.text, Fallible.map_eq_ok_iff, lines_eq_ok_iff]
  constructor
  · rintro ⟨_, ⟨size, sized, counted, rfl⟩, rfl⟩
    exact ⟨size, sized, counted, joined size⟩
  · rintro ⟨size, sized, counted, rfl⟩
    exact ⟨_, ⟨size, sized, counted, rfl⟩, joined size⟩

theorem hasLineBelow_of_body
    {block line : Text}
    {others : List Text}
    (oneLine : CodePoint.ofChar '\n' ∉ line)
    (more : others ≠ []) :
    Text.HasLineBelow (block ++ "\n" ++ Text.joined "\n" (line :: others)) block line where
  oneLine := oneLine
  place := by
    refine ⟨Text.joined "\n" others, ?_⟩
    unfold Text.joined
    rw [List.intercalate_cons_of_ne_nil more]
    simp only [List.append_assoc]

theorem passedLine_is_one_line : CodePoint.ofChar '\n' ∉ passedLine := by
  decide

theorem failedLine_is_one_line (errorCount : Nat) :
    CodePoint.ofChar '\n' ∉ failedLine errorCount := by
  have noDigit : CodePoint.ofChar '\n' ∉ Text.ofNat errorCount := by
    intro member
    cases Decimal.isDigit_of_mem_ofNat member
  have noEnding : CodePoint.ofChar '\n' ∉ if errorCount = 1 then [] else Text.ofString "s" := by
    split <;> decide
  simp only [failedLine, counted, List.mem_append, not_or]
  exact ⟨⟨by decide, ⟨⟨noDigit, by decide⟩, by decide⟩, noEnding⟩, by decide⟩

/-! ## What the reports say -/

/-- All reports say that the document is accepted. -/
structure SayPassed
    (verdict : Verdict)
    (block text : Text) :
    Prop where
  exitStatus : verdict.exitStatus = 0
  success : verdict.success = true
  fatal : verdict.fatal = none
  errors : verdict.errors = []
  banner : text.HasLineBelow block passedLine

/-- All reports say that there are errors, and the text says how many. -/
structure SayFailed
    (verdict : Verdict)
    (block text : Text) :
    Prop where
  exitStatus : verdict.exitStatus = 1
  success : verdict.success = false
  fatal : verdict.fatal = none
  errors : verdict.errors ≠ []
  banner : text.HasLineBelow block (failedLine verdict.errors.length)

/-- All reports say that the check was stopped; the text ends with the condition. -/
structure SayStopped
    (verdict : Verdict)
    (block text : Text) :
    Prop where
  exitStatus : verdict.exitStatus = 2
  success : verdict.success = false
  errors : verdict.errors = []
  warnings : verdict.warnings = []
  banner :
    ∃ condition, verdict.fatal = some condition ∧ text = block ++ "\n" ++ fatalLine condition

theorem sayPassed_of_no_errors
    {verdict : Verdict}
    (shown : Int)
    (block : Text)
    (notFatal : verdict.fatal = none)
    (success : verdict.success = true)
    (noErrors : verdict.errors = []) :
    SayPassed verdict block (block ++ "\n" ++ Text.joined "\n" (bodyLines shown verdict)) where
  exitStatus := verdict.exitStatus_eq_zero_iff.mpr ⟨notFatal, success⟩
  success := success
  fatal := notFatal
  errors := noErrors
  banner := by
    simp only [bodyLines, notFatal, noErrors, List.length_nil, bannerLines, if_true,
      List.cons_append]
    exact hasLineBelow_of_body passedLine_is_one_line (by simp)

theorem sayFailed_of_errors
    {verdict : Verdict}
    (shown : Int)
    (block : Text)
    (notFatal : verdict.fatal = none)
    (refused : verdict.success = false)
    (errors : verdict.errors ≠ []) :
    SayFailed verdict block (block ++ "\n" ++ Text.joined "\n" (bodyLines shown verdict)) where
  exitStatus := verdict.exitStatus_eq_one_iff.mpr ⟨notFatal, refused⟩
  success := refused
  fatal := notFatal
  errors := errors
  banner := by
    have counted : verdict.errors.length ≠ 0 := mt List.length_eq_zero_iff.mp errors
    simp only [bodyLines, notFatal, bannerLines, if_neg counted, List.cons_append]
    exact hasLineBelow_of_body (failedLine_is_one_line _) (by simp)

theorem sayStopped_of_fatal
    (condition : Text)
    (sizeKb : Option Float)
    (shown : Int)
    (block : Text) :
    SayStopped (.ofFatal condition sizeKb) block
      (block ++ "\n" ++ Text.joined "\n" (bodyLines shown (.ofFatal condition sizeKb))) where
  exitStatus := rfl
  success := rfl
  errors := rfl
  warnings := rfl
  banner := by
    refine ⟨condition, rfl, ?_⟩
    simp only [bodyLines, Verdict.ofFatal, Text.joined, List.intercalate_singleton]

theorem say_of_built
    {verdict : Verdict}
    (built : verdict.Built)
    (shown : Int)
    (block : Text) :
    let text := block ++ "\n" ++ Text.joined "\n" (bodyLines shown verdict)
    SayPassed verdict block text ∨ SayFailed verdict block text ∨
      SayStopped verdict block text := by
  intro text
  cases built with
  | stopped condition sizeKb =>
      exact Or.inr (Or.inr (sayStopped_of_fatal condition sizeKb shown block))
  | merged structural compatibility engine sizeKb =>
      have accepted := Check.merge_success_iff structural compatibility engine sizeKb
      by_cases noErrors : (Verdict.merge structural compatibility engine sizeKb).errors = []
      · exact Or.inl (sayPassed_of_no_errors shown block rfl (accepted.mpr noErrors) noErrors)
      · have refused := Bool.eq_false_iff.mpr (mt accepted.mp noErrors)
        exact Or.inr (Or.inl (sayFailed_of_errors shown block rfl refused noErrors))

/--
Whatever is reported about a verdict that came about by merging findings or by a
stop, or as the outcome of a check, all reports say the same: passed, failed with
the number of errors, or stopped.  Of merged findings, only the errors of the
structural stage and of the engine count.
-/
theorem reports_on_verdict_agree
    {verdict : Verdict}
    {options : ReportOptions}
    {text : Text}
    (origin :
      verdict.Built ∨
        ∃ (check : Check) (surroundings : Surroundings),
          (check.run surroundings).result = .ok verdict)
    (written : Report.text options verdict = .ok text) :
    (∃ size, sizeLines options.limit verdict.sizeKb = .ok size ∧
        (SayPassed verdict (heading options.document size) text ∨
          SayFailed verdict (heading options.document size) text ∨
          SayStopped verdict (heading options.document size) text) ∧
        ¬ (SayPassed verdict (heading options.document size) text ∧
            SayFailed verdict (heading options.document size) text) ∧
        ¬ (SayPassed verdict (heading options.document size) text ∧
            SayStopped verdict (heading options.document size) text) ∧
        ¬ (SayFailed verdict (heading options.document size) text ∧
            SayStopped verdict (heading options.document size) text)) ∧
      ∀ structural compatibility engine sizeKb,
        (Verdict.merge structural compatibility engine sizeKb).exitStatus =
          if structural.errors = [] ∧ engine.errors = [] then 0 else 1 := by
  have built : verdict.Built := by
    rcases origin with built | ⟨check, surroundings, given⟩
    · exact built
    · exact Check.built_of_run given
  rcases (text_eq_ok_iff options verdict text).mp written with ⟨size, sized, -, rfl⟩
  refine ⟨⟨size, sized, say_of_built built _ _, ?_, ?_, ?_⟩, Verdict.exitStatus_merge⟩
  · rintro ⟨passed, failed⟩
    cases passed.exitStatus.symm.trans failed.exitStatus
  · rintro ⟨passed, stopped⟩
    cases passed.exitStatus.symm.trans stopped.exitStatus
  · rintro ⟨failed, stopped⟩
    cases failed.exitStatus.symm.trans stopped.exitStatus

/-- Errors and warnings of all stages, merged without a size. -/
def mixedVerdict : Verdict :=
  .merge (.ofErrors [.error "$.openapi" "missing"]) ⟨[.error "p" "e"], [.warning "q" "w"]⟩
    (.ofErrors [.error "r" "broken"]) none

/-- Options for a document, without a limit and with one warning. -/
def briefOptions : ReportOptions :=
  ⟨"d.json", none, 1⟩

/-- The two errors that count are in the banner, and the exit status is that for errors. -/
theorem reports_agree_on_mixedVerdict :
    ∃ text, Report.text briefOptions mixedVerdict = .ok text ∧
      SayFailed mixedVerdict (heading "d.json" []) text ∧ mixedVerdict.errors.length = 2 := by
  have written : ∃ text, Report.text briefOptions mixedVerdict = .ok text := ⟨_, rfl⟩
  rcases written with ⟨text, written⟩
  rcases (reports_on_verdict_agree (Or.inl (.merged _ _ _ _)) written).1 with
    ⟨size, sized, passed | failed | stopped, -⟩
  · cases passed.exitStatus
  · cases sized
    exact ⟨text, written, failed, rfl⟩
  · cases stopped.exitStatus

end Report

end OpenApiGate
