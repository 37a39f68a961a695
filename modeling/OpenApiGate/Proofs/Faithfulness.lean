import OpenApiGate.Proofs.Accounts
import OpenApiGate.Report.Record

/-!
# What can be read off a report

Messages and paths are arbitrary text, and any of them may look like a line of the
report itself.  Still a report on findings without line feeds tells them apart.
The lines of a finding can be read off whatever follows them: its message is on the
first line, its details begin each with a word of their own, and an empty line ends
them.  The banner and the sections can be read off in the same way.
-/

namespace OpenApiGate

/-- No text of a finding holds a line feed. -/
def Finding.IsOneLined (finding : Finding) : Prop :=
  ∀ text ∈ finding.texts, CodePoint.ofChar '\n' ∉ text

instance : DecidablePred Finding.IsOneLined :=
  fun finding => inferInstanceAs (Decidable (∀ text ∈ finding.texts, CodePoint.ofChar '\n' ∉ text))

namespace Report

/-- What a report says of an error; an absent rule is as good as an empty one. -/
def saidOfError (error : Finding) : Text × Text × Text :=
  (error.message, error.path, error.code.getD [])

/-- What a report says of a warning that it itemizes. -/
def saidOfWarning (warning : Finding) : Text × Text :=
  (warning.message, warning.path)

/-! ## The lines of a report -/

/-- A line ends where the next one begins and nowhere else. -/
def IsLine (line : Text) : Prop :=
  CodePoint.ofChar '\n' ∉ line

instance : DecidablePred IsLine :=
  fun line => inferInstanceAs (Decidable (CodePoint.ofChar '\n' ∉ line))

/-- All of some texts are lines. -/
def AreLines (lines : List Text) : Prop :=
  ∀ line ∈ lines, IsLine line

instance : DecidablePred AreLines :=
  fun lines => inferInstanceAs (Decidable (∀ line ∈ lines, IsLine line))

theorem IsLine.append
    {front back : Text}
    (isLine : IsLine front)
    (isLineToo : IsLine back) :
    IsLine (front ++ back) := by
  intro member
  rcases List.mem_append.mp member with early | late
  · exact isLine early
  · exact isLineToo late

theorem isLine_counted
    (count : Nat)
    {word : Text}
    (isLine : IsLine word) :
    IsLine (counted count word) := by
  have digits : IsLine (Text.ofNat count) := by
    intro member
    cases Decimal.isDigit_of_mem_ofNat member
  have ending : IsLine (if count = 1 then [] else Text.ofString "s") := by
    split <;> decide
  exact ((digits.append (by decide)).append isLine).append ending

namespace AreLines

theorem cons
    {line : Text}
    {lines : List Text}
    (isLine : IsLine line)
    (areLines : AreLines lines) :
    AreLines (line :: lines) := by
  intro other member
  rcases List.mem_cons.mp member with rfl | later
  · exact isLine
  · exact areLines other later

theorem append
    {front back : List Text}
    (areLines : AreLines front)
    (areLinesToo : AreLines back) :
    AreLines (front ++ back) := by
  intro line member
  rcases List.mem_append.mp member with early | late
  · exact areLines line early
  · exact areLinesToo line late

theorem flatMap
    {findings : List Finding}
    {lines : Finding → List Text}
    (areLines : ∀ finding ∈ findings, AreLines (lines finding)) :
    AreLines (findings.flatMap lines) := by
  intro line member
  rcases List.mem_flatMap.mp member with ⟨finding, isFinding, inLines⟩
  exact areLines finding isFinding line inLines

end AreLines

theorem areLines_detailLines
    {label detail : Text}
    (isLabel : IsLine label)
    (isDetail : IsLine detail) :
    AreLines (detailLines label detail) := by
  unfold detailLines
  split
  · decide
  · apply AreLines.cons _ (by decide)
    exact (((show IsLine "  " by decide).append isLabel).append (by decide)).append isDetail

theorem areLines_errorLines
    {error : Finding}
    (oneLined : error.IsOneLined) :
    AreLines (errorLines error) := by
  have code : IsLine (error.code.getD []) := by
    cases given : error.code with
    | none => decide
    | some code => exact oneLined code (by simp [Finding.texts, given])
  have message : IsLine error.message := oneLined _ (by simp [Finding.texts])
  have path : IsLine error.path := oneLined _ (by simp [Finding.texts])
  refine .cons ((show IsLine "✗ " by decide).append message) ?_
  exact ((areLines_detailLines (by decide) path).append
    (areLines_detailLines (by decide) code)).append (by decide)

theorem areLines_warningLines
    {warning : Finding}
    (oneLined : warning.IsOneLined) :
    AreLines (warningLines warning) := by
  have message : IsLine warning.message := oneLined _ (by simp [Finding.texts])
  have path : IsLine warning.path := oneLined _ (by simp [Finding.texts])
  refine .cons ((show IsLine "⚠ " by decide).append message) ?_
  exact (areLines_detailLines (by decide) path).append (by decide)

theorem areLines_bannerLines (errorCount warningCount : Nat) :
    AreLines (bannerLines errorCount warningCount) := by
  unfold bannerLines
  split
  · apply AreLines.cons passedLine_is_one_line
    split
    · decide
    · apply AreLines.cons _ (by decide)
      exact ((show IsLine "  (" by decide).append
        (isLine_counted warningCount (by decide))).append (by decide)
  · exact .cons (failedLine_is_one_line errorCount) (by decide)

theorem areLines_errorSection
    {errors : List Finding}
    (oneLined : ∀ error ∈ errors, error.IsOneLined) :
    AreLines (errorSection errors) := by
  unfold errorSection
  split
  · decide
  · refine .cons (by decide) (.cons (by decide) (.flatMap ?_))
    exact fun error member => areLines_errorLines (oneLined error member)

theorem areLines_remainderLines
    (shown : Int)
    (warningCount : Nat) :
    AreLines (remainderLines shown warningCount) := by
  unfold remainderLines
  simp only
  split
  · apply AreLines.cons _ (by decide)
    exact (show IsLine "  ... and " by decide).append (isLine_counted _ (by decide))
  · decide

theorem areLines_warningSection
    (shown : Int)
    {warnings : List Finding}
    (oneLined : ∀ warning ∈ warnings, warning.IsOneLined) :
    AreLines (warningSection shown warnings) := by
  unfold warningSection
  split
  · decide
  · refine .cons (by decide) (.cons (by decide) (.append (.flatMap ?_) ?_))
    · intro warning member
      have inOrder := itemized_prefix shown warnings
      exact areLines_warningLines (oneLined warning (inOrder.subset member))
    · exact areLines_remainderLines shown _

theorem areLines_bodyLines
    {verdict : Verdict}
    (shown : Int)
    (notFatal : verdict.fatal = none)
    (oneLined : ∀ finding ∈ verdict.errors ++ verdict.warnings, finding.IsOneLined) :
    AreLines (bodyLines shown verdict) := by
  simp only [bodyLines, notFatal]
  refine (((areLines_bannerLines _ _).append (by decide)).append ?_).append ?_
  · exact areLines_errorSection fun error member =>
      oneLined error (List.mem_append_left _ member)
  · exact areLines_warningSection shown fun warning member =>
      oneLined warning (List.mem_append_right _ member)

/-- Joined lines are read back by splitting at the line feeds. -/
theorem AreLines.eq_of_joined_eq
    {lines others : List Text}
    (areLines : AreLines lines)
    (areLinesToo : AreLines others)
    (some : lines ≠ [])
    (someOthers : others ≠ [])
    (same : Text.joined "\n" lines = Text.joined "\n" others) :
    lines = others := by
  rw [← List.splitOn_intercalate (CodePoint.ofChar '\n') areLines some,
    ← List.splitOn_intercalate (CodePoint.ofChar '\n') areLinesToo someOthers]
  exact congrArg (List.splitOn (CodePoint.ofChar '\n')) same

/-! ## Reading lines off what follows them -/

/-- What the lines of a finding say can be read off them, and so can their end. -/
def ReadsOff
    {α : Type}
    (lines : Finding → List Text)
    (said : Finding → α) :
    Prop :=
  ∀ finding other rest others,
    lines finding ++ rest = lines other ++ others → said finding = said other ∧ rest = others

/-- A detail can be read off unless what follows may be taken for one. -/
theorem detail_eq_of_append_eq
    {label detail other : Text}
    {rest others : List Text}
    (noDetail : ∀ shown more, rest ≠ ("  " ++ label ++ ": " ++ shown) :: more)
    (noOtherDetail : ∀ shown more, others ≠ ("  " ++ label ++ ": " ++ shown) :: more)
    (same : detailLines label detail ++ rest = detailLines label other ++ others) :
    detail = other ∧ rest = others := by
  unfold detailLines at same
  cases detail with
  | nil =>
      cases other with
      | nil => exact ⟨rfl, same⟩
      | cons point points => exact absurd same (noDetail _ _)
  | cons point points =>
      cases other with
      | nil => exact absurd same.symm (noOtherDetail _ _)
      | cons otherPoint otherPoints =>
          rcases List.cons.inj same with ⟨sameLine, sameRest⟩
          exact ⟨List.append_cancel_left sameLine, sameRest⟩

/-- The empty line at the end of a finding is no detail. -/
theorem end_ne_detail
    (label : Text)
    (rest : List Text) :
    ∀ shown more, [] :: rest ≠ ("  " ++ label ++ ": " ++ shown) :: more := by
  intro shown more same
  cases (List.cons.inj same).1

theorem readsOff_errorLines : ReadsOff errorLines saidOfError := by
  intro error other rest others same
  simp only [errorLines, List.cons_append, List.append_assoc, List.nil_append] at same
  rcases List.cons.inj same with ⟨sameMessage, sameDetails⟩
  -- The line for a rule and the line at the end differ from a path in their third character.
  have noPath (code : Text) (more : List Text) (shown : Text) (further : List Text) :
      detailLines "rule" code ++ [] :: more ≠ ("  " ++ "at" ++ ": " ++ shown) :: further := by
    unfold detailLines
    split
    · exact end_ne_detail _ more shown further
    · nofun
  rcases detail_eq_of_append_eq (noPath _ _) (noPath _ _) sameDetails with ⟨samePath, sameRule⟩
  rcases detail_eq_of_append_eq (end_ne_detail _ _) (end_ne_detail _ _) sameRule with
    ⟨sameCode, sameRest⟩
  refine ⟨?_, List.tail_eq_of_cons_eq sameRest⟩
  rw [saidOfError, saidOfError, List.append_cancel_left sameMessage, samePath, sameCode]

theorem readsOff_warningLines : ReadsOff warningLines saidOfWarning := by
  intro warning other rest others same
  simp only [warningLines, List.cons_append, List.append_assoc, List.nil_append] at same
  rcases List.cons.inj same with ⟨sameMessage, sameDetails⟩
  rcases detail_eq_of_append_eq (end_ne_detail _ _) (end_ne_detail _ _) sameDetails with
    ⟨samePath, sameRest⟩
  refine ⟨?_, List.tail_eq_of_cons_eq sameRest⟩
  rw [saidOfWarning, saidOfWarning, List.append_cancel_left sameMessage, samePath]

/-- The lines of several findings can be read off what does not begin like a finding. -/
theorem ReadsOff.flatMap
    {α : Type}
    {lines : Finding → List Text}
    {said : Finding → α}
    (readsOff : ReadsOff lines said)
    {findings others : List Finding}
    {rest otherRest : List Text}
    (ends : ∀ finding more, rest ≠ lines finding ++ more)
    (otherEnds : ∀ finding more, otherRest ≠ lines finding ++ more)
    (same : findings.flatMap lines ++ rest = others.flatMap lines ++ otherRest) :
    findings.map said = others.map said ∧ rest = otherRest := by
  induction findings generalizing others with
  | nil =>
      cases others with
      | nil => exact ⟨rfl, same⟩
      | cons other more =>
          rw [List.flatMap_cons, List.append_assoc] at same
          exact absurd same (ends _ _)
  | cons finding further ih =>
      cases others with
      | nil =>
          rw [List.flatMap_cons, List.append_assoc] at same
          exact absurd same.symm (otherEnds _ _)
      | cons other more =>
          rw [List.flatMap_cons, List.flatMap_cons, List.append_assoc, List.append_assoc] at same
          rcases readsOff _ _ _ _ same with ⟨sameFinding, sameOthers⟩
          rcases ih sameOthers with ⟨sameFindings, sameRest⟩
          refine ⟨?_, sameRest⟩
          rw [List.map_cons, List.map_cons, sameFinding, sameFindings]

/-! ## The parts of a report -/

theorem passedLine_ne_failedLine (errorCount : Nat) : passedLine ≠ failedLine errorCount := by
  intro same
  have begins : (failedLine errorCount).head? = some (CodePoint.ofChar '✗') := rfl
  rw [← same] at begins
  exact absurd begins (by decide)

/-- What follows a banner can be read off, whether or not it counts warnings. -/
theorem rest_eq_of_remark_eq
    (remark : Nat → Text)
    {warningCount otherCount : Nat}
    {rest others : List Text}
    (some : ∀ count, remark count ≠ [])
    (same :
      (if warningCount = 0 then [] else [remark warningCount]) ++ [] :: rest =
        (if otherCount = 0 then [] else [remark otherCount]) ++ [] :: others) :
    rest = others := by
  by_cases silent : warningCount = 0
  · by_cases otherSilent : otherCount = 0
    · rw [if_pos silent, if_pos otherSilent] at same
      exact (List.cons.inj same).2
    · rw [if_pos silent, if_neg otherSilent] at same
      exact absurd (List.cons.inj same).1.symm (some otherCount)
  · by_cases otherSilent : otherCount = 0
    · rw [if_neg silent, if_pos otherSilent] at same
      exact absurd (List.cons.inj same).1 (some warningCount)
    · rw [if_neg silent, if_neg otherSilent] at same
      exact (List.cons.inj (List.cons.inj same).2).2

/-- A banner tells whether there are errors, and how many; what follows it can be read off. -/
theorem banner_eq_of_append_eq
    {errorCount otherErrorCount warningCount otherWarningCount : Nat}
    {rest others : List Text}
    (same :
      bannerLines errorCount warningCount ++ [] :: rest =
        bannerLines otherErrorCount otherWarningCount ++ [] :: others) :
    errorCount = otherErrorCount ∧ rest = others := by
  unfold bannerLines at same
  by_cases passed : errorCount = 0
  · by_cases otherPassed : otherErrorCount = 0
    · rw [if_pos passed, if_pos otherPassed] at same
      refine ⟨passed.trans otherPassed.symm, ?_⟩
      exact rest_eq_of_remark_eq
        (fun count => "  (" ++ counted count "warning" ++ " - optional to fix)")
        (fun count => List.cons_ne_nil _ _) (List.cons.inj same).2
    · rw [if_pos passed, if_neg otherPassed] at same
      exact absurd (List.cons.inj same).1 (passedLine_ne_failedLine _)
  · by_cases otherPassed : otherErrorCount = 0
    · rw [if_neg passed, if_pos otherPassed] at same
      exact absurd (List.cons.inj same).1.symm (passedLine_ne_failedLine _)
    · rw [if_neg passed, if_neg otherPassed] at same
      rcases List.cons.inj same with ⟨sameBanner, sameRest⟩
      refine ⟨?_, (List.cons.inj sameRest).2⟩
      exact counted_injective (List.append_cancel_left (List.append_cancel_right sameBanner))

/-- Errors can be read off their section and what follows, once their number is known. -/
theorem errors_eq_of_append_eq
    {errors others : List Finding}
    {rest otherRest : List Text}
    (sameCount : errors.length = others.length)
    (ends : ∀ error more, rest ≠ errorLines error ++ more)
    (otherEnds : ∀ error more, otherRest ≠ errorLines error ++ more)
    (same : errorSection errors ++ rest = errorSection others ++ otherRest) :
    errors.map saidOfError = others.map saidOfError ∧ rest = otherRest := by
  unfold errorSection at same
  cases errors with
  | nil =>
      rw [List.eq_nil_of_length_eq_zero sameCount.symm] at same ⊢
      exact ⟨rfl, same⟩
  | cons error further =>
      cases others with
      | nil => cases sameCount
      | cons other more =>
          apply readsOff_errorLines.flatMap ends otherEnds
          exact (List.cons.inj (List.cons.inj same).2).2

/-- Warnings that are itemized, and the number of the others, can be read off their section. -/
theorem account_eq_of_accountSection_eq
    {shown others : List Finding}
    {announced other : Nat}
    (same : accountSection shown announced = accountSection others other) :
    shown.map saidOfWarning = others.map saidOfWarning ∧ announced = other := by
  have ends (count : Nat) (warning : Finding) (more : List Text) :
      announcement count ≠ warningLines warning ++ more := by
    intro same
    exact lined_announcement_ne_warning count warning more (congrArg Text.lined same)
  unfold accountSection at same
  split at same
  · next none =>
      split at same
      · next noneOther => exact ⟨by rw [none.1, noneOther.1], none.2.trans noneOther.2.symm⟩
      · cases same
  · split at same
    · cases same
    · have sameEntries := (List.cons.inj (List.cons.inj same).2).2
      rcases readsOff_warningLines.flatMap (ends _) (ends _) sameEntries with
        ⟨sameShown, sameNumber⟩
      exact ⟨sameShown, lined_announcement_injective (congrArg Text.lined sameNumber)⟩

/-- The section on warnings does not begin like an error. -/
theorem warningSection_ne_error
    (shown : Int)
    (warnings : List Finding)
    (error : Finding)
    (more : List Text) :
    warningSection shown warnings ≠ errorLines error ++ more := by
  unfold warningSection
  split
  · nofun
  · nofun

/-! ## Reports that are the same -/

/--
Reports on findings without line feeds, for the same document, size and options, are
the same only if the findings are: the errors agree one by one in all that a report
says of them, there are as many warnings, and the itemized ones agree.
-/
theorem report_tells_findings_apart
    {options : ReportOptions}
    {first second : Verdict}
    {text : Text}
    (natural : 0 ≤ options.shownWarnings)
    (notFatal : first.fatal = none)
    (otherNotFatal : second.fatal = none)
    (sameSize : first.sizeKb = second.sizeKb)
    (oneLined : ∀ finding ∈ first.errors ++ first.warnings, finding.IsOneLined)
    (otherOneLined : ∀ finding ∈ second.errors ++ second.warnings, finding.IsOneLined)
    (written : Report.text options first = .ok text)
    (otherWritten : Report.text options second = .ok text) :
    first.errors.map saidOfError = second.errors.map saidOfError ∧
      first.warnings.length = second.warnings.length ∧
      (first.warnings.take options.shownWarnings.toNat).map saidOfWarning =
        (second.warnings.take options.shownWarnings.toNat).map saidOfWarning := by
  rcases (text_eq_ok_iff _ _ _).mp written with ⟨size, sized, -, rfl⟩
  rcases (text_eq_ok_iff _ _ _).mp otherWritten with ⟨otherSize, otherSized, -, same⟩
  rw [sameSize] at sized
  cases sized.symm.trans otherSized
  have sameLines :
      bodyLines options.shownWarnings first = bodyLines options.shownWarnings second :=
    (areLines_bodyLines _ notFatal oneLined).eq_of_joined_eq
      (areLines_bodyLines _ otherNotFatal otherOneLined) (bodyLines_ne_nil _ _)
      (bodyLines_ne_nil _ _) (List.append_cancel_left same)
  simp only [bodyLines, notFatal, otherNotFatal, List.append_assoc, List.cons_append,
    List.nil_append] at sameLines
  rcases banner_eq_of_append_eq sameLines with ⟨sameCount, sameSections⟩
  rcases errors_eq_of_append_eq sameCount (warningSection_ne_error _ _)
      (warningSection_ne_error _ _) sameSections with ⟨sameErrors, sameWarnings⟩
  refine ⟨sameErrors, ?_⟩
  rcases Int.eq_ofNat_of_zero_le natural with ⟨count, isCount⟩
  rw [warningSection_eq, warningSection_eq, isCount] at sameWarnings
  rcases account_eq_of_accountSection_eq sameWarnings with ⟨sameShown, sameNumber⟩
  rw [isCount]
  refine ⟨?_, sameShown⟩
  have sameItems := congrArg List.length sameShown
  rw [List.length_map, List.length_map] at sameItems
  calc
    first.warnings.length
      = (itemized count first.warnings).length + remaining count first.warnings :=
        (addsUp_of_count count first.warnings).total.symm
    _ = (itemized count second.warnings).length + remaining count second.warnings := by
        rw [sameItems, sameNumber]
    _ = second.warnings.length := (addsUp_of_count count second.warnings).total

/-- An error and a warning that look like lines of a report, and one more warning. -/
def imitatingVerdict
    (code : Option Text)
    (lastMessage : Text) :
    Verdict where
  success := false
  fatal := none
  sizeKb := none
  errors := [⟨"Errors:", "  rule: r", .error, code, none⟩]
  warnings := [.warning "✗ p" "  ... and 1 more warning", .warning [] lastMessage]

/-- An empty rule and a warning that is not itemized make no difference to the report. -/
theorem imitating_findings_are_told_apart :
    ∃ text,
      Report.text (showing 1) (imitatingVerdict none "one") = .ok text ∧
        Report.text (showing 1) (imitatingVerdict (some []) "other") = .ok text ∧
        (imitatingVerdict none "one").errors.map saidOfError =
          (imitatingVerdict (some []) "other").errors.map saidOfError ∧
        (imitatingVerdict none "one").warnings.length =
          (imitatingVerdict (some []) "other").warnings.length ∧
        ((imitatingVerdict none "one").warnings.take 1).map saidOfWarning =
          ((imitatingVerdict (some []) "other").warnings.take 1).map saidOfWarning := by
  have written : ∃ text, Report.text (showing 1) (imitatingVerdict none "one") = .ok text ∧
      Report.text (showing 1) (imitatingVerdict (some []) "other") = .ok text := ⟨_, rfl, rfl⟩
  rcases written with ⟨text, written, otherWritten⟩
  refine ⟨text, written, otherWritten, ?_⟩
  exact report_tells_findings_apart (by decide) rfl rfl rfl (by decide) (by decide) written
    otherWritten

end Report

end OpenApiGate
