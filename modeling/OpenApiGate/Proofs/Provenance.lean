import OpenApiGate.Proofs.Incompatibilities
import OpenApiGate.Proofs.Linting
import OpenApiGate.Proofs.LoadingFailures
import OpenApiGate.Proofs.Verdicts

/-!
# Where findings come from

Nothing in the types says that an error stands among the errors, or that only
the linter names rules and lines.  Both hold for every verdict, because each
stage that makes findings keeps to it and merging only joins lists: the program's
own findings stand before the errors and behind the warnings of the linter.
-/

namespace OpenApiGate

/-- A finding as the program's own checks make it: without a rule and without a line. -/
structure Finding.IsOwn (finding : Finding) : Prop where
  noCode : finding.code = none
  noLine : finding.line = none

/-! ## The linter -/

namespace LinterOutput

open Json (Value)
open Fallible

/-- A finding is that of an item of the output, which has the severity of the finding. -/
def Reported
    (output : Text)
    (finding : Finding) :
    Prop :=
  ∃ items item,
    Json.decode output = .ok (.array items) ∧ item ∈ items ∧
      reportedSeverity? item = some finding.severity ∧
      findingOf finding.severity item = .ok finding

theorem severity_findingOf
    {severity : Severity}
    {item : Value}
    {finding : Finding}
    (made : findingOf severity item = .ok finding) :
    finding.severity = severity := by
  rcases map_eq_ok_iff.mp made with ⟨parts, -, rfl⟩
  rfl

theorem mem_list_addFirst_iff
    (findings : Findings)
    (severity other : Severity)
    (finding added : Finding) :
    finding ∈ (findings.addFirst severity added).list other ↔
      (other = severity ∧ finding = added) ∨ finding ∈ findings.list other := by
  cases severity <;> cases other <;> simp [Findings.addFirst, Findings.list]

/-- A finding in the list for a severity is made of an item that is reported with it. -/
theorem exists_item_of_mem_findingsOf
    {items : List Value}
    {found : Findings}
    {severity : Severity}
    {finding : Finding}
    (read : findingsOf items = .ok found)
    (member : finding ∈ found.list severity) :
    ∃ item ∈ items,
      reportedSeverity? item = some severity ∧ findingOf severity item = .ok finding := by
  induction items generalizing found with
  | nil =>
      cases read
      cases severity <;> cases member
  | cons item rest ih =>
      cases reported : reportedSeverity? item with
      | none =>
          rw [findingsOf_cons_of_none reported] at read
          rcases ih read member with ⟨source, within, made⟩
          exact ⟨source, List.mem_cons_of_mem item within, made⟩
      | some itemSeverity =>
          rw [findingsOf_cons_of_some reported] at read
          rcases bind_eq_ok_iff.mp read with ⟨own, ownMade, othersRead⟩
          rcases map_eq_ok_iff.mp othersRead with ⟨others, othersMade, rfl⟩
          rcases (mem_list_addFirst_iff others itemSeverity severity finding own).mp member with
            ⟨rfl, rfl⟩ | later
          · exact ⟨item, List.mem_cons_self, reported, ownMade⟩
          · rcases ih othersMade later with ⟨source, within, made⟩
            exact ⟨source, List.mem_cons_of_mem item within, made⟩

/-- What an output reports in the list for a severity has that severity and comes from an item. -/
theorem reported_of_mem_findings
    {output : Text}
    {found : Findings}
    {severity : Severity}
    {finding : Finding}
    (read : findings output = .ok found)
    (member : finding ∈ found.list severity) :
    finding.severity = severity ∧ Reported output finding := by
  unfold findings at read
  split at read
  · cases read
    cases severity <;> cases member
  · split at read
    · cases read
    · next items decoded =>
        rcases exists_item_of_mem_findingsOf read member with ⟨item, within, reported, made⟩
        have same := severity_findingOf made
        exact ⟨same, items, item, decoded, within, same ▸ reported, same ▸ made⟩
    · cases read

end LinterOutput

/-- A finding comes from the output of the process that a launcher starts. -/
def Launcher.Reports
    (launcher : Launcher)
    (finding : Finding) :
    Prop :=
  ∃ ending, launcher.isFound = true ∧ launcher.outcome = .finished ending ∧
    ending.exitCode ≠ Spectral.commandNotFound ∧
    LinterOutput.Reported (ending.output.getD []) finding

namespace Spectral

/-- Findings of a process are read from its output, or there are none. -/
theorem findings_of_readOutput
    {ending : Ending}
    {found : Findings}
    (given : (readOutput ending).result = .ok found) :
    LinterOutput.findings (ending.output.getD []) = .ok found ∨ found = .empty := by
  cases read : LinterOutput.findings (ending.output.getD []) with
  | ok other =>
      cases (result_readOutput_of_ok read).symm.trans given
      exact Or.inl rfl
  | error error =>
      by_cases grave : error.IsGrave
      · rcases breaksDown_readOutput_of_grave read grave with ⟨failure, broken⟩
        cases broken.symm.trans given
      · cases (result_readOutput_of_slight read grave).symm.trans given
        exact Or.inr rfl

/-- What linting finds in the list for a severity has that severity and comes from the output. -/
theorem reported_of_mem_lint
    {spectral : Spectral}
    {launcher : Launcher}
    {document ruleset : Path}
    {found : Findings}
    {severity : Severity}
    {finding : Finding}
    (given : (spectral.lint launcher document ruleset).result = .ok found)
    (member : finding ∈ found.list severity) :
    finding.severity = severity ∧ launcher.Reports finding := by
  cases isFound : launcher.isFound with
  | false =>
      rw [result_lint_of_not_found spectral document ruleset isFound] at given
      cases given
  | true =>
      cases outcome : launcher.outcome with
      | failed fault =>
          rw [result_lint_of_failed spectral document ruleset isFound outcome] at given
          cases given
      | finished ending =>
          by_cases started : ending.exitCode = commandNotFound
          · rw [result_lint_of_not_started spectral document ruleset isFound outcome started]
              at given
            cases given
          · rw [result_lint_of_started spectral document ruleset isFound outcome started] at given
            rcases findings_of_readOutput given with read | rfl
            · rcases LinterOutput.reported_of_mem_findings read member with ⟨same, reported⟩
              exact ⟨same, ending, isFound, outcome, started, reported⟩
            · cases severity <;> cases member

end Spectral

/-! ## The program's own checks -/

/-- The paths of the program's own errors, in the order of the report. -/
def ownErrorPaths : List Text :=
  [[], "$.openapi", "$.info.title"]

/-- The program's own errors are about the size, the version and the title, in this order. -/
theorem paths_ownErrors_sublist
    (limit sizeKb : Float)
    (document : Json.Value) :
    List.Sublist
      ((Document.sizeErrors limit sizeKb ++ (RequiredFields.check document).errors).map
        Finding.path)
      ownErrorPaths := by
  have size : List.Sublist ((Document.sizeErrors limit sizeKb).map Finding.path) [[]] := by
    unfold Document.sizeErrors
    split
    · exact List.Sublist.refl _
    · exact List.nil_sublist _
  have fields :
      List.Sublist ((RequiredFields.check document).errors.map Finding.path)
        ["$.openapi", "$.info.title"] := by
    unfold RequiredFields.check
    cases RequiredFields.hasVersion document <;> cases RequiredFields.hasTitle document <;> decide
  rw [List.map_append]
  exact size.append fields

theorem isOwn_of_mem_ownErrors
    {limit sizeKb : Float}
    {document : Json.Value}
    {finding : Finding}
    (member :
      finding ∈ Document.sizeErrors limit sizeKb ++ (RequiredFields.check document).errors) :
    finding.severity = .error ∧ finding.IsOwn := by
  rcases List.mem_append.mp member with size | field
  · unfold Document.sizeErrors at size
    split at size
    · rw [List.mem_singleton.mp size]
      exact ⟨rfl, rfl, rfl⟩
    · cases size
  · rcases List.mem_append.mp field with version | title
    · split at version
      · cases version
      · rw [List.mem_singleton.mp version]
        exact ⟨rfl, rfl, rfl⟩
    · split at title
      · cases title
      · rw [List.mem_singleton.mp title]
        exact ⟨rfl, rfl, rfl⟩

namespace Compatibility

/-- All that the compatibility check writes about stands below `paths`. -/
def placePrefix : Text := "paths."

theorem placePrefix_prefix_place (site : Site) :
    placePrefix <+: site.place := by
  unfold Site.place
  cases site.method with
  | none => exact List.prefix_append _ _
  | some method =>
      show placePrefix <+: placePrefix ++ site.path ++ "." ++ methods[method]
      rw [List.append_assoc, List.append_assoc]
      exact List.prefix_append _ _

theorem placePrefix_prefix_parameterPlace
    (site : Site)
    (index : Nat) :
    placePrefix <+: site.parameterPlace index := by
  unfold Site.parameterPlace
  rw [List.append_assoc]
  exact (placePrefix_prefix_place site).trans (List.prefix_append _ _)

/-- A warning about an incompatibility is the program's own, at a place below `paths`. -/
theorem Incompatibility.isOwn_warning (found : Incompatibility) :
    found.warning.severity = .warning ∧ found.warning.IsOwn ∧
      placePrefix <+: found.warning.path := by
  rcases found with ⟨site, complaint⟩
  cases complaint with
  | unnamed => exact ⟨rfl, ⟨rfl, rfl⟩, placePrefix_prefix_place site⟩
  | deprecated => exact ⟨rfl, ⟨rfl, rfl⟩, placePrefix_prefix_place site⟩
  | cookie index name => exact ⟨rfl, ⟨rfl, rfl⟩, placePrefix_prefix_parameterPlace site index⟩
  | reserved index name => exact ⟨rfl, ⟨rfl, rfl⟩, placePrefix_prefix_parameterPlace site index⟩

theorem isOwn_of_mem_check
    {document : Json.Value}
    {found : Findings}
    {finding : Finding}
    (checked : (check document).result = .ok found)
    (member : finding ∈ found.warnings) :
    finding.severity = .warning ∧ finding.IsOwn ∧ placePrefix <+: finding.path := by
  rw [result_check] at checked
  rcases Fallible.map_eq_ok_iff.mp checked with ⟨warned, given, rfl⟩
  rcases reports_warnings given with ⟨reported, rfl, -⟩
  rcases List.mem_map.mp member with ⟨incompatibility, -, rfl⟩
  exact incompatibility.isOwn_warning

end Compatibility

/-! ## The verdict -/

/-- Every finding of a verdict stands in the list for its severity, and its source is known. -/
structure Verdict.Traceable
    (launcher : Launcher)
    (verdict : Verdict) :
    Prop where
  errorSeverity : ∀ finding ∈ verdict.errors, finding.severity = .error
  warningSeverity : ∀ finding ∈ verdict.warnings, finding.severity = .warning
  /-- Only findings of the linter have a rule or a line. -/
  detailed :
    ∀ finding ∈ verdict.errors ++ verdict.warnings,
      finding.code ≠ none ∨ finding.line ≠ none → launcher.Reports finding
  /-- The program's own errors come first, each at most once and in their order. -/
  errors :
    ∃ own reported, verdict.errors = own ++ reported ∧
      List.Sublist (own.map Finding.path) ownErrorPaths ∧
      (∀ finding ∈ own, finding.IsOwn) ∧ ∀ finding ∈ reported, launcher.Reports finding
  /-- The program's own warnings come last, and all of them are about something in `paths`. -/
  warnings :
    ∃ reported own, verdict.warnings = reported ++ own ∧
      (∀ finding ∈ reported, launcher.Reports finding) ∧
      ∀ finding ∈ own, finding.IsOwn ∧ Compatibility.placePrefix <+: finding.path

namespace Verdict

theorem traceable_ofFatal
    (launcher : Launcher)
    (condition : Text)
    (sizeKb : Option Float) :
    Traceable launcher (.ofFatal condition sizeKb) where
  errorSeverity := nofun
  warningSeverity := nofun
  detailed := nofun
  errors := ⟨[], [], rfl, List.nil_sublist _, nofun, nofun⟩
  warnings := ⟨[], [], rfl, nofun, nofun⟩

/-- A finding with a rule or a line is none of the program's own. -/
theorem reports_of_detailed
    {launcher : Launcher}
    {finding : Finding}
    (source : finding.IsOwn ∨ launcher.Reports finding)
    (detail : finding.code ≠ none ∨ finding.line ≠ none) :
    launcher.Reports finding := by
  rcases source with own | reported
  · rcases detail with code | line
    · exact absurd own.noCode code
    · exact absurd own.noLine line
  · exact reported

end Verdict

theorem Check.traceable_of_mergesFindings
    {check : Check}
    {surroundings : Surroundings}
    {spectral : Spectral}
    {launcher : Launcher}
    {verdict : Verdict}
    (asksSpectral : check.engine = spectral.engine launcher)
    (merges : check.MergesFindings surroundings verdict) :
    verdict.Traceable launcher := by
  rcases merges with
    ⟨document, compatibility, engine, -, checked, linted, -, -, errors, -, warnings, -, -⟩
  have reported :
      ∀ severity, ∀ finding ∈ engine.list severity,
        finding.severity = severity ∧ launcher.Reports finding := by
    intro severity finding member
    unfold linting at linted
    rw [asksSpectral] at linted
    exact Spectral.reported_of_mem_lint linted member
  have ownErrors := paths_ownErrors_sublist check.settings.maxSizeKb document.sizeKb document.content
  have ofErrors :
      ∀ finding ∈ verdict.errors,
        finding.severity = .error ∧ (finding.IsOwn ∨ launcher.Reports finding) := by
    intro finding member
    rw [errors] at member
    rcases List.mem_append.mp member with own | foreign
    · exact (isOwn_of_mem_ownErrors own).imp_right Or.inl
    · exact (reported .error finding foreign).imp_right Or.inr
  have ofWarnings :
      ∀ finding ∈ verdict.warnings,
        finding.severity = .warning ∧ (finding.IsOwn ∨ launcher.Reports finding) := by
    intro finding member
    rw [warnings] at member
    rcases List.mem_append.mp member with foreign | own
    · exact (reported .warning finding foreign).imp_right Or.inr
    · rcases Compatibility.isOwn_of_mem_check checked own with ⟨severity, isOwn, -⟩
      exact ⟨severity, Or.inl isOwn⟩
  refine
    { errorSeverity := fun finding member => (ofErrors finding member).1
      warningSeverity := fun finding member => (ofWarnings finding member).1
      detailed := ?_
      errors := ⟨_, _, errors, ownErrors, ?_, ?_⟩
      warnings := ⟨_, _, warnings, ?_, ?_⟩ }
  · intro finding member
    rcases List.mem_append.mp member with error | warning
    · exact Verdict.reports_of_detailed (ofErrors finding error).2
    · exact Verdict.reports_of_detailed (ofWarnings finding warning).2
  · exact fun finding member => (isOwn_of_mem_ownErrors member).2
  · exact fun finding member => (reported .error finding member).2
  · exact fun finding member => (reported .warning finding member).2
  · exact fun finding member => (Compatibility.isOwn_of_mem_check checked member).2

/-- Every verdict of a check that asks the linter tells where its findings come from. -/
theorem Check.findings_stand_by_severity_and_source
    {check : Check}
    {surroundings : Surroundings}
    {spectral : Spectral}
    {launcher : Launcher}
    {verdict : Verdict}
    (asksSpectral : check.engine = spectral.engine launcher)
    (given : (check.run surroundings).result = .ok verdict) :
    verdict.Traceable launcher := by
  rcases (run_eq_ok_iff verdict).mp given with
    ⟨error, -, rfl, -⟩ | ⟨_, _, error, -, -, -, rfl, -⟩ | merges
  · exact Verdict.traceable_ofFatal launcher _ _
  · exact Verdict.traceable_ofFatal launcher _ _
  · exact traceable_of_mergesFindings asksSpectral merges

namespace Check

/-- Surroundings with one document: its operation has no name, and version and title are missing. -/
def namelessSurroundings : Surroundings where
  files :=
    Document.soleFile "\x7b\"paths\":\x7b\"/a\":\x7b\"get\":\x7b\x7d\x7d\x7d\x7d".toUTF8.toList
  environment := []
  packagedRuleset := Path.ofText "/preflight.yaml"

/-- A linter that reports a warning without a rule and an error by a rule. -/
def twoResults : Launcher :=
  Spectral.printing
    ("[\x7b\"severity\":1,\"message\":\"w\"\x7d," ++
      "\x7b\"severity\":0,\"code\":\"r\",\"message\":\"m\"\x7d]")

/-- The check of a document by the linter, under the usual settings. -/
def usualCheck (launcher : Launcher) : Check :=
  ⟨"d.json", .usual, Spectral.usual.engine launcher, none⟩

theorem findings_of_nameless_operation_are_traceable :
    ∃ verdict,
      ((usualCheck twoResults).run namelessSurroundings).result = .ok verdict ∧
        verdict.errors =
          [RequiredFields.missingVersion, RequiredFields.missingTitle,
            ⟨[], "m", .error, some "r", none⟩] ∧
        verdict.warnings =
          [⟨[], "w", .warning, none, none⟩, Compatibility.unnamedWarning "paths./a.get"] ∧
        verdict.Traceable twoResults := by
  have found :
      ((usualCheck twoResults).run namelessSurroundings).result.toOption.map
          (fun verdict => (verdict.errors, verdict.warnings)) =
        some
          ([RequiredFields.missingVersion, RequiredFields.missingTitle,
              ⟨[], "m", .error, some "r", none⟩],
            [⟨[], "w", .warning, none, none⟩, Compatibility.unnamedWarning "paths./a.get"]) := by
    decide +kernel
  cases given : ((usualCheck twoResults).run namelessSurroundings).result with
  | error failure =>
      rw [given] at found
      cases found
  | ok verdict =>
      rw [given] at found
      rcases Prod.mk.inj (Option.some.inj found) with ⟨errors, warnings⟩
      have traceable : verdict.Traceable twoResults :=
        findings_stand_by_severity_and_source rfl given
      exact ⟨verdict, rfl, errors, warnings, traceable⟩

end Check

end OpenApiGate
