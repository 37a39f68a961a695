import OpenApiGate.Check
import OpenApiGate.Proofs.Loading

/-!
# Where a verdict comes from

A check that gives a verdict has stopped at the document, has stopped at the
engine, or has merged the findings of all stages.  The three exclude each other.
A verdict of the first two kinds carries no finding of any stage.
-/

namespace OpenApiGate.Check

open Traced

variable (check : Check) (surroundings : Surroundings)

/-- The document of a check, loaded under the limit of its settings. -/
def loading : Document.Loading Document :=
  Document.load surroundings.files check.path (some (.real check.settings.maxSizeKb))

/-- The answer of the engine about a document, with the ruleset of the check. -/
def linting (document : Document) : Linting Findings :=
  check.engine.lint document.path (check.chosenRuleset surroundings.packagedRuleset)

/-- The engine was asked once, about the document and with the ruleset of the check. -/
def AsksOnce (document : Document) : Prop :=
  ∃ before after,
    (check.run surroundings).events =
        before ++
          (.consult document.path.text
              (check.chosenRuleset surroundings.packagedRuleset).text ::
            (check.linting surroundings document).events ++ after) ∧
      OnlyRecords before ∧ OnlyRecords after

/-- The document cannot be loaded: the verdict says why, and the engine is not asked. -/
def StopsAtDocument (verdict : Verdict) : Prop :=
  ∃ error, (check.loading surroundings).result = .error (.foreseen error) ∧
    verdict = .ofFatal error.cause.message (Document.sizeAt? surroundings.files check.path) ∧
    (error.cause = .notFound check.path ↔ verdict.sizeKb = none) ∧
    OnlyRecords (check.run surroundings).events

/-- The engine cannot be used: the verdict says why, and the findings so far are dropped. -/
def StopsAtEngine (verdict : Verdict) : Prop :=
  ∃ document compatibility error,
    (check.loading surroundings).result = .ok document ∧
      (Compatibility.check document.content).result = .ok compatibility ∧
      (check.linting surroundings document).result = .error (.foreseen error) ∧
      verdict = .ofFatal error.message (Document.sizeAt? surroundings.files check.path) ∧
      check.AsksOnce surroundings document

/-- All stages have given findings: the verdict consists of all of them, in order. -/
def MergesFindings (verdict : Verdict) : Prop :=
  ∃ document compatibility engine,
    (check.loading surroundings).result = .ok document ∧
      (Compatibility.check document.content).result = .ok compatibility ∧
      (check.linting surroundings document).result = .ok engine ∧
      verdict.fatal = none ∧
      verdict.sizeKb = Document.sizeAt? surroundings.files check.path ∧
      verdict.errors =
        Document.sizeErrors check.settings.maxSizeKb document.sizeKb ++
          (RequiredFields.check document.content).errors ++ engine.errors ∧
      (Document.sizeErrors check.settings.maxSizeKb document.sizeKb).length ≤ 1 ∧
      verdict.warnings = engine.warnings ++ compatibility.warnings ∧
      (verdict.success = true ↔ verdict.errors = []) ∧
      check.AsksOnce surroundings document

/-! ## The stages of a check -/

theorem result_run :
    (check.run surroundings).result =
      match (check.loading surroundings).result with
      | .error (.unforeseen failure) => .error failure
      | .error (.foreseen error) => .ok (.ofFatal error.cause.message error.sizeKb)
      | .ok document =>
        (check.examine (check.chosenRuleset surroundings.packagedRuleset) document).result := by
  show ((check.loading surroundings).attempt >>= _ : Traced Failure Verdict).result = _
  rw [result_attempt_bind]
  rcases (check.loading surroundings).result with (error | failure) | document <;> rfl

theorem result_examine
    (ruleset : Path)
    (document : Document) :
    (check.examine ruleset document).result =
      match (Compatibility.check document.content).result with
      | .error error => .error (.integer error)
      | .ok compatibility =>
        (check.consult ruleset document (structuralFindings document) compatibility).result := by
  show ((Compatibility.check document.content).mapError Failure.integer >>= _ :
    Traced Failure Verdict).result = _
  cases checked : (Compatibility.check document.content).result with
  | error error =>
      apply result_bind_of_error
      simp only [mapError, checked]
      rfl
  | ok compatibility =>
      apply result_bind_of_ok
      simp only [mapError, checked]
      rfl

theorem result_consult
    (ruleset : Path)
    (document : Document)
    (structural compatibility : Findings) :
    (check.consult ruleset document structural compatibility).result =
      match (check.engine.lint document.path ruleset).result with
      | .error (.unforeseen failure) => .error failure
      | .error (.foreseen error) => .ok (.ofFatal error.message (some document.sizeKb))
      | .ok engine =>
        .ok (.merge structural compatibility engine (some document.sizeKb)) := by
  show (emit _ >>= fun _ => (check.engine.lint document.path ruleset).attempt >>= _ :
    Traced Failure Verdict).result = _
  rw [result_bind_of_ok rfl, result_attempt_bind]
  rcases (check.engine.lint document.path ruleset).result with (error | failure) | engine <;> rfl

variable {check surroundings}

theorem result_run_of_incompatible
    {document : Document}
    {error : Decimal.IntegerError}
    (loaded : (check.loading surroundings).result = .ok document)
    (failure : (Compatibility.check document.content).result = .error error) :
    (check.run surroundings).result = .error (.integer error) := by
  rw [result_run, loaded]
  show (check.examine _ document).result = _
  rw [result_examine, failure]

theorem result_run_of_compatible
    {document : Document}
    {compatibility : Findings}
    (loaded : (check.loading surroundings).result = .ok document)
    (checked : (Compatibility.check document.content).result = .ok compatibility) :
    (check.run surroundings).result =
      match (check.linting surroundings document).result with
      | .error (.unforeseen failure) => .error failure
      | .error (.foreseen error) => .ok (.ofFatal error.message (some document.sizeKb))
      | .ok engine =>
        .ok
          (.merge (structuralFindings document) compatibility engine
            (some document.sizeKb)) := by
  rw [result_run, loaded]
  show (check.examine _ document).result = _
  rw [result_examine, checked]
  exact result_consult check _ document _ compatibility

/-! ## What the stages do on the way -/

theorem onlyRecords_compatibility (document : Json.Value) :
    OnlyRecords (Compatibility.check document).events := by
  unfold Compatibility.check
  split
  · exact .nil
  · apply onlyRecords_bind .nil
    intro found
    exact onlyRecords_bind (onlyRecords_log _ _ _) fun _ => .nil

/-- Without a document there is nothing to do but to write a record. -/
theorem onlyRecords_run_of_foreseen
    {error : Document.LoadError}
    (failure : (check.loading surroundings).result = .error (.foreseen error)) :
    OnlyRecords (check.run surroundings).events := by
  show OnlyRecords ((check.loading surroundings).attempt >>= _ : Traced Failure Verdict).events
  rw [events_attempt_bind, failure]
  apply (Document.onlyRecords_load _ _ _).append
  exact onlyRecords_bind (onlyRecords_log _ _ _) fun _ => .nil

theorem events_run_of_loaded
    {document : Document}
    (loaded : (check.loading surroundings).result = .ok document) :
    (check.run surroundings).events =
      (check.loading surroundings).events ++
        (check.examine (check.chosenRuleset surroundings.packagedRuleset) document).events := by
  show ((check.loading surroundings).attempt >>= _ : Traced Failure Verdict).events = _
  rw [events_attempt_bind, loaded]

theorem events_examine_of_compatible
    {ruleset : Path}
    {document : Document}
    {compatibility : Findings}
    (checked : (Compatibility.check document.content).result = .ok compatibility) :
    (check.examine ruleset document).events =
      (Compatibility.check document.content).events ++
        (check.consult ruleset document (structuralFindings document) compatibility).events := by
  have converted :
      ((Compatibility.check document.content).mapError Failure.integer).result =
        .ok compatibility := by
    simp only [mapError, checked]
    rfl
  exact events_bind_of_ok converted _

/-- The engine is asked first; what follows its answer are log records. -/
theorem events_consult
    (check : Check)
    (ruleset : Path)
    (document : Document)
    (structural compatibility : Findings) :
    ∃ after,
      (check.consult ruleset document structural compatibility).events =
          .consult document.path.text ruleset.text ::
            (check.engine.lint document.path ruleset).events ++ after ∧
        OnlyRecords after := by
  refine
    ⟨_, congrArg (Event.consult document.path.text ruleset.text :: ·)
      (events_attempt_bind (check.engine.lint document.path ruleset) _), ?_⟩
  split
  · exact .nil
  · exact onlyRecords_bind (onlyRecords_log _ _ _) fun _ => .nil
  · exact onlyRecords_bind (onlyRecords_log _ _ _) fun _ => .nil

theorem asksOnce_of_stages
    {document : Document}
    {compatibility : Findings}
    (loaded : (check.loading surroundings).result = .ok document)
    (checked : (Compatibility.check document.content).result = .ok compatibility) :
    check.AsksOnce surroundings document := by
  rcases
    events_consult check (check.chosenRuleset surroundings.packagedRuleset) document
      (structuralFindings document) compatibility with
    ⟨after, consulted, quietAfter⟩
  refine
    ⟨(check.loading surroundings).events ++ (Compatibility.check document.content).events,
      after, ?_, ?_, quietAfter⟩
  · rw [events_run_of_loaded loaded, events_examine_of_compatible checked, consulted,
      List.append_assoc]
    rfl
  · exact (Document.onlyRecords_load _ _ _).append (onlyRecords_compatibility _)

/-! ## The verdict -/

theorem merge_success_iff
    (structural compatibility engine : Findings)
    (sizeKb : Option Float) :
    (Verdict.merge structural compatibility engine sizeKb).success = true ↔
      (Verdict.merge structural compatibility engine sizeKb).errors = [] := by
  simp [Verdict.merge, Findings.accepts_iff]

theorem sizeAt?_of_loaded
    {document : Document}
    (loaded : (check.loading surroundings).result = .ok document) :
    some document.sizeKb = Document.sizeAt? surroundings.files check.path :=
  ((Document.load_eq_ok_iff _ _ _ _).mp loaded).size.symm

theorem stopsAtDocument_iff_of_foreseen
    {error : Document.LoadError}
    (failure : (check.loading surroundings).result = .error (.foreseen error))
    (verdict : Verdict) :
    check.StopsAtDocument surroundings verdict ↔
      verdict = .ofFatal error.cause.message error.sizeKb := by
  rcases Document.sizeKb_of_load_foreseen failure with ⟨known, noFile⟩
  constructor
  · rintro ⟨other, otherFailure, rfl, -, -⟩
    cases failure.symm.trans otherFailure
    rw [known]
  · rintro rfl
    exact ⟨error, failure, by rw [known], noFile, onlyRecords_run_of_foreseen failure⟩

/-- The verdict on a document that all stages could be asked about. -/
theorem mergesFindings_iff_of_linted
    {document : Document}
    {compatibility engine : Findings}
    (loaded : (check.loading surroundings).result = .ok document)
    (checked : (Compatibility.check document.content).result = .ok compatibility)
    (linted : (check.linting surroundings document).result = .ok engine)
    (verdict : Verdict) :
    check.MergesFindings surroundings verdict ↔
      verdict =
        .merge (structuralFindings document) compatibility engine (some document.sizeKb) := by
  have structural :
      structuralFindings document =
        .ofErrors
          (Document.sizeErrors check.settings.maxSizeKb document.sizeKb ++
            (RequiredFields.check document.content).errors) := by
    rw [structuralFindings, ((Document.load_eq_ok_iff _ _ _ _).mp loaded).sizeFindings]
    rfl
  constructor
  · rintro ⟨otherDocument, otherCompatibility, otherEngine, otherLoaded, otherChecked,
      otherLinted, fatal, size, errors, -, warnings, success, -⟩
    cases loaded.symm.trans otherLoaded
    cases checked.symm.trans otherChecked
    cases linted.symm.trans otherLinted
    have sameErrors :
        verdict.errors =
          (Verdict.merge (structuralFindings document) compatibility engine
            (some document.sizeKb)).errors := by
      rw [errors, structural]
      rfl
    have sameSuccess :
        verdict.success =
          (Verdict.merge (structuralFindings document) compatibility engine
            (some document.sizeKb)).success := by
      rw [Bool.eq_iff_iff, success, merge_success_iff, sameErrors]
    rw [← sizeAt?_of_loaded loaded] at size
    rcases verdict with ⟨_, _, _, _, _⟩
    exact (Verdict.mk.injEq ..).mpr ⟨sameSuccess, fatal, size, sameErrors, warnings⟩
  · rintro rfl
    refine
      ⟨document, compatibility, engine, loaded, checked, linted, rfl,
        sizeAt?_of_loaded loaded, ?_, Document.length_sizeErrors_le _ _, rfl, merge_success_iff _ _ _ _,
        asksOnce_of_stages loaded checked⟩
    rw [structural]
    rfl

theorem stopsAtEngine_iff_of_foreseen
    {document : Document}
    {compatibility : Findings}
    {error : EngineError}
    (loaded : (check.loading surroundings).result = .ok document)
    (checked : (Compatibility.check document.content).result = .ok compatibility)
    (failure : (check.linting surroundings document).result = .error (.foreseen error))
    (verdict : Verdict) :
    check.StopsAtEngine surroundings verdict ↔
      verdict = .ofFatal error.message (some document.sizeKb) := by
  rw [sizeAt?_of_loaded loaded]
  constructor
  · rintro ⟨otherDocument, otherCompatibility, otherError, otherLoaded, -, otherFailure, rfl, -⟩
    cases loaded.symm.trans otherLoaded
    cases failure.symm.trans otherFailure
    rfl
  · rintro rfl
    exact
      ⟨document, compatibility, error, loaded, checked, failure, rfl,
        asksOnce_of_stages loaded checked⟩

theorem StopsAtDocument.not_loaded
    {verdict : Verdict}
    (stops : check.StopsAtDocument surroundings verdict)
    (document : Document) :
    (check.loading surroundings).result ≠ .ok document := by
  rcases stops with ⟨error, failure, -⟩
  intro loaded
  cases loaded.symm.trans failure

theorem StopsAtEngine.stages
    {verdict : Verdict}
    (stops : check.StopsAtEngine surroundings verdict) :
    ∃ document compatibility error,
      (check.loading surroundings).result = .ok document ∧
        (Compatibility.check document.content).result = .ok compatibility ∧
        (check.linting surroundings document).result = .error (.foreseen error) := by
  rcases stops with ⟨document, compatibility, error, loaded, checked, failure, -⟩
  exact ⟨document, compatibility, error, loaded, checked, failure⟩

theorem MergesFindings.stages
    {verdict : Verdict}
    (merges : check.MergesFindings surroundings verdict) :
    ∃ document compatibility engine,
      (check.loading surroundings).result = .ok document ∧
        (Compatibility.check document.content).result = .ok compatibility ∧
        (check.linting surroundings document).result = .ok engine := by
  rcases merges with ⟨document, compatibility, engine, loaded, checked, linted, -⟩
  exact ⟨document, compatibility, engine, loaded, checked, linted⟩

/-- A verdict comes from an error of loading, an error of the engine, or all findings. -/
theorem run_eq_ok_iff (verdict : Verdict) :
    (check.run surroundings).result = .ok verdict ↔
      check.StopsAtDocument surroundings verdict ∨ check.StopsAtEngine surroundings verdict ∨
        check.MergesFindings surroundings verdict := by
  constructor
  · intro given
    cases loaded : (check.loading surroundings).result with
    | error stop =>
        rw [result_run, loaded] at given
        cases stop with
        | foreseen error =>
            cases given
            exact Or.inl ((stopsAtDocument_iff_of_foreseen loaded _).mpr rfl)
        | unforeseen failure => cases given
    | ok document =>
        cases checked : (Compatibility.check document.content).result with
        | error error =>
            rw [result_run_of_incompatible loaded checked] at given
            cases given
        | ok compatibility =>
            rw [result_run_of_compatible loaded checked] at given
            rcases linted : (check.linting surroundings document).result with
              (error | failure) | engine
            · rw [linted] at given
              cases given
              exact
                Or.inr (Or.inl ((stopsAtEngine_iff_of_foreseen loaded checked linted _).mpr rfl))
            · rw [linted] at given
              cases given
            · rw [linted] at given
              cases given
              exact
                Or.inr (Or.inr ((mergesFindings_iff_of_linted loaded checked linted _).mpr rfl))
  · rintro (stops | stops | merges)
    · rcases id stops with ⟨error, failure, -⟩
      rw [(stopsAtDocument_iff_of_foreseen failure _).mp stops, result_run, failure]
    · rcases stops.stages with ⟨document, compatibility, error, loaded, checked, failure⟩
      rw [(stopsAtEngine_iff_of_foreseen loaded checked failure _).mp stops,
        result_run_of_compatible loaded checked, failure]
    · rcases merges.stages with ⟨document, compatibility, engine, loaded, checked, linted⟩
      rw [(mergesFindings_iff_of_linted loaded checked linted _).mp merges,
        result_run_of_compatible loaded checked, linted]

/--
A check gives a verdict exactly in one of three ways: it stops at the document,
it stops at the engine, or it merges the findings of all stages.
-/
theorem run_gives_verdict_in_one_of_three_ways
    (check : Check)
    (surroundings : Surroundings)
    (verdict : Verdict) :
    ((check.run surroundings).result = .ok verdict ↔
        check.StopsAtDocument surroundings verdict ∨
          check.StopsAtEngine surroundings verdict ∨
          check.MergesFindings surroundings verdict) ∧
      ¬ (check.StopsAtDocument surroundings verdict ∧
          check.StopsAtEngine surroundings verdict) ∧
      ¬ (check.StopsAtDocument surroundings verdict ∧
          check.MergesFindings surroundings verdict) ∧
      ¬ (check.StopsAtEngine surroundings verdict ∧
          check.MergesFindings surroundings verdict) := by
  refine ⟨run_eq_ok_iff verdict, ?_, ?_, ?_⟩
  · rintro ⟨stops, stopsLater⟩
    rcases stopsLater.stages with ⟨document, -, -, loaded, -, -⟩
    exact stops.not_loaded document loaded
  · rintro ⟨stops, merges⟩
    rcases merges.stages with ⟨document, -, -, loaded, -, -⟩
    exact stops.not_loaded document loaded
  · rintro ⟨stops, merges⟩
    rcases stops.stages with ⟨document, -, error, loaded, -, failure⟩
    rcases merges.stages with ⟨other, -, engine, otherLoaded, -, linted⟩
    cases loaded.symm.trans otherLoaded
    cases failure.symm.trans linted

/-! ## Errors and acceptance -/

/-- A verdict that is not fatal accepts the document exactly if there are no errors. -/
theorem success_iff_of_run
    {verdict : Verdict}
    (given : (check.run surroundings).result = .ok verdict)
    (notFatal : verdict.fatal = none) :
    verdict.success = true ↔ verdict.errors = [] := by
  rcases (run_eq_ok_iff verdict).mp given with
    ⟨error, -, rfl, -⟩ | ⟨_, _, error, -, -, -, rfl, -⟩ |
    ⟨_, _, _, -, -, -, -, -, -, -, -, accepted, -⟩
  · cases notFatal
  · cases notFatal
  · exact accepted

end OpenApiGate.Check
