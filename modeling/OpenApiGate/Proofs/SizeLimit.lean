import OpenApiGate.Proofs.Doubles
import OpenApiGate.Proofs.Provenance

/-!
# What the size limit decides

The limit is compared with the size of a file before the file is read.  It decides
whether the errors begin with one about the size, and nothing else: the document is
loaded all the same, the engine is asked the same question, and whatever stops the
check stops it under every limit.
-/

namespace OpenApiGate

open Traced

/-! ## Loading under another limit -/

namespace Document

/-- A document with the findings about its size under another limit. -/
def resized (limit : Float) (document : Document) : Document :=
  { document with sizeFindings := .ofErrors (sizeErrors limit document.sizeKb) }

/-- Under another limit, loading comes to the same document or ends for the same reason. -/
theorem result_load_resized
    (files : FileTree)
    (given : Text)
    (first second : Float) :
    (load files given (some (.real second))).result =
      (load files given (some (.real first))).result.map (resized second) := by
  simp only [load, result_bind, result_checkSize]
  rcases (openFile files given).result with stop | ⟨content, readFault⟩
  · rfl
  -- The size findings are kept to the end, and no step in between sees them.
  dsimp only [Except.bind]
  rcases (checkFault given (kilobytes content.length) readFault).result with stop | done
  · rfl
  dsimp only
  rcases (readText (Path.ofText given) (kilobytes content.length) content).result with stop | text
  · rfl
  dsimp only
  rcases (readValue (Path.ofText given) (kilobytes content.length) text).result with stop | value
  · rfl
  · rfl

end Document

namespace Check

/-- The same check under another limit. -/
def withLimit (check : Check) (limit : Float) : Check :=
  { check with settings := { check.settings with maxSizeKb := limit } }

/-- The errors of a verdict under a limit, given the size and the errors about anything else. -/
structure AddsSizeError
    (limit sizeKb : Float)
    (others errors : List Finding) :
    Prop where
  exceeded :
    limit < sizeKb →
      errors = Document.oversized (Decimal.plain sizeKb) (Decimal.limit limit) :: others
  kept : ¬ limit < sizeKb → errors = others
  /-- A document may be as large as the limit. -/
  equal : (limit == sizeKb) = true → errors = others
  /-- What is no number is not exceeded. -/
  noNumber : limit.isNaN = true → errors = others

/-- What verdicts on one document under two limits have in common. -/
structure AgreeButForSize
    (first second : Float)
    (verdict other : Verdict) :
    Prop where
  fatal : other.fatal = verdict.fatal
  sizeKb : other.sizeKb = verdict.sizeKb
  warnings : other.warnings = verdict.warnings
  stopped : verdict.fatal ≠ none → verdict.errors = [] ∧ other.errors = []
  errors :
    verdict.fatal = none →
      ∃ size others, verdict.sizeKb = some size ∧
        AddsSizeError first size others verdict.errors ∧
        AddsSizeError second size others other.errors

theorem addsSizeError
    (limit sizeKb : Float)
    (others : List Finding) :
    AddsSizeError limit sizeKb others (Document.sizeErrors limit sizeKb ++ others) := by
  have kept : ¬ limit < sizeKb → Document.sizeErrors limit sizeKb ++ others = others := by
    intro isWithin
    rw [Document.sizeErrors, if_neg isWithin, List.nil_append]
  exact
    { exceeded := fun isExceeded => by rw [Document.sizeErrors, if_pos isExceeded]; rfl
      kept := kept
      equal := fun isEqual => kept (Double.not_lt_of_beq isEqual)
      noNumber := fun isNaN => kept (Double.not_lt_of_isNaN isNaN sizeKb) }

theorem AgreeButForSize.of_fatal
    {verdict : Verdict}
    (first second : Float)
    (isFatal : verdict.fatal ≠ none)
    (noErrors : verdict.errors = []) :
    AgreeButForSize first second verdict verdict where
  fatal := rfl
  sizeKb := rfl
  warnings := rfl
  stopped := fun _ => ⟨noErrors, noErrors⟩
  errors := fun notFatal => absurd notFatal isFatal

variable {check : Check} {surroundings : Surroundings} {document : Document}

/-- What a check does besides writing records is to ask the engine. -/
theorem deeds_run_of_asksOnce
    (asks : check.AsksOnce surroundings document) :
    deeds (check.run surroundings).events =
      .consult document.path.text (check.chosenRuleset surroundings.packagedRuleset).text ::
        deeds (check.linting surroundings document).events := by
  rcases asks with ⟨before, after, run, quietBefore, quietAfter⟩
  rw [run, deeds_append, deeds_of_onlyRecords quietBefore, List.nil_append, deeds_append,
    deeds_of_onlyRecords quietAfter, List.append_nil]
  rfl

variable {first second : Float} {verdict : Verdict}

/-- The check comes to a like verdict under the second limit, and does the same on the way. -/
def AgreesUnder
    (check : Check)
    (surroundings : Surroundings)
    (first second : Float)
    (verdict : Verdict) :
    Prop :=
  ∃ other, ((check.withLimit second).run surroundings).result = .ok other ∧
    AgreeButForSize first second verdict other ∧
    deeds ((check.withLimit second).run surroundings).events =
      deeds ((check.withLimit first).run surroundings).events

theorem StopsAtDocument.agreesUnder
    (stops : (check.withLimit first).StopsAtDocument surroundings verdict) :
    check.AgreesUnder surroundings first second verdict := by
  rcases stops with ⟨error, failure, rfl, -, quiet⟩
  have otherFailure :
      ((check.withLimit second).loading surroundings).result = .error (.foreseen error) := by
    show (Document.load _ _ _).result = _
    rw [Document.result_load_resized _ _ first]
    exact congrArg (Except.map (Document.resized second)) failure
  have known := (Document.sizeKb_of_load_foreseen failure).1
  refine ⟨_, ?_, .of_fatal first second nofun rfl, ?_⟩
  · rw [result_run, otherFailure, ← known]
  · rw [deeds_of_onlyRecords quiet,
      deeds_of_onlyRecords (onlyRecords_run_of_foreseen otherFailure)]

theorem loaded_withLimit
    (loaded : ((check.withLimit first).loading surroundings).result = .ok document) :
    ((check.withLimit second).loading surroundings).result = .ok (document.resized second) := by
  show (Document.load _ _ _).result = _
  rw [Document.result_load_resized _ _ first]
  exact congrArg (Except.map (Document.resized second)) loaded

/-- The question to the engine is the same under both limits, and so is the answer. -/
theorem deeds_run_withLimit
    {compatibility : Findings}
    (loaded : ((check.withLimit first).loading surroundings).result = .ok document)
    (checked : (Compatibility.check document.content).result = .ok compatibility) :
    deeds ((check.withLimit second).run surroundings).events =
      deeds ((check.withLimit first).run surroundings).events := by
  rw [deeds_run_of_asksOnce (asksOnce_of_stages loaded checked),
    deeds_run_of_asksOnce (asksOnce_of_stages (loaded_withLimit loaded) checked)]
  rfl

theorem StopsAtEngine.agreesUnder
    (stops : (check.withLimit first).StopsAtEngine surroundings verdict) :
    check.AgreesUnder surroundings first second verdict := by
  rcases stops with ⟨document, compatibility, error, loaded, checked, failure, rfl, -⟩
  have otherFailure :
      ((check.withLimit second).linting surroundings (document.resized second)).result =
        .error (.foreseen error) := failure
  refine ⟨_, ?_, .of_fatal first second nofun rfl, deeds_run_withLimit loaded checked⟩
  rw [result_run_of_compatible (loaded_withLimit loaded) checked, otherFailure,
    ← sizeAt?_of_loaded loaded]
  rfl

theorem MergesFindings.agreesUnder
    (merges : (check.withLimit first).MergesFindings surroundings verdict) :
    check.AgreesUnder surroundings first second verdict := by
  rcases merges with
    ⟨document, compatibility, engine, loaded, checked, linted, fatal, size, errors, -, warnings, -⟩
  have otherLinted :
      ((check.withLimit second).linting surroundings (document.resized second)).result =
        .ok engine := linted
  rw [← sizeAt?_of_loaded loaded] at size
  refine
    ⟨.merge (structuralFindings (document.resized second)) compatibility engine
      (some document.sizeKb), ?_, ?_, deeds_run_withLimit loaded checked⟩
  · rw [result_run_of_compatible (loaded_withLimit loaded) checked, otherLinted]
    rfl
  · refine
      { fatal := fatal.symm
        sizeKb := size.symm
        warnings := warnings.symm
        stopped := fun isFatal => absurd fatal isFatal
        errors := fun _ =>
          ⟨document.sizeKb, (RequiredFields.check document.content).errors ++ engine.errors, size,
            ?_, ?_⟩ }
    · rw [errors, List.append_assoc]
      exact addsSizeError first document.sizeKb _
    · show AddsSizeError second document.sizeKb _
        (Document.sizeErrors second document.sizeKb ++ _ ++ engine.errors)
      rw [List.append_assoc]
      exact addsSizeError second document.sizeKb _

theorem agreesUnder_of_run
    (given : ((check.withLimit first).run surroundings).result = .ok verdict)
    (second : Float) :
    check.AgreesUnder surroundings first second verdict := by
  rcases (run_eq_ok_iff verdict).mp given with stops | stops | merges
  · exact stops.agreesUnder
  · exact stops.agreesUnder
  · exact merges.agreesUnder

/-! ## Acceptance -/

/-- A check that was stopped accepts nothing. -/
theorem notFatal_of_success
    (given : (check.run surroundings).result = .ok verdict)
    (success : verdict.success = true) :
    verdict.fatal = none := by
  rcases (run_eq_ok_iff verdict).mp given with
    ⟨error, -, rfl, -⟩ | ⟨_, _, error, -, -, -, rfl, -⟩ | ⟨_, _, _, -, -, -, notFatal, -⟩
  · cases success
  · cases success
  · exact notFatal

/-- A size within a limit is within every limit that is not less. -/
theorem AgreeButForSize.errors_eq_nil
    {other : Verdict}
    (agree : AgreeButForSize first second verdict other)
    (notMore : first ≤ second)
    (notFatal : verdict.fatal = none)
    (noErrors : verdict.errors = []) :
    other.errors = [] := by
  rcases agree.errors notFatal with ⟨size, others, -, firstErrors, secondErrors⟩
  have isWithin : ¬ first < size := by
    intro exceeded
    rw [firstErrors.exceeded exceeded] at noErrors
    cases noErrors
  have isStillWithin : ¬ second < size := fun exceeded =>
    isWithin (Double.lt_of_le_of_lt notMore exceeded)
  rw [secondErrors.kept isStillWithin, ← firstErrors.kept isWithin, noErrors]

/--
A check that gives a verdict under a limit gives one under every other limit.  The
verdicts agree on all but one error about the size, which stands first and is there
exactly if the size exceeds the limit; the engine is asked in the same way.  What is
accepted under a limit is accepted under every limit that is not less.
-/
theorem limit_decides_only_about_the_size
    (given : ((check.withLimit first).run surroundings).result = .ok verdict)
    (second : Float) :
    ∃ other, ((check.withLimit second).run surroundings).result = .ok other ∧
      AgreeButForSize first second verdict other ∧
      deeds ((check.withLimit second).run surroundings).events =
        deeds ((check.withLimit first).run surroundings).events ∧
      (first ≤ second → verdict.success = true → other.success = true) := by
  rcases agreesUnder_of_run given second with ⟨other, otherGiven, agree, sameDeeds⟩
  refine ⟨other, otherGiven, agree, sameDeeds, ?_⟩
  intro notMore success
  have notFatal := notFatal_of_success given success
  have noErrors := (success_iff_of_run given notFatal).mp success
  have otherNotFatal : other.fatal = none := agree.fatal.trans notFatal
  exact (success_iff_of_run otherGiven otherNotFatal).mpr
    (agree.errors_eq_nil notMore notFatal noErrors)

/-- A document of a tenth of a kilobyte that lacks no required field. -/
def titledDocument : String :=
  "\x7b\"openapi\":\"3.1.0\",\"info\":\x7b\"title\":\"Inventory of the northern depot\"\x7d\x7d"

/-- Surroundings with a document that lacks no required field. -/
def titledSurroundings : Surroundings where
  files := Document.soleFile titledDocument.toUTF8.toList
  environment := []
  packagedRuleset := Path.ofText "/preflight.yaml"

/-- The usual check of a document in which the linter finds nothing. -/
def cleanCheck : Check :=
  usualCheck (Spectral.printing "[]")

theorem limit_of_zero_adds_one_error :
    ∃ verdict other,
      ((cleanCheck.withLimit 0.1).run titledSurroundings).result = .ok verdict ∧
        verdict.success = true ∧
        ((cleanCheck.withLimit 0).run titledSurroundings).result = .ok other ∧
        other.errors = [Document.oversized "0.1" "0"] ∧
        AgreeButForSize 0.1 0 verdict other := by
  have accepted :
      ((cleanCheck.withLimit 0.1).run titledSurroundings).result.toOption.map Verdict.success =
        some true := by
    decide +kernel
  have refused :
      ((cleanCheck.withLimit 0).run titledSurroundings).result.toOption.map Verdict.errors =
        some [Document.oversized "0.1" "0"] := by
    decide +kernel
  cases given : ((cleanCheck.withLimit 0.1).run titledSurroundings).result with
  | error failure =>
      rw [given] at accepted
      cases accepted
  | ok verdict =>
      rw [given] at accepted
      rcases limit_decides_only_about_the_size given 0 with ⟨other, otherGiven, agree, -⟩
      rw [otherGiven] at refused
      exact
        ⟨verdict, other, rfl, Option.some.inj accepted, otherGiven, Option.some.inj refused, agree⟩

end Check

end OpenApiGate
