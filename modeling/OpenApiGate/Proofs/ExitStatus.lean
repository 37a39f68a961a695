import OpenApiGate.Proofs.Printing
import OpenApiGate.Proofs.SettingsCache
import OpenApiGate.Proofs.Verdicts

/-!
# What the exit status says

The exit status is to tell an accepted document, one with errors, and everything
else apart, and no failure is to end the command on its own.  Failures of the
check itself are turned into a status.  Those of the steps around it are not:
loading the settings, setting up the log, and writing and printing the report.
The contract holds exactly for the runs in which all of these go well.
-/

namespace OpenApiGate.Command

variable
  (session : Session)
  (launcher : Launcher)
  (order : Order)

/-- The check of an order under the settings of a session. -/
def Order.checking (settings : Settings) : Traced Failure Verdict :=
  (order.check (order.settings settings) launcher).run session.surroundings

/-- What is printed for a verdict under the settings of a session. -/
def Order.printing
    (settings : Settings)
    (verdict : Verdict) :
    Except Failure Text :=
  (order.report (order.settings settings) verdict).bind (printed session.surroundings.output)

/-- A verdict is reached, and the report on it is the output. -/
def Reports
    (outcome : Outcome)
    (verdict : Verdict) :
    Prop :=
  ∃ settings, session.settings.2 = .ok settings ∧
    (order.checking session launcher settings).result = .ok verdict ∧
    order.printing session settings verdict = .ok outcome.output ∧ outcome.failure = none

/-- The exit status tells what became of the check, and no failure escapes. -/
structure KeepsContract (outcome : Outcome) : Prop where
  contained : outcome.failure = none
  bounded : outcome.exitStatus ≤ 2
  errors :
    outcome.exitStatus = 1 ↔
      ∃ verdict, Reports session launcher order outcome verdict ∧ verdict.fatal = none ∧
        verdict.errors ≠ []
  accepted :
    outcome.exitStatus = 0 ↔
      ∃ verdict, Reports session launcher order outcome verdict ∧ verdict.fatal = none ∧
        verdict.errors = []

/-- The run ends in a failure with the status that stands for errors, and prints nothing. -/
structure Escapes (outcome : Outcome) : Prop where
  failure : ∃ failure, outcome.failure = some failure
  exitStatus : outcome.exitStatus = 1
  output : outcome.output = []

/-- The threshold of the log is known: it is set up already, or its level has a name. -/
def Order.KnowsThreshold
    (log : LogState)
    (settings : Settings) :
    Prop :=
  log.isSome = true ∨ order.isVerbose = true ∨
    (logThreshold? settings.logLevel.toUpper).isSome = true

/-- Nothing is in the way of the report on a verdict. -/
structure Order.CanReport
    (output : OutputStream)
    (settings : Settings)
    (verdict : Verdict) :
    Prop where
  /-- No text of a report to process holds a surrogate. -/
  json : order.asJson = true → ∀ text ∈ verdict.texts, text.surrogates = []
  /-- The number of warnings that a report to read announces can be written. -/
  text :
    order.asJson = false → verdict.fatal = none →
      Report.CanBeCounted (Report.remaining settings.maxWarningsShown verdict.warnings)
  taken : ∀ report, order.report settings verdict = .ok report → output.Takes report

/-- All steps around the check go well. -/
def GoesWell : Prop :=
  ∃ settings, session.settings.2 = .ok settings ∧ order.KnowsThreshold session.log settings ∧
    ∀ verdict, (order.checking session launcher settings).result = .ok verdict →
      order.CanReport session.surroundings.output (order.settings settings) verdict

/-! ## The steps around the check -/

theorem threshold_known_iff
    (order : Order)
    (log : LogState)
    (settings : Settings) :
    (∃ threshold, order.threshold log settings.logLevel = .ok threshold) ↔
      order.KnowsThreshold log settings := by
  unfold Order.threshold Order.KnowsThreshold
  cases log with
  | some threshold => simp
  | none =>
      cases order.isVerbose with
      | true => simp
      | false => cases logThreshold? settings.logLevel.toUpper <;> simp

theorem report_succeeds_iff
    (order : Order)
    (settings : Settings)
    (verdict : Verdict) :
    (∃ report, order.report settings verdict = .ok report) ↔
      (order.asJson = true → ∀ text ∈ verdict.texts, text.surrogates = []) ∧
        (order.asJson = false → verdict.fatal = none →
          Report.CanBeCounted (Report.remaining settings.maxWarningsShown verdict.warnings)) := by
  cases form : order.asJson with
  | true => simpa using report_succeeds_iff_of_json form settings verdict
  | false => simpa using report_succeeds_iff_of_text form settings verdict

theorem bind_printed_succeeds_iff
    (order : Order)
    (output : OutputStream)
    (settings : Settings)
    (verdict : Verdict) :
    (∃ line, (order.report settings verdict).bind (printed output) = .ok line) ↔
      order.CanReport output settings verdict := by
  constructor
  · rintro ⟨line, isPrinted⟩
    rcases Fallible.bind_eq_ok_iff.mp isPrinted with ⟨report, written, taken⟩
    rcases (report_succeeds_iff order settings verdict).mp ⟨report, written⟩ with ⟨json, text⟩
    refine ⟨json, text, ?_⟩
    intro other otherWritten
    cases written.symm.trans otherWritten
    exact (printed_succeeds_iff output report).mp ⟨line, taken⟩
  · intro canReport
    rcases (report_succeeds_iff order settings verdict).mpr ⟨canReport.json, canReport.text⟩ with
      ⟨report, written⟩
    rcases (printed_succeeds_iff output report).mpr (canReport.taken report written) with
      ⟨line, taken⟩
    exact ⟨line, Fallible.bind_eq_ok_iff.mpr ⟨report, written, taken⟩⟩

/-- A stream in UTF-8 lets nothing but surrogates and too long a number be in the way. -/
theorem canReport_utf8_iff
    (order : Order)
    (settings : Settings)
    (verdict : Verdict) :
    order.CanReport .utf8 settings verdict ↔
      (order.asJson = true → ∀ text ∈ verdict.texts, text.surrogates = []) ∧
        (order.asJson = false → verdict.fatal = none →
          Report.CanBeCounted (Report.remaining settings.maxWarningsShown verdict.warnings)) ∧
        ∀ report, order.report settings verdict = .ok report → report.surrogates = [] := by
  constructor
  · intro canReport
    refine ⟨canReport.json, canReport.text, fun report written => ?_⟩
    exact (OutputStream.takes_utf8_iff report).mp (canReport.taken report written)
  · rintro ⟨json, text, clean⟩
    refine ⟨json, text, fun report written => ?_⟩
    exact (OutputStream.takes_utf8_iff report).mpr (clean report written)

/-! ## The log of later commands -/

/-- After one command with settings, later ones know their threshold whatever its level is. -/
theorem knowsThreshold_after_command
    {session : Session}
    {line : List Text}
    {first : Order}
    {settings : Settings}
    (ordered : settle session.surroundings.files line = .inr first)
    (loaded : session.settings.2 = .ok settings)
    (launcher : Launcher)
    (steps : List Step)
    (later : Order)
    (others : Settings) :
    later.KnowsThreshold ((session.step (.command line launcher)).1.run steps).1.log others := by
  have setUp :
      (session.step (.command line launcher)).1.log =
        first.logAfter session.log settings.logLevel := by
    simp only [Session.step, ordered, Session.carryOut, loaded]
    rfl
  refine Or.inl ?_
  rw [Session.log_run_of_set_up setUp steps]
  rfl

/-! ## The outcome, step by step -/

variable {session launcher order} {settings : Settings}

theorem escapes_of_no_settings
    {failure : Failure}
    (failed : session.settings.2 = .error failure) :
    Escapes (session.carryOut launcher order).2 := by
  have outcome :
      (session.carryOut launcher order).2 =
        (Outcome.fail [] [] failure).after session.loadingRemarks := by
    show (Session.runUnder session.surroundings session.log launcher order
      session.settings.2).after _ = _
    rw [failed]
    rfl
  rw [outcome]
  exact ⟨⟨failure, rfl⟩, rfl, rfl⟩

theorem load_of_unreadable_file
    {surroundings : Surroundings}
    {content : Bytes}
    {fault : Fault}
    (found : surroundings.files.find ".env" = .ok (.file content (some fault)))
    (given : Json.Members) :
    Settings.load surroundings given = .error (.fault fault) := by
  have noAssignments : Settings.fileAssignments surroundings = .error (.fault fault) := by
    simp only [Settings.fileAssignments, Settings.fileStatements, found]
    rfl
  rw [Settings.load, noAssignments]
  rfl

/-- A settings file that is there and cannot be read ends the command. -/
theorem escapes_of_unreadable_file
    {content : Bytes}
    {fault : Fault}
    (empty : session.cache = none)
    (found : session.surroundings.files.find ".env" = .ok (.file content (some fault))) :
    Escapes (session.carryOut launcher order).2 := by
  have failed := Session.settings_of_failed empty (load_of_unreadable_file found [])
  exact escapes_of_no_settings (congrArg Prod.snd failed)

theorem outcome_of_settings
    (loaded : session.settings.2 = .ok settings) :
    (session.carryOut launcher order).2 =
      (order.run session.surroundings session.log launcher settings).after
        session.loadingRemarks := by
  show (Session.runUnder session.surroundings session.log launcher order
    session.settings.2).after _ = _
  rw [loaded]
  rfl

theorem escapes_of_no_threshold
    {failure : Failure}
    (loaded : session.settings.2 = .ok settings)
    (failed : order.threshold session.log settings.logLevel = .error failure) :
    Escapes (session.carryOut launcher order).2 := by
  change order.threshold session.log (order.settings settings).logLevel = .error failure at failed
  rw [outcome_of_settings loaded]
  simp only [Order.run, failed]
  exact ⟨⟨failure, rfl⟩, rfl, rfl⟩

theorem outcome_of_unexpected
    {threshold : Nat}
    {failure : Failure}
    (loaded : session.settings.2 = .ok settings)
    (known : order.threshold session.log settings.logLevel = .ok threshold)
    (failed : (order.checking session launcher settings).result = .error failure) :
    (session.carryOut launcher order).2.exitStatus = 2 ∧
      (session.carryOut launcher order).2.failure = none := by
  change order.threshold session.log (order.settings settings).logLevel = .ok threshold at known
  rw [Order.checking] at failed
  rw [outcome_of_settings loaded]
  simp only [Order.run, known, failed]
  exact ⟨rfl, rfl⟩

theorem outcome_of_verdict
    {threshold : Nat}
    {verdict : Verdict}
    (loaded : session.settings.2 = .ok settings)
    (known : order.threshold session.log settings.logLevel = .ok threshold)
    (given : (order.checking session launcher settings).result = .ok verdict) :
    ∃ complaints events,
      (session.carryOut launcher order).2 =
        (order.conclude session.surroundings.output (order.settings settings) complaints events
            verdict).after session.loadingRemarks := by
  change order.threshold session.log (order.settings settings).logLevel = .ok threshold at known
  rw [Order.checking] at given
  rw [outcome_of_settings loaded]
  simp only [Order.run, known, given]
  exact ⟨_, _, rfl⟩

theorem escapes_of_no_report
    {threshold : Nat}
    {verdict : Verdict}
    {failure : Failure}
    (loaded : session.settings.2 = .ok settings)
    (known : order.threshold session.log settings.logLevel = .ok threshold)
    (given : (order.checking session launcher settings).result = .ok verdict)
    (failed : order.printing session settings verdict = .error failure) :
    Escapes (session.carryOut launcher order).2 := by
  rcases outcome_of_verdict loaded known given with ⟨complaints, events, outcome⟩
  rw [Order.printing] at failed
  rw [outcome, Order.conclude, failed]
  exact ⟨⟨failure, rfl⟩, rfl, rfl⟩

theorem outcome_of_report
    {threshold : Nat}
    {verdict : Verdict}
    {output : Text}
    (loaded : session.settings.2 = .ok settings)
    (known : order.threshold session.log settings.logLevel = .ok threshold)
    (given : (order.checking session launcher settings).result = .ok verdict)
    (written : order.printing session settings verdict = .ok output) :
    (session.carryOut launcher order).2.exitStatus = verdict.exitStatus ∧
      (session.carryOut launcher order).2.output = output ∧
      (session.carryOut launcher order).2.failure = none := by
  rcases outcome_of_verdict loaded known given with ⟨complaints, events, outcome⟩
  rw [Order.printing] at written
  rw [outcome, Order.conclude, written]
  exact ⟨rfl, rfl, rfl⟩

/-! ## The contract -/

theorem Escapes.not_keepsContract
    {outcome : Outcome}
    (escapes : Escapes outcome) :
    ¬ KeepsContract session launcher order outcome := by
  intro keeps
  rcases escapes.failure with ⟨failure, escaped⟩
  rw [keeps.contained] at escaped
  cases escaped

/-- Only one verdict can be reported: that of the check under the settings. -/
theorem Reports.verdict_eq
    {outcome : Outcome}
    {verdict : Verdict}
    (loaded : session.settings.2 = .ok settings)
    (reports : Reports session launcher order outcome verdict) :
    (order.checking session launcher settings).result = .ok verdict := by
  rcases reports with ⟨other, otherLoaded, given, -⟩
  cases loaded.symm.trans otherLoaded
  exact given

theorem keepsContract_of_unexpected
    {threshold : Nat}
    {failure : Failure}
    (loaded : session.settings.2 = .ok settings)
    (known : order.threshold session.log settings.logLevel = .ok threshold)
    (failed : (order.checking session launcher settings).result = .error failure) :
    KeepsContract session launcher order (session.carryOut launcher order).2 := by
  rcases outcome_of_unexpected loaded known failed with ⟨status, contained⟩
  have noVerdict :
      ∀ verdict, ¬ Reports session launcher order (session.carryOut launcher order).2 verdict := by
    intro verdict reports
    cases failed.symm.trans (reports.verdict_eq loaded)
  refine ⟨contained, status.le, ?_, ?_⟩
  · refine iff_of_false (by rw [status]; decide) ?_
    rintro ⟨verdict, reports, -⟩
    exact noVerdict verdict reports
  · refine iff_of_false (by rw [status]; decide) ?_
    rintro ⟨verdict, reports, -⟩
    exact noVerdict verdict reports

theorem keepsContract_of_report
    {threshold : Nat}
    {verdict : Verdict}
    {output : Text}
    (loaded : session.settings.2 = .ok settings)
    (known : order.threshold session.log settings.logLevel = .ok threshold)
    (given : (order.checking session launcher settings).result = .ok verdict)
    (written : order.printing session settings verdict = .ok output) :
    KeepsContract session launcher order (session.carryOut launcher order).2 := by
  rcases outcome_of_report loaded known given written with ⟨status, shown, contained⟩
  have reports : Reports session launcher order (session.carryOut launcher order).2 verdict :=
    ⟨settings, loaded, given, shown ▸ written, contained⟩
  have only :
      ∀ other, Reports session launcher order (session.carryOut launcher order).2 other →
        other = verdict := by
    intro other otherReports
    exact Except.ok.inj ((otherReports.verdict_eq loaded).symm.trans given)
  refine ⟨contained, status ▸ verdict.exitStatus_le, ?_, ?_⟩
  · rw [status, Verdict.exitStatus_eq_one_iff]
    constructor
    · rintro ⟨notFatal, refused⟩
      have accepted := Check.success_iff_of_run given notFatal
      refine ⟨verdict, reports, notFatal, fun noErrors => ?_⟩
      rw [accepted.mpr noErrors] at refused
      cases refused
    · rintro ⟨other, otherReports, notFatal, errors⟩
      cases only other otherReports
      have accepted := Check.success_iff_of_run given notFatal
      exact ⟨notFatal, Bool.eq_false_iff.mpr fun success => errors (accepted.mp success)⟩
  · rw [status, Verdict.exitStatus_eq_zero_iff]
    constructor
    · rintro ⟨notFatal, success⟩
      exact ⟨verdict, reports, notFatal, (Check.success_iff_of_run given notFatal).mp success⟩
    · rintro ⟨other, otherReports, notFatal, noErrors⟩
      cases only other otherReports
      exact ⟨notFatal, (Check.success_iff_of_run given notFatal).mpr noErrors⟩

/-- If the steps around the check go well, the contract is kept; if not, a failure escapes. -/
theorem keepsContract_or_escapes
    (session : Session)
    (launcher : Launcher)
    (order : Order) :
    (GoesWell session launcher order ∧
        KeepsContract session launcher order (session.carryOut launcher order).2) ∨
      (¬ GoesWell session launcher order ∧ Escapes (session.carryOut launcher order).2) := by
  cases loaded : session.settings.2 with
  | error failure =>
      refine Or.inr ⟨?_, escapes_of_no_settings loaded⟩
      rintro ⟨settings, otherLoaded, -⟩
      cases loaded.symm.trans otherLoaded
  | ok settings =>
      cases known : order.threshold session.log settings.logLevel with
      | error failure =>
          refine Or.inr ⟨?_, escapes_of_no_threshold loaded known⟩
          rintro ⟨other, otherLoaded, knows, -⟩
          cases loaded.symm.trans otherLoaded
          rcases (threshold_known_iff order session.log settings).mpr knows with ⟨_, isKnown⟩
          cases known.symm.trans isKnown
      | ok threshold =>
          have knows := (threshold_known_iff order session.log settings).mp ⟨threshold, known⟩
          cases given : (order.checking session launcher settings).result with
          | error failure =>
              refine Or.inl ⟨⟨settings, loaded, knows, ?_⟩,
                keepsContract_of_unexpected loaded known given⟩
              intro verdict success
              cases given.symm.trans success
          | ok verdict =>
              have canReport :=
                bind_printed_succeeds_iff order session.surroundings.output
                  (order.settings settings) verdict
              cases written : order.printing session settings verdict with
              | error failure =>
                  refine Or.inr ⟨?_, escapes_of_no_report loaded known given written⟩
                  rintro ⟨other, otherLoaded, -, reportable⟩
                  cases loaded.symm.trans otherLoaded
                  rcases canReport.mpr (reportable verdict given) with ⟨output, success⟩
                  cases written.symm.trans success
              | ok output =>
                  refine Or.inl ⟨⟨settings, loaded, knows, ?_⟩,
                    keepsContract_of_report loaded known given written⟩
                  intro other otherGiven
                  cases given.symm.trans otherGiven
                  exact canReport.mp ⟨output, written⟩

/--
A command line that orders a check keeps the contract exactly if the steps around
the check go well; if they do not, a failure escapes with the status for errors.
-/
theorem exit_status_contract_iff_steps_go_well
    {session : Session}
    {line : List Text}
    {order : Order}
    (launcher : Launcher)
    (ordered : settle session.surroundings.files line = .inr order) :
    ∃ outcome,
      (session.step (.command line launcher)).2 = .outcome outcome ∧
        (KeepsContract session launcher order outcome ↔ GoesWell session launcher order) ∧
        (¬ GoesWell session launcher order → Escapes outcome) := by
  refine ⟨(session.carryOut launcher order).2, ?_, ?_⟩
  · simp only [Session.step, ordered]
  · rcases keepsContract_or_escapes session launcher order with ⟨well, keeps⟩ | ⟨ill, escapes⟩
    · exact ⟨iff_of_true keeps well, fun ill => absurd well ill⟩
    · exact ⟨iff_of_false escapes.not_keepsContract ill, fun _ => escapes⟩

/-- A session in an empty directory, under variables of the environment. -/
def emptySession (environment : List (Text × Text)) : Session :=
  .start ⟨⟨[], []⟩, environment, Path.ofText "/preflight.yaml", .utf8⟩

/-- A launcher that cannot be found. -/
def missingLauncher : Launcher :=
  ⟨false, .failed ⟨.fileNotFound, []⟩⟩

/-- The order to check a document, without options. -/
def plainOrder (path : Text) : Order :=
  { path, asJson := false, ruleset := none, maxSizeKb := none, isVerbose := false }

theorem contract_kept_for_missing_document :
    ∃ outcome,
      ((emptySession []).step (.command ["d.json"] missingLauncher)).2 = .outcome outcome ∧
        outcome.exitStatus = 2 ∧
        KeepsContract (emptySession []) missingLauncher (plainOrder "d.json") outcome := by
  rcases
    exit_status_contract_iff_steps_go_well missingLauncher
      (rfl : settle (emptySession []).surroundings.files ["d.json"] =
        .inr (plainOrder "d.json")) with
    ⟨outcome, answered, contract, -⟩
  have status : outcome.exitStatus = 2 := by
    cases answered
    rfl
  refine ⟨outcome, answered, status, contract.mpr ⟨Settings.usual, rfl, .inr (.inr rfl), ?_⟩⟩
  intro verdict given
  cases given
  refine (canReport_utf8_iff _ _ _).mpr
    ⟨fun json => ?_, fun _ notFatal => ?_, fun report written => ?_⟩
  · cases json
  · cases notFatal
  · cases written
    rfl

/-- A threshold that is not known ends the command with the status for errors. -/
theorem unknown_level_escapes :
    ∃ outcome,
      ((emptySession [("OAS_PREFLIGHT_LOG_LEVEL", "bogus")]).step
          (.command ["d.json"] missingLauncher)).2 = .outcome outcome ∧
        outcome.exitStatus = 1 ∧ outcome.failure = some (.unknownLevel "BOGUS") ∧
        ¬ KeepsContract (emptySession [("OAS_PREFLIGHT_LOG_LEVEL", "bogus")]) missingLauncher
          (plainOrder "d.json") outcome := by
  refine ⟨_, rfl, rfl, rfl, ?_⟩
  intro keeps
  cases keeps.contained

end OpenApiGate.Command
