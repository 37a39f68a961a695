import OpenApiGate.Proofs.Escaping
import OpenApiGate.Proofs.ExitStatus
import OpenApiGate.Proofs.Orders

/-!
# What the log does not touch

The threshold of the log decides which records go to the standard error, and
nothing else.  Two runs that differ in the threshold only, because of the
settings or of the option that asks for all records, agree on everything but the
standard error; and what they print is one report or nothing.
-/

namespace OpenApiGate.Command

/-! ## Command lines that differ in the wish for records -/

/-- Two command lines say the same, apart from the option that asks for all records. -/
def SameButVerbose (first second : List Text) : Prop :=
  (readWords first).map (Words.without [.verbose]) =
    (readWords second).map (Words.without [.verbose])

/-- A command line names a document and does not ask for help, if it can be read. -/
def NamesDocument (line : List Text) : Prop :=
  ∀ words, readWords line = .ok words → words.arguments ≠ [] ∧ words.has .help = false

/-- The option may be put in front of any line. -/
theorem sameButVerbose_flag (line : List Text) : SameButVerbose line ("-v" :: line) := by
  have read :
      readWords (Text.ofString "-v" :: line) =
        (readWords line).map (Words.withFlags [.verbose]) := rfl
  unfold SameButVerbose
  rw [read]
  cases readWords line <;> rfl

/-- The other line can be read too, and its words differ in this option only. -/
theorem SameButVerbose.read
    {first second : List Text}
    {words : Words}
    (same : SameButVerbose first second)
    (read : readWords first = .ok words) :
    ∃ others, readWords second = .ok others ∧
      words.without [.verbose] = others.without [.verbose] := by
  unfold SameButVerbose at same
  rw [read] at same
  cases other : readWords second with
  | error error =>
      rw [other] at same
      cases same
  | ok others =>
      rw [other] at same
      exact ⟨others, rfl, Except.ok.inj same⟩

theorem SameButVerbose.refused
    {first second : List Text}
    {error : UsageError}
    (same : SameButVerbose first second)
    (refused : readWords first = .error error) :
    readWords second = .error error := by
  unfold SameButVerbose at same
  rw [refused] at same
  cases other : readWords second with
  | error otherError =>
      rw [other] at same
      exact congrArg Except.error (Except.error.inj same).symm
  | ok others =>
      rw [other] at same
      cases same

/-- Orders that agree apart from this option differ in it only. -/
theorem Order.eq_of_without_verbose
    {first second : Order}
    (same : first.without [.verbose] = second.without [.verbose]) :
    second = { first with isVerbose := second.isVerbose } := by
  rcases first with ⟨path, asJson, ruleset, limit, isVerbose⟩
  rcases second with ⟨otherPath, otherJson, otherRuleset, otherLimit, otherVerbose⟩
  have kept : ∀ name, name ≠ .verbose → name ∉ [OptionName.verbose] := by simp
  simp only [Order.without, Order.mk.injEq, kept, decide_true, Bool.and_true, if_false, ne_eq,
    reduceCtorEq, not_false_eq_true] at same
  rcases same with ⟨rfl, rfl, rfl, rfl, _⟩
  rfl

/-- A line that names a document prints nothing unless it orders a check. -/
theorem output_of_settle
    {files : FileTree}
    {line : List Text}
    {words : Words}
    {outcome : Outcome}
    (read : readWords line = .ok words)
    (named : words.arguments ≠ [])
    (noHelp : words.has .help = false)
    (settled : settle files line = .inl outcome) :
    outcome.output = [] := by
  rw [settle_of_read files read, Words.request, noHelp] at settled
  cases checked : checkValues files words with
  | error stop =>
      rw [checked] at settled
      cases stop <;> cases settled <;> rfl
  | ok done =>
      rw [checked] at settled
      rcases words with ⟨options, _ | ⟨path, _ | ⟨second, others⟩⟩⟩
      · exact absurd rfl named
      · cases settled
      · cases settled
        rfl

/-- Lines that differ in this option only have the same outcome or order the same check. -/
theorem settle_sameButVerbose
    (files : FileTree)
    {first second : List Text}
    (same : SameButVerbose first second)
    (names : NamesDocument first) :
    (∃ outcome, settle files first = .inl outcome ∧ settle files second = .inl outcome ∧
        outcome.output = []) ∨
      ∃ order isVerbose, settle files first = .inr order ∧
        settle files second = .inr { order with isVerbose } := by
  cases read : readWords first with
  | error error =>
      exact Or.inl
        ⟨_, settle_of_refused files read, settle_of_refused files (same.refused read), rfl⟩
  | ok words =>
      rcases same.read read with ⟨others, othersRead, sameWords⟩
      rcases names words read with ⟨named, noHelp⟩
      have accepts (words : Words) : words.Accepts files [.verbose] := by
        intro name member
        rw [List.mem_singleton.mp member]
        unfold checkValue
        cases words.value? .verbose <;> rfl
      have sameArguments := congrArg Words.arguments sameWords
      change words.arguments = others.arguments at sameArguments
      have settled :
          (settle files first).map id (Order.without [.verbose]) =
            (settle files second).map id (Order.without [.verbose]) := by
        rw [settle_of_read files read, settle_of_read files othersRead,
          ← settleRequest_map_without, ← settleRequest_map_without,
          ← request_without (accepts words) named (by decide),
          ← request_without (accepts others) (sameArguments ▸ named) (by decide), sameWords]
      -- Leaving the option out keeps outcomes as they are and orders apart from it.
      cases firstSettled : settle files first with
      | inl outcome =>
          rw [firstSettled] at settled
          cases secondSettled : settle files second with
          | inl other =>
              rw [secondSettled] at settled
              cases Sum.inl.inj settled
              exact Or.inl ⟨outcome, rfl, rfl, output_of_settle read named noHelp firstSettled⟩
          | inr other =>
              rw [secondSettled] at settled
              cases settled
      | inr order =>
          rw [firstSettled] at settled
          cases secondSettled : settle files second with
          | inl other =>
              rw [secondSettled] at settled
              cases settled
          | inr other =>
              rw [secondSettled] at settled
              refine Or.inr ⟨order, other.isVerbose, rfl, ?_⟩
              rw [← Order.eq_of_without_verbose (Sum.inr.inj settled)]

/-! ## Outcomes apart from the standard error -/

/-- An outcome without what went to the standard error. -/
def Outcome.quiet (outcome : Outcome) : Outcome :=
  { outcome with complaints := [] }

/-- What an outcome shows of a run, apart from the standard error. -/
structure Outcome.AgreesWith (first second : Outcome) : Prop where
  output : first.output = second.output
  exitStatus : first.exitStatus = second.exitStatus
  failure : first.failure = second.failure
  lookups : Traced.lookups first.events = Traced.lookups second.events
  spawns : Traced.spawns first.events = Traced.spawns second.events

theorem Outcome.agreesWith_of_quiet
    {first second : Outcome}
    (same : first.quiet = second.quiet) :
    first.AgreesWith second := by
  rcases first with ⟨status, output, complaints, events, failure⟩
  rcases second with ⟨otherStatus, otherOutput, otherComplaints, otherEvents, otherFailure⟩
  rw [quiet, quiet, Outcome.mk.injEq] at same
  rcases same with ⟨rfl, rfl, -, rfl, rfl⟩
  exact ⟨rfl, rfl, rfl, rfl, rfl⟩

theorem quiet_after (remarks : Text) (outcome : Outcome) :
    (outcome.after remarks).quiet = outcome.quiet :=
  rfl

theorem quiet_unexpected
    (threshold : Nat)
    (events : List Event)
    (failure : Failure) :
    (unexpected threshold events failure).quiet = (unexpected 0 events failure).quiet := by
  simp only [Outcome.quiet, unexpected]

/-- What comes of a check, apart from the standard error. -/
def Order.quietOutcome
    (order : Order)
    (output : OutputStream)
    (settings : Settings)
    (traced : Traced Failure Verdict) :
    Outcome :=
  match traced.result with
  | .error failure => (unexpected 0 traced.events failure).quiet
  | .ok verdict => order.conclude output settings [] traced.events verdict

variable {session : Session} {launcher : Launcher} {order : Order} {settings : Settings}

/-- Once the threshold is known it decides nothing but the standard error. -/
theorem quiet_carryOut
    (loaded : session.settings.2 = .ok settings)
    (launcher : Launcher)
    {order : Order}
    (known : order.KnowsThreshold session.log settings) :
    (session.carryOut launcher order).2.quiet =
      order.quietOutcome session.surroundings.output (order.settings settings)
        (order.checking session launcher settings) := by
  rcases (threshold_known_iff order session.log settings).mpr known with ⟨threshold, isKnown⟩
  change order.threshold session.log (order.settings settings).logLevel = .ok threshold at isKnown
  rw [outcome_of_settings loaded, quiet_after]
  unfold Order.run Order.quietOutcome Order.checking
  simp only [isKnown]
  cases ((order.check (order.settings settings) launcher).run session.surroundings).result with
  | error failure => exact quiet_unexpected threshold _ failure
  | ok verdict =>
      simp only [Order.conclude]
      cases (order.report (order.settings settings) verdict).bind
        (printed session.surroundings.output) <;> rfl

/-- The output of a check is nothing, or what is left of the report on its verdict. -/
theorem output_quietOutcome
    (order : Order)
    (output : OutputStream)
    (settings : Settings)
    (traced : Traced Failure Verdict) :
    (order.quietOutcome output settings traced).output = [] ∨
      ∃ verdict report,
        traced.result = .ok verdict ∧ order.report settings verdict = .ok report ∧
          (order.quietOutcome output settings traced).output =
            Text.withoutControls (report ++ "\n") := by
  unfold Order.quietOutcome
  cases checked : traced.result with
  | error failure => exact Or.inl rfl
  | ok verdict =>
      simp only [Order.conclude]
      cases rendered : order.report settings verdict with
      | error failure => exact Or.inl rfl
      | ok report =>
          simp only [Except.bind, printed]
          cases output.refusal? (Text.withoutControls (report ++ "\n")) with
          | some failure => exact Or.inl rfl
          | none => exact Or.inr ⟨verdict, report, rfl, rendered, rfl⟩

/-! ## Two runs that differ in the log -/

/--
Two sessions with the same files and the same standard output, whose settings differ in
the level of the log only.
-/
structure DifferInLog (first second : Session) (settings : Settings) : Prop where
  files : first.surroundings.files = second.surroundings.files
  packagedRuleset : first.surroundings.packagedRuleset = second.surroundings.packagedRuleset
  output : first.surroundings.output = second.surroundings.output
  first :
    ∃ level, first.settings.2 = .ok { settings with logLevel := level } ∧
      (logThreshold? level.toUpper).isSome = true
  second :
    ∃ level, second.settings.2 = .ok { settings with logLevel := level } ∧
      (logThreshold? level.toUpper).isSome = true

/-- A check does not look at the level of the log nor at the wish for all records. -/
theorem checking_congr
    {first second : Session}
    (sameFiles : first.surroundings.files = second.surroundings.files)
    (samePackaged : first.surroundings.packagedRuleset = second.surroundings.packagedRuleset)
    (launcher : Launcher)
    (order : Order)
    (isVerbose : Bool)
    (settings : Settings)
    (firstLevel secondLevel : Text) :
    order.checking first launcher { settings with logLevel := firstLevel } =
      ({ order with isVerbose } : Order).checking second launcher
        { settings with logLevel := secondLevel } := by
  refine Check.run_congr rfl rfl rfl sameFiles ?_
  rw [samePackaged]
  rfl

/-- Neither does what is made of its result. -/
theorem quietOutcome_congr
    (order : Order)
    (isVerbose : Bool)
    (output : OutputStream)
    (settings : Settings)
    (firstLevel secondLevel : Text)
    (traced : Traced Failure Verdict) :
    order.quietOutcome output (order.settings { settings with logLevel := firstLevel }) traced =
      ({ order with isVerbose } : Order).quietOutcome output
        (order.settings { settings with logLevel := secondLevel }) traced :=
  rfl

/-- Runs of orders that differ in the wish for records only agree if the sessions differ so. -/
theorem quiet_carryOut_congr
    {first second : Session}
    {settings : Settings}
    (differ : DifferInLog first second settings)
    (launcher : Launcher)
    (order : Order)
    (isVerbose : Bool) :
    (first.carryOut launcher order).2.quiet =
      (second.carryOut launcher { order with isVerbose }).2.quiet := by
  rcases differ.first with ⟨firstLevel, firstLoaded, firstKnown⟩
  rcases differ.second with ⟨secondLevel, secondLoaded, secondKnown⟩
  rw [quiet_carryOut firstLoaded launcher (.inr (.inr firstKnown)),
    quiet_carryOut secondLoaded launcher (.inr (.inr secondKnown)),
    checking_congr differ.files differ.packagedRuleset launcher order isVerbose settings
      firstLevel secondLevel, differ.output]
  exact quietOutcome_congr order isVerbose _ settings firstLevel secondLevel _

/--
The output of a run is one report on the verdict of the check that was ordered,
in the form that the line asks for, and a line feed.  A report to read loses its
control sequences.
-/
structure PrintsReport
    (session : Session)
    (launcher : Launcher)
    (line : List Text)
    (settings : Settings)
    (order : Order)
    (verdict : Verdict)
    (report output : Text) :
    Prop where
  loaded : session.settings.2 = .ok settings
  ordered : settle session.surroundings.files line = .inr order
  asked : ∀ words, readWords line = .ok words → order.asJson = words.has .json
  checked : (order.checking session launcher settings).result = .ok verdict
  rendered : order.report (order.settings settings) verdict = .ok report
  json : order.asJson = true → output = report ++ "\n"
  text : order.asJson = false → output = Text.withoutControls (report ++ "\n")

theorem printed_as_written
    {verdict : Verdict}
    {report : Text}
    (asJson : order.asJson = true)
    (rendered : order.report settings verdict = .ok report) :
    Text.withoutControls (report ++ "\n") = report ++ "\n" := by
  unfold Order.report at rendered
  rw [if_pos asJson] at rendered
  cases written : Report.json verdict with
  | error error =>
      rw [written] at rendered
      cases rendered
  | ok text =>
      rw [written] at rendered
      cases rendered
      exact Report.withoutControls_of_json written

/-- A check that is carried out with a known threshold prints one report or nothing. -/
theorem output_of_carryOut
    {line : List Text}
    (loaded : session.settings.2 = .ok settings)
    (launcher : Launcher)
    (known : order.KnowsThreshold session.log settings)
    (ordered : settle session.surroundings.files line = .inr order) :
    (session.carryOut launcher order).2.output = [] ∨
      ∃ verdict report,
        PrintsReport session launcher line settings order verdict report
          (session.carryOut launcher order).2.output := by
  have quiet := congrArg Outcome.output (quiet_carryOut loaded launcher known)
  change (session.carryOut launcher order).2.output = _ at quiet
  rw [quiet]
  rcases output_quietOutcome order session.surroundings.output (order.settings settings)
      (order.checking session launcher settings) with
    silent | ⟨verdict, report, checked, rendered, isPrinted⟩
  · exact Or.inl silent
  · refine Or.inr ⟨verdict, report, loaded, ordered, ?_, checked, rendered, ?_, ?_⟩
    · intro words read
      exact (order_of_requestOf (requestOf_of_settle read ordered)).1
    · intro asJson
      rw [isPrinted, printed_as_written asJson rendered]
    · exact fun _ => isPrinted

/--
Two runs of the command that differ in the level of the log and in the option for
all records only have the same output, status, failure, look-ups and processes;
and the output is nothing or one report.
-/
theorem log_does_not_touch_outcome
    {first second : Session}
    {settings : Settings}
    {firstLine secondLine : List Text}
    (differ : DifferInLog first second settings)
    (same : SameButVerbose firstLine secondLine)
    (names : NamesDocument firstLine)
    (launcher : Launcher) :
    ∃ outcome other,
      (first.step (.command firstLine launcher)).2 = .outcome outcome ∧
        (second.step (.command secondLine launcher)).2 = .outcome other ∧
        outcome.AgreesWith other ∧
        (outcome.output = [] ∨
          ∃ inForce order verdict report,
            PrintsReport first launcher firstLine inForce order verdict report
              outcome.output) := by
  rcases settle_sameButVerbose first.surroundings.files same names with
    ⟨outcome, settled, otherSettled, silent⟩ | ⟨order, isVerbose, ordered, otherOrdered⟩
  · rw [differ.files] at otherSettled
    refine ⟨outcome, outcome, ?_, ?_, ⟨rfl, rfl, rfl, rfl, rfl⟩, Or.inl silent⟩
    · simp only [Session.step, settled]
    · simp only [Session.step, otherSettled]
  · rw [differ.files] at otherOrdered
    refine
      ⟨(first.carryOut launcher order).2, (second.carryOut launcher { order with isVerbose }).2,
        ?_, ?_, ?_, ?_⟩
    · simp only [Session.step, ordered]
    · simp only [Session.step, otherOrdered]
    · exact Outcome.agreesWith_of_quiet (quiet_carryOut_congr differ launcher order isVerbose)
    · rcases differ.first with ⟨level, loaded, known⟩
      rcases output_of_carryOut loaded launcher (.inr (.inr known)) ordered with
        silent | ⟨verdict, report, prints⟩
      · exact Or.inl silent
      · exact Or.inr ⟨_, order, verdict, report, prints⟩

/-- A missing document is told alike at the usual level and with all records. -/
theorem missing_document_is_told_alike :
    ∃ outcome other,
      ((emptySession []).step (.command ["d.json"] missingLauncher)).2 = .outcome outcome ∧
        ((emptySession [("OAS_PREFLIGHT_LOG_LEVEL", "debug")]).step
            (.command ["-v", "d.json"] missingLauncher)).2 = .outcome other ∧
        outcome.AgreesWith other ∧ outcome.output ≠ [] ∧
        outcome.complaints ≠ other.complaints := by
  have differ :
      DifferInLog (emptySession []) (emptySession [("OAS_PREFLIGHT_LOG_LEVEL", "debug")])
        Settings.usual :=
    ⟨rfl, rfl, rfl, ⟨"WARNING", rfl, rfl⟩, ⟨"debug", rfl, rfl⟩⟩
  have names : NamesDocument ["d.json"] := by
    intro words read
    cases read
    exact ⟨List.cons_ne_nil _ _, rfl⟩
  rcases log_does_not_touch_outcome differ (sameButVerbose_flag ["d.json"]) names
      missingLauncher with
    ⟨outcome, other, answered, otherAnswered, agrees, -⟩
  refine ⟨outcome, other, answered, otherAnswered, agrees, ?_, ?_⟩
  · cases answered
    decide
  · cases answered
    cases otherAnswered
    decide

/-- A path with a control sequence in it is not printed as the report has it. -/
theorem coloured_path_loses_its_colour :
    ∃ outcome,
      ((emptySession []).step (.command ["\u001b[31md.json"] missingLauncher)).2 =
          .outcome outcome ∧
        outcome.output ≠ [] ∧
        ∀ settings order verdict report,
          (emptySession []).settings.2 = .ok settings →
            settle (emptySession []).surroundings.files ["\u001b[31md.json"] = .inr order →
              (order.checking (emptySession []) missingLauncher settings).result = .ok verdict →
                order.report (order.settings settings) verdict = .ok report →
                  outcome.output ≠ report ++ "\n" := by
  refine ⟨_, rfl, ?_, ?_⟩
  · decide
  · intro settings order verdict report loaded ordered checked rendered
    cases loaded
    cases ordered
    cases checked
    cases rendered
    decide

end OpenApiGate.Command
