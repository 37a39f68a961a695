import OpenApiGate.Proofs.Linting

/-!
# What linting depends on and what it starts

Of the outside world, linting looks at whether the launcher is found, at the fault
with which the process fails to start, at the text that it prints, and at whether its
exit code says that there is no such command.  Complaints and other exit codes go to
the log and nowhere else.  One look-up and at most one process is all that it does.
-/

namespace OpenApiGate

/-! ## Outside worlds that look alike -/

/-- Processes that ended look alike; no output is as good as empty output. -/
structure Ending.LooksLike (first second : Ending) : Prop where
  output : first.output.getD [] = second.output.getD []
  notStarted :
    first.exitCode = Spectral.commandNotFound ↔ second.exitCode = Spectral.commandNotFound

/-- Two attempts to start a process fail alike, or start processes that look alike. -/
inductive SpawnOutcome.LooksLike : SpawnOutcome → SpawnOutcome → Prop where
  | failed (fault : Fault) : LooksLike (.failed fault) (.failed fault)
  | finished
      {first second : Ending}
      (alike : first.LooksLike second) :
      LooksLike (.finished first) (.finished second)

/-- Launchers look alike; what comes of starting one does not matter if it is not found. -/
structure Launcher.LooksLike (first second : Launcher) : Prop where
  isFound : first.isFound = second.isFound
  outcome : first.isFound = true → first.outcome.LooksLike second.outcome

namespace Spectral

open Traced

/-! ## The result of linting -/

/-- What becomes of an output: some errors end linting, the others leave no findings. -/
theorem result_readOutput (ending : Ending) :
    (readOutput ending).result =
      match LinterOutput.findings (ending.output.getD []) with
      | .ok findings => .ok findings
      | .error (.notJson (.nestedTooDeeply container)) =>
        .error (.unforeseen (.nestedTooDeeply container))
      | .error (.noParts typeName) => .error (.unforeseen (.notIterable typeName))
      | .error _ => .ok .empty := by
  cases read : LinterOutput.findings (ending.output.getD []) with
  | ok findings => exact result_readOutput_of_ok read
  | error error =>
      cases error with
      | notArray typeName => exact result_readOutput_of_slight read id
      | noParts typeName =>
          rw [readOutput, read]
          rfl
      | notJson refusal =>
          cases refusal with
          | syntaxFault => exact result_readOutput_of_slight read id
          | integer => exact result_readOutput_of_slight read id
          | nestedTooDeeply container =>
              rw [readOutput, read]
              rfl

theorem result_readEnding_of_looksLike
    {first second : Ending}
    (alike : first.LooksLike second) :
    (readEnding first).result = (readEnding second).result := by
  unfold readEnding
  by_cases notStarted : first.exitCode = commandNotFound
  · rw [if_pos notStarted, if_pos (alike.notStarted.mp notStarted)]
    rfl
  · rw [if_neg notStarted, if_neg (mt alike.notStarted.mpr notStarted), result_readOutput,
      result_readOutput, alike.output]

variable (spectral : Spectral) (document ruleset : Path)

/-- What linting makes of what came of starting the process. -/
def resultOf : SpawnOutcome → Except (Stop EngineError) Findings
  | .failed fault => .error (spectral.stopOf fault)
  | .finished ending => (readEnding ending).result

theorem resultOf_of_looksLike
    {first second : SpawnOutcome}
    (alike : first.LooksLike second) :
    spectral.resultOf first = spectral.resultOf second := by
  cases alike with
  | failed fault => rfl
  | finished endings => exact result_readEnding_of_looksLike endings

/-- Whether the launcher is found, and what comes of starting it, decide the result. -/
theorem result_lint (launcher : Launcher) :
    (spectral.lint launcher document ruleset).result =
      if launcher.isFound then spectral.resultOf launcher.outcome
      else .error (.foreseen notInstalled) := by
  cases found : launcher.isFound with
  | false => exact result_lint_of_not_found spectral document ruleset found
  | true =>
      simp only [lint, found]
      cases launcher.outcome with
      | failed fault => rfl
      | finished ending => rfl

theorem result_lint_of_looksLike
    {first second : Launcher}
    (alike : first.LooksLike second) :
    (spectral.lint first document ruleset).result =
      (spectral.lint second document ruleset).result := by
  rw [result_lint, result_lint, ← alike.isFound]
  cases found : first.isFound with
  | false => rfl
  | true => exact resultOf_of_looksLike spectral (alike.outcome found)

/-! ## The deeds of linting -/

theorem onlyRecords_recordFindings
    (ending : Ending)
    (findings : Findings) :
    OnlyRecords (recordFindings ending findings).events := by
  simp only [recordFindings]
  split
  · exact onlyRecords_bind (onlyRecords_log _ _ _) fun _ => onlyRecords_log _ _ _
  · exact onlyRecords_log _ _ _

theorem onlyRecords_skipOutput
    (ending : Ending)
    (reason : Text) :
    OnlyRecords (skipOutput ending reason).events := by
  apply onlyRecords_bind (onlyRecords_log _ _ _)
  intro recorded
  dsimp only
  split
  · exact .nil
  · exact onlyRecords_bind (onlyRecords_log _ _ _) fun _ => .nil

theorem onlyRecords_readEnding (ending : Ending) : OnlyRecords (readEnding ending).events := by
  unfold readEnding
  split
  · exact onlyRecords_bind (onlyRecords_log _ _ _) fun _ => .nil
  · unfold readOutput
    split
    · exact onlyRecords_bind (onlyRecords_recordFindings _ _) fun _ => .nil
    · exact .nil
    · exact .nil
    · exact onlyRecords_skipOutput _ _

/-- The words in effect: those that are given, or the usual ones if there are none. -/
def effectiveCommand (spectral : Spectral) : List Text :=
  if spectral.command = [] then usualCommand else spectral.command

theorem effectiveCommand_eq_launch :
    spectral.effectiveCommand = spectral.launch.1 :: spectral.launch.2 := by
  unfold effectiveCommand launch
  cases spectral.command with
  | nil => rfl
  | cons executable rest => rfl

theorem words_eq :
    spectral.words document ruleset =
      spectral.effectiveCommand ++
        [Text.ofString "lint", document.text, "--ruleset", ruleset.text, "--format", "json"] := by
  rw [effectiveCommand_eq_launch]
  rfl

/-- A launcher is looked up, and if it is found, one process is started. -/
theorem deeds_lint (launcher : Launcher) :
    deeds (spectral.lint launcher document ruleset).events =
      .lookup spectral.launch.1 ::
        if launcher.isFound then [.spawn (spectral.words document ruleset) spectral.timeout]
        else [] := by
  cases found : launcher.isFound with
  | false =>
      simp only [lint, found]
      rfl
  | true =>
      simp only [lint, found]
      cases launcher.outcome with
      | failed fault => rfl
      | finished ending =>
          refine congrArg (fun after => Event.lookup _ :: Event.spawn _ _ :: after) ?_
          exact deeds_of_onlyRecords (onlyRecords_readEnding ending)

/-! ## What the outside world decides -/

/--
Linting comes to the same in outside worlds that look alike, and to the advice for a
missing executable if the exit code says that there is no such command.  It looks up
the first of the words in effect, and starts one process if that is found: the words,
followed by those for the document and the ruleset.
-/
theorem lint_depends_on_what_it_looks_at
    (spectral : Spectral)
    (document ruleset : Path) :
    (∀ first second : Launcher, first.LooksLike second →
        (spectral.lint first document ruleset).result =
          (spectral.lint second document ruleset).result) ∧
      (∀ (launcher : Launcher) (ending : Ending), launcher.isFound = true →
        launcher.outcome = .finished ending → ending.exitCode = 127 →
          (spectral.lint launcher document ruleset).result = .error (.foreseen notInstalled)) ∧
      ∃ executable others, spectral.effectiveCommand = executable :: others ∧
        ∀ launcher : Launcher,
          deeds (spectral.lint launcher document ruleset).events =
            .lookup executable ::
              if launcher.isFound then
                [.spawn
                  (spectral.effectiveCommand ++
                    [Text.ofString "lint", document.text, "--ruleset", ruleset.text, "--format",
                      "json"])
                  spectral.timeout]
              else [] := by
  refine ⟨?_, ?_, spectral.launch.1, spectral.launch.2, effectiveCommand_eq_launch spectral, ?_⟩
  · intro first second alike
    exact result_lint_of_looksLike spectral document ruleset alike
  · intro launcher ending found finished notStarted
    exact result_lint_of_not_started spectral document ruleset found finished notStarted
  · intro launcher
    rw [← words_eq]
    exact deeds_lint spectral document ruleset launcher

/-- A launcher whose process ends with an exit code, an output and complaints. -/
def ending
    (exitCode : Int)
    (output complaints : Option Text) :
    Launcher :=
  ⟨true, .finished ⟨exitCode, output, complaints⟩⟩

/-- A process that crashes without output is linted like one that has nothing to report. -/
theorem crash_is_linted_like_silence :
    (usual.lint (ending 2 none (some "boom")) (Path.ofText "d.json")
          (Path.ofText "r.yaml")).result =
        (usual.lint (ending 0 (some []) none) (Path.ofText "d.json")
          (Path.ofText "r.yaml")).result ∧
      (usual.lint (ending 127 (some "[]") none) (Path.ofText "d.json")
          (Path.ofText "r.yaml")).result = .error (.foreseen notInstalled) := by
  have alike : (ending 2 none (some "boom")).LooksLike (ending 0 (some []) none) :=
    ⟨rfl, fun _ => .finished ⟨rfl, by decide⟩⟩
  rcases lint_depends_on_what_it_looks_at usual (Path.ofText "d.json") (Path.ofText "r.yaml")
    with ⟨sameResult, notStarted, -⟩
  exact ⟨sameResult _ _ alike, notStarted _ _ rfl rfl rfl⟩

end Spectral

end OpenApiGate
