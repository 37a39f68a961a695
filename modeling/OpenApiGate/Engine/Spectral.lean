import OpenApiGate.Engine.Basic
import OpenApiGate.Engine.Output

/-!
# The Spectral linter

Spectral is started as a process.  Whether its launcher can be found and how
the process ends is up to the outside world; everything that follows from it is
decided here.  Output that cannot be read counts as no findings.
-/

namespace OpenApiGate

/-- How a process ended. -/
structure Ending where
  exitCode : Int
  /-- What the process printed, if it was recorded. -/
  output : Option Text
  /-- What the process printed as errors, if it was recorded. -/
  complaints : Option Text

/-- What comes of starting a process. -/
inductive SpawnOutcome where
  | failed (fault : Fault)
  | finished (ending : Ending)

/-- What the outside world makes of an executable. -/
structure Launcher where
  /-- The executable can be found. -/
  isFound : Bool
  /-- What comes of starting it. -/
  outcome : SpawnOutcome

/-- How Spectral is started. -/
structure Spectral where
  /-- The words that start it; none stand for the usual ones. -/
  command : List Text
  /-- How many seconds it may take, or as many as it wants. -/
  timeout : Option Quantity

namespace Spectral

/-- The usual words that start Spectral. -/
def usualCommand : List Text :=
  [Text.ofString "npx", Text.ofString "@stoplight/spectral-cli"]

/-- The first of the words that start Spectral, and the others. -/
def launch (spectral : Spectral) : Text × List Text :=
  match spectral.command with
  | executable :: rest => (executable, rest)
  | [] => ("npx", ["@stoplight/spectral-cli"])

/-- The words of the process for a document and a ruleset. -/
def words
    (spectral : Spectral)
    (document ruleset : Path) :
    List Text :=
  let (executable, rest) := spectral.launch
  let arguments : List Text :=
    ["lint", document.text, "--ruleset", ruleset.text, "--format", "json"]
  executable :: rest ++ arguments

/-- The advice for a missing executable. -/
def notInstalled : EngineError :=
  .notInstalled "Spectral not installed. Run: npm install -g @stoplight/spectral-cli"

/-- The exit code by which a shell says that it does not find a command. -/
def commandNotFound : Int := 127

/-- The exit codes of a run that came to its end. -/
def lintExitCodes : List Int := [0, 1]

/-- The time limit in messages. -/
def shownTimeout (spectral : Spectral) : Text :=
  spectral.timeout.elim (Text.ofString "None") Quantity.plain

/-- What a fault of starting Spectral comes to. -/
def stopOf
    (spectral : Spectral)
    (fault : Fault) :
    Stop EngineError :=
  match fault.kind with
  | .fileNotFound => .foreseen notInstalled
  | .timeout =>
    .foreseen
      (.unusable ("Spectral did not finish within " ++ spectral.shownTimeout ++ " seconds"))
  | .permissionDenied | .system =>
    .foreseen (.unusable ("Failed to run Spectral: " ++ fault.message))
  | .foreign _ => .unforeseen (.fault fault)

/-- The findings of output that cannot be read, which are none, with a record of the reason. -/
def skipOutput
    (ending : Ending)
    (reason : Text) :
    Linting Findings := do
  Traced.log .warning .engine
    ("⚠️  Could not parse Spectral output (exit code " ++ Text.ofInt ending.exitCode ++
      "): " ++ reason ++ ". Continuing without Spectral findings.")
  let complaints := ending.complaints.getD []
  unless complaints.isEmpty do
    Traced.log .debug .engine ("Spectral stderr: " ++ complaints.trim)
  pure .empty

/-- Records how many findings were read, and that there was no output if that is odd. -/
def recordFindings
    (ending : Ending)
    (findings : Findings) :
    Linting Unit := do
  let isBlank := (ending.output.getD []).trim.isEmpty
  if isBlank && !lintExitCodes.contains ending.exitCode then
    Traced.log .warning .engine
      ("⚠️  Spectral exited with code " ++ Text.ofInt ending.exitCode ++
        " without output, continuing without Spectral findings: " ++
        (ending.complaints.getD []).trim)
  Traced.log .info .engine
    ("✅ Spectral reported " ++ Text.ofNat findings.errors.length ++ " errors, " ++
      Text.ofNat findings.warnings.length ++ " warnings")

/-- The findings in the output of a process that ended. -/
def readOutput (ending : Ending) : Linting Findings :=
  match LinterOutput.findings (ending.output.getD []) with
  | .ok findings => do
    recordFindings ending findings
    pure findings
  | .error (.notJson (.nestedTooDeeply container)) =>
    Traced.fail (.unforeseen (.nestedTooDeeply container))
  | .error (.noParts typeName) => Traced.fail (.unforeseen (.notIterable typeName))
  | .error reason => skipOutput ending reason.message

/-- The findings of a process that ended. -/
def readEnding (ending : Ending) : Linting Findings :=
  if ending.exitCode = commandNotFound then do
    Traced.log .error .engine
      ("❌ Spectral could not be started: " ++ (ending.complaints.getD []).trim)
    Traced.fail (.foreseen notInstalled)
  else readOutput ending

/-- The findings of Spectral about a document with a ruleset. -/
def lint
    (spectral : Spectral)
    (launcher : Launcher)
    (document ruleset : Path) :
    Linting Findings := do
  let (executable, _) := spectral.launch
  Traced.emit (.lookup executable)
  if launcher.isFound then
    let words := spectral.words document ruleset
    Traced.log .info .engine ("🔍 Running Spectral: " ++ Text.joined " " words)
    Traced.emit (.spawn words spectral.timeout)
    match launcher.outcome with
    | .failed fault => Traced.fail (spectral.stopOf fault)
    | .finished ending => readEnding ending
  else
    Traced.log .error .engine ("❌ Executable not found: " ++ executable)
    Traced.fail (.foreseen notInstalled)

/-- Spectral as a rule engine, given what the outside world makes of its launcher. -/
def engine
    (spectral : Spectral)
    (launcher : Launcher) :
    RuleEngine where
  name := "Spectral"
  lint := spectral.lint launcher

end Spectral

end OpenApiGate
