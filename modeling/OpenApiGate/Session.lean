import OpenApiGate.Command.Outcome

/-!
# Sessions

A session is a sequence of steps that share surroundings, the settings that
were loaded last, a collection of findings, and the log of one process.  Settings
are loaded once and kept until they are dropped; a loading that fails keeps
nothing.  The first command with settings sets up the log for all later ones.
-/

namespace OpenApiGate

open Json (Value)

/-- What the steps of a session share. -/
structure Session where
  surroundings : Surroundings
  /-- The settings that were loaded, until they are dropped. -/
  cache : Option Settings
  /-- The findings collected so far. -/
  findings : Findings
  /-- The log of the process. -/
  log : LogState

/-- Why an addition to the findings is refused for its arguments. -/
inductive ArgumentError where
  /-- An argument of this name is already taken. -/
  | repeated (name : Text)
  /-- There is no argument of this name. -/
  | unknown (name : Text)
  /-- Arguments of these names are missing. -/
  | missing (names : List Text)
deriving DecidableEq

/-- The call that adds a finding of a severity. -/
def ArgumentError.call (severity : Severity) : Text :=
  "CheckResult.add_" ++ severity.word ++ "()"

/-- The wording of an argument error. -/
def ArgumentError.message (severity : Severity) : ArgumentError → Text
  | .repeated name =>
    call severity ++ " got multiple values for argument '" ++ name ++ "'"
  | .unknown name =>
    call severity ++ " got an unexpected keyword argument '" ++ name ++ "'"
  | .missing names =>
    let noun : Text := if names.length = 1 then "argument: " else "arguments: "
    call severity ++ " missing " ++ Text.ofNat names.length ++ " required positional " ++
      noun ++ Text.joined " and " (names.map Text.quoted)

/-- Why a step is refused. -/
inductive StepError where
  /-- A failure. -/
  | failure (failure : Failure)
  /-- The arguments of an addition. -/
  | arguments (severity : Severity) (error : ArgumentError)
  /-- The values of fields. -/
  | fields (errors : List FieldError)
  /-- There is no finding at an index. -/
  | noSuchFinding

/-- The engine that a check asks. -/
inductive EngineChoice where
  /-- A given engine. -/
  | given (engine : RuleEngine)
  /-- Spectral as the settings start it, given what becomes of its launcher. -/
  | spectral (launcher : Launcher)

/-- The engine of a choice, under settings. -/
def EngineChoice.engine
    (choice : EngineChoice)
    (settings : Settings) :
    RuleEngine :=
  match choice with
  | .given engine => engine
  | .spectral launcher => settings.spectral.engine launcher

/-- One step of a session. -/
inductive Step where
  /-- A file or a directory is made, or what is at a path is deleted. -/
  | write (path : Text) (entry : Option Entry)
  /-- A variable of the environment is set or removed. -/
  | assign (name : Text) (value : Option Text)
  /-- The loaded settings are dropped. -/
  | dropSettings
  /-- The settings are read. -/
  | readSettings
  /-- A document is checked, under given settings or those of the session. -/
  | check (path : Text) (ruleset : Option Text) (engine : EngineChoice)
      (given : Option Json.Members)
  /-- The command is run. -/
  | command (line : List Text) (launcher : Launcher)
  /-- The findings are dropped. -/
  | dropFindings
  /-- A finding is added, described by the arguments in an object. -/
  | add (severity : Severity) (arguments : Json.Members)
  /--
  A field of a finding is set; an index below zero counts from the end.  No field
  starts with two underscores, as names of the object that carries the fields do.
  -/
  | setField (severity : Severity) (index : Int) (field : Text)
  /-- The findings are merged into a verdict with those of two other stages. -/
  | merge (compatibility engine : Findings) (sizeKb : Option Float)

/-- The answer to a step. -/
inductive Answer where
  | done
  | settings (settings : Settings)
  | checked (verdict : Traced Failure Verdict)
  | outcome (outcome : Command.Outcome)
  | findings (findings : Findings)
  | verdict (verdict : Verdict)
  | refused (error : StepError)

namespace Session

/-- A session without settings and findings, in a process that has not set up its log. -/
def start (surroundings : Surroundings) : Session :=
  ⟨surroundings, none, .empty, none⟩

/-- Why a text cannot be handed to the operating system. -/
def outsideFailure? (text : Text) : Option Failure :=
  match text.strandedRun? with
  | some error => some (.unencodable error)
  | none => if text.any (·.value = 0) then some .holdsZero else none

/-- Why nothing can be written at a path. -/
def placeFailure? (path : Path) : Option Failure :=
  let isLong (limit : Nat) (name : Text) : Bool := decide (limit < name.nameBytes.length)
  (outsideFailure? path.text).or
    (if isLong (FileTree.pathLimit - 1) path.text ||
        path.components.any (isLong FileTree.nameLimit) then
      some (.pathTooLong path.text)
    else none)

/-- Why nothing can be written at a path text; the way to the place comes first. -/
def writeFailure? (text : Text) : Option Failure :=
  let path := Path.ofText text
  (placeFailure? ⟨path.root, path.components.dropLast⟩).or (placeFailure? path)

/-- The tree with or without an entry at a path. -/
def writeEntry
    (files : FileTree)
    (path : Text)
    (entry : Option Entry) :
    FileTree :=
  match entry with
  | some entry => files.write (Path.ofText path) entry
  | none => files.delete (Path.ofText path)

/-- The environment with a variable set; a variable that was there keeps its place. -/
def setVariable
    (environment : List (Text × Text))
    (name value : Text) :
    List (Text × Text) :=
  if environment.any fun other => other.1 = name then
    environment.map fun other => if other.1 = name then (name, value) else other
  else environment ++ [(name, value)]

/-- The environment with a variable set or removed; names and values are bytes. -/
def assignVariable
    (environment : List (Text × Text))
    (name : Text)
    (value : Option Text) :
    List (Text × Text) :=
  let stored (text : Text) : Text := Text.ofNameBytes text.nameBytes
  match value with
  | none => environment.filter fun other => other.1 ≠ stored name
  | some value => setVariable environment (stored name) (stored value)

/-- Why a variable cannot be set. -/
def assignFailure?
    (name : Text)
    (value : Option Text) :
    Option Failure :=
  value.bind fun value => (outsideFailure? name).or (outsideFailure? value)

/-- The settings of a session, which are loaded if need be. -/
def settings (session : Session) : Session × Except Failure Settings :=
  match session.cache with
  | some settings => (session, .ok settings)
  | none =>
    match Settings.load session.surroundings [] with
    | .ok settings => ({ session with cache := some settings }, .ok settings)
    | .error failure => (session, .error failure)

/-- What is said while the settings of a session are read: nothing if they are there. -/
def loadingRemarks (session : Session) : Text :=
  match session.cache with
  | some _ => []
  | none => Settings.loadingRemarks session.log session.surroundings

/-- The settings of a check, which are loaded for it alone if values are given. -/
def settingsOf
    (session : Session)
    (given : Option Json.Members) :
    Session × Except Failure Settings :=
  match given with
  | some members => (session, Settings.load session.surroundings members)
  | none => session.settings

/-- The verdict on a document under settings that may not be there. -/
def checkUnder
    (surroundings : Surroundings)
    (path : Text)
    (ruleset : Option Text)
    (choice : EngineChoice)
    (settings : Except Failure Settings) :
    Traced Failure Verdict :=
  match settings with
  | .error failure => Traced.fail failure
  | .ok settings =>
    let check : Check := { path, settings, engine := choice.engine settings, ruleset }
    check.run surroundings

/-- The outcome of an order under settings that may not be there. -/
def runUnder
    (surroundings : Surroundings)
    (log : LogState)
    (launcher : Launcher)
    (order : Command.Order)
    (settings : Except Failure Settings) :
    Command.Outcome :=
  match settings with
  | .error failure => .fail [] [] failure
  | .ok settings => order.run surroundings log launcher settings

/-- The log after an order under settings that may not be there, without which it is not touched. -/
def logUnder
    (log : LogState)
    (order : Command.Order)
    (settings : Except Failure Settings) :
    LogState :=
  match settings with
  | .error _ => log
  | .ok settings => order.logAfter log settings.logLevel

/-- The outcome of an order under the settings of a session, which are loaded if need be. -/
def carryOut
    (session : Session)
    (launcher : Launcher)
    (order : Command.Order) :
    Session × Command.Outcome :=
  let (after, settings) := session.settings
  let outcome := runUnder session.surroundings session.log launcher order settings
  ({ after with log := logUnder session.log order settings },
    outcome.after session.loadingRemarks)

/-- The names of the arguments that an addition must have. -/
def requiredArguments : List Text :=
  ["path", "message"]

/-- The names of all arguments of an addition. -/
def knownArguments : List Text :=
  ["path", "message", "code"]

/-- The first fault of the arguments of an addition. -/
def argumentError? (arguments : Json.Members) : Option ArgumentError :=
  let fault (name : Text) : Option ArgumentError :=
    if knownArguments.contains name then none
    else if name = Text.ofString "self" then some (.repeated name)
    else some (.unknown name)
  match (arguments.map Prod.fst).findSome? fault with
  | some error => some error
  | none =>
    let missing := requiredArguments.filter fun name => (arguments.lookup name).isNone
    if missing.isEmpty then none else some (.missing missing)

/-- The finding that the arguments of an addition describe. -/
def describedFinding
    (severity : Severity)
    (arguments : Json.Members) :
    Except StepError Finding :=
  match argumentError? arguments with
  | some error => .error (.arguments severity error)
  | none =>
    let value := Value.object (("severity", .string severity.word) :: arguments)
    (Finding.ofValue value).mapError .fields

/-- There is an item at an index, which counts from the end if it is below zero. -/
def hasIndex
    (length : Nat)
    (index : Int) :
    Bool :=
  decide (-(length : Int) ≤ index) && decide (index < length)

/--
Findings are never changed; a name that starts with an underscore is no field of theirs.
Names of the object that carries the fields, with two underscores, are not asked about.
-/
def assignmentError?
    (findings : Findings)
    (severity : Severity)
    (index : Int)
    (field : Text) :
    Option StepError :=
  if !hasIndex (findings.list severity).length index then some .noSuchFinding
  else if field.head?.any (CodePoint.is '_') then none
  else some (.fields [⟨[field], .frozen⟩])

/-- One step of a session, and the answer to it. -/
def step (session : Session) : Step → Session × Answer
  | .write path entry =>
    match entry.bind fun _ => writeFailure? path with
    | some failure => (session, .refused (.failure failure))
    | none =>
      let files := writeEntry session.surroundings.files path entry
      ({ session with surroundings := { session.surroundings with files } }, .done)
  | .assign name value =>
    match assignFailure? name value with
    | some failure => (session, .refused (.failure failure))
    | none =>
      let environment := assignVariable session.surroundings.environment name value
      ({ session with surroundings := { session.surroundings with environment } }, .done)
  | .dropSettings => ({ session with cache := none }, .done)
  | .readSettings =>
    match session.settings with
    | (after, .ok settings) => (after, .settings settings)
    | (after, .error failure) => (after, .refused (.failure failure))
  | .check path ruleset engine given =>
    let (after, settings) := session.settingsOf given
    (after, .checked (checkUnder session.surroundings path ruleset engine settings))
  | .command line launcher =>
    match Command.settle session.surroundings.files line with
    | .inl outcome => (session, .outcome outcome)
    | .inr order =>
      let (after, outcome) := session.carryOut launcher order
      (after, .outcome outcome)
  | .dropFindings => ({ session with findings := .empty }, .findings .empty)
  | .add severity arguments =>
    match describedFinding severity arguments with
    | .error error => (session, .refused error)
    | .ok finding =>
      let findings := session.findings.add severity finding
      ({ session with findings }, .findings findings)
  | .setField severity index field =>
    match assignmentError? session.findings severity index field with
    | some error => (session, .refused error)
    | none => (session, .findings session.findings)
  | .merge compatibility engine sizeKb =>
    (session, .verdict (Verdict.merge session.findings compatibility engine sizeKb))

/-- The steps of a session in order, and the answers to them. -/
def run (session : Session) : List Step → Session × List Answer
  | [] => (session, [])
  | first :: rest =>
    let (between, answer) := session.step first
    let (after, answers) := run between rest
    (after, answer :: answers)

theorem run_append
    (session : Session)
    (first second : List Step) :
    session.run (first ++ second) =
      (((session.run first).1.run second).1,
        (session.run first).2 ++ ((session.run first).1.run second).2) := by
  induction first generalizing session with
  | nil => rfl
  | cons step rest ih => simp [run, ih]

theorem length_answers
    (session : Session)
    (steps : List Step) :
    (session.run steps).2.length = steps.length := by
  induction steps generalizing session with
  | nil => rfl
  | cons step rest ih => simp [run, ih]

/-- The answer to a step depends on the steps before it only. -/
theorem answer_at
    (session : Session)
    (before after : List Step)
    (step : Step) :
    (session.run (before ++ step :: after)).2[before.length]? =
      some ((session.run before).1.step step).2 := by
  have counted := length_answers session before
  rw [run_append, List.getElem?_append_right (Nat.le_of_eq counted), counted, Nat.sub_self]
  rfl

end Session

end OpenApiGate
