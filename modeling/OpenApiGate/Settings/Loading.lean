import OpenApiGate.Json.Decoder
import OpenApiGate.Log
import OpenApiGate.Settings.Assignment
import OpenApiGate.Settings.Basic
import OpenApiGate.Surroundings
import OpenApiGate.Text.LowerCase

/-!
# Loading settings

Settings come from values that are given, from the environment, and from the
settings file, in this order of precedence.  The variable for a setting bears
its name after a common word in front, in upper or lower case; the name of a
given value may be in any case too.
-/

namespace OpenApiGate

open Json (Value)

namespace Settings

open SettingsFile (Assignment Statement)

/-- The name of the variable for a setting, in lower case. -/
def variableName (name : Text) : Text :=
  "oas_preflight_" ++ name

/-- The value of the last assignment to the variable for a setting, in any case. -/
def valueFor?
    (assignments : List Assignment)
    (name : Text) :
    Option Text :=
  let lowered := assignments.map fun (known, value) => (known.toLower, value)
  (SettingsFile.valueOf? lowered (variableName name)).join

/-- The member for a setting that is written as a JSON text; null counts as not set. -/
def commandMembers
    (source : SettingsSource)
    (text : Text) :
    Except Failure Json.Members :=
  match Json.decode text with
  | .ok .null => .ok []
  | .ok value => .ok [(commandName, value)]
  | .error (.nestedTooDeeply container) => .error (.nestedTooDeeply container)
  | .error _ => .error (.malformedCommand source)

/-- The member for a setting, if the assignments of a source give it a value. -/
def membersFor
    (source : SettingsSource)
    (assignments : List Assignment)
    (name : Text) :
    Except Failure Json.Members :=
  match valueFor? assignments name with
  | none => .ok []
  | some text =>
    if name = commandName then commandMembers source text else .ok [(name, .string text)]

/-- The members for all settings that the assignments of a source give values. -/
def membersOf
    (source : SettingsSource)
    (assignments : List Assignment) :
    Except Failure Json.Members :=
  (names.mapM (membersFor source assignments)).map List.flatten

/-- The assignments that make up the environment. -/
def environmentAssignments (surroundings : Surroundings) : List Assignment :=
  surroundings.environment.map fun (name, value) => (name, some value)

/-- Assignments in the order in which their names first occur, each with its last value. -/
def lastAssignments (assignments : List Assignment) : List Assignment :=
  assignments.foldl place []
where
  place (placed : List Assignment) (last : Assignment) : List Assignment :=
    if placed.any fun other => other.1 == last.1 then
      placed.map fun other => if other.1 == last.1 then last else other
    else placed ++ [last]

/-- The statements of the settings file, which need not exist but must be readable if it does. -/
def fileStatements (surroundings : Surroundings) : Except Failure (List Statement) :=
  match surroundings.files.find ".env" with
  | .ok (.file _ (some fault)) => .error (.fault fault)
  | .ok (.file content none) =>
    match Utf8.decode content with
    | .ok text => .ok (SettingsFile.statements text)
    | .error error => .error (.undecodable error)
  | _ => .ok []

/-- The assignments of the settings file, whose references are replaced. -/
def fileAssignments (surroundings : Surroundings) : Except Failure (List Assignment) :=
  (fileStatements surroundings).map fun statements =>
    lastAssignments
      (SettingsFile.resolveAll (environmentAssignments surroundings)
        (SettingsFile.assignments statements))

/-- The remark on text of the settings file that makes no statement. -/
def unreadableRemark (line : Nat) : Text :=
  "python-dotenv could not parse statement starting at line " ++ Text.ofNat line

/-- A remark as it is told: a record like any other once the log is set up, and bare before. -/
def toldRemark
    (log : LogState)
    (remark : Text) :
    Text :=
  match log with
  | none => remark ++ "\n"
  | some threshold =>
    if threshold ≤ LogLevel.warning.weight then
      LogRecord.line ⟨.warning, .settingsFile, remark⟩ ++ "\n"
    else []

/-- What is said about the settings file while the settings are loaded. -/
def loadingRemarks
    (log : LogState)
    (surroundings : Surroundings) :
    Text :=
  match fileStatements surroundings with
  | .ok statements =>
    (SettingsFile.unreadableLines statements).flatMap fun line =>
      toldRemark log (unreadableRemark line)
  | .error _ => []

/-- Members whose names are in lower case. -/
def lowered (members : Json.Members) : Json.Members :=
  members.map fun (name, value) => (name.toLower, value)

/-- Loads the settings, with given values in front of those of the surroundings. -/
def load
    (surroundings : Surroundings)
    (given : Json.Members) :
    Except Failure Settings := do
  let fromFile ← fileAssignments surroundings
  let environment ← membersOf .environment (environmentAssignments surroundings)
  let file ← membersOf .file fromFile
  (ofValue (.object (lowered given ++ environment ++ file))).mapError .invalidSettings

end Settings

end OpenApiGate
