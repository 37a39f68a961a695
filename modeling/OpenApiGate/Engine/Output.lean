import OpenApiGate.Failure
import OpenApiGate.Finding
import OpenApiGate.Json.Decoder
import OpenApiGate.Json.Display
import OpenApiGate.Text.Blank

/-!
# The output of the linter

The linter prints a JSON array of results.  Results of severity 0 are errors
and results of severity 1 are warnings; all others are left out.  Blank output
has no results.
-/

namespace OpenApiGate.LinterOutput

open Json (Value)

/-- Why an output has no findings. -/
inductive OutputError where
  /-- The output is no JSON text. -/
  | notJson (error : Json.DecodeError)
  /-- The output is a JSON value of the named type and no array. -/
  | notArray (typeName : Text)
  /-- The path of a result is a value of the named type, which has no parts. -/
  | noParts (typeName : Text)
deriving DecidableEq

/-- The wording of an output error. -/
def OutputError.message : OutputError → Text
  | .notJson error => error.message
  | .notArray typeName => "Expected a JSON array from Spectral, got " ++ typeName
  | .noParts typeName => (Failure.notIterable typeName).message

/-- The segments of a path as a result gives it. -/
def segments : Value → Except OutputError (List Text)
  | .string text => .ok (text.map fun point => [point])
  | .array items => .ok (items.map Value.display)
  | .object members => .ok (members.map Prod.fst)
  | value => if value.isTruthy then .error (.noParts value.typeName) else .ok []

/-- The line at which a result starts, if it gives one. -/
def startLine (item : Value) : Option Int :=
  match ((item.object? "range").bind (Value.object? · "start")).bind (Value.get? · "line") with
  | some (.integer line) => some line
  | some (.bool flag) => some flag.toNat
  | _ => none

/-- The rule code of a result, if it gives one. -/
def ruleCode (item : Value) : Option Text :=
  match item.get? "code" with
  | none | some .null => none
  | some code => some code.display

/-- The message of a result. -/
def messageOf (item : Value) : Text :=
  (item.get? "message").elim [] Value.display

/-- The finding of a result that is reported with a severity. -/
def findingOf
    (severity : Severity)
    (item : Value) :
    Except OutputError Finding :=
  (segments ((item.get? "path").getD .null)).map fun parts =>
    ⟨Text.joined "." parts, messageOf item, severity, ruleCode item, startLine item⟩

/-- The severity with which an item of the output is reported, if it is. -/
def reportedSeverity? (item : Value) : Option Severity :=
  if (item.get? "severity").any (Value.equalsNumber 0) then some .error
  else if (item.get? "severity").any (Value.equalsNumber 1) then some .warning
  else none

/-- The findings of the items of the output. -/
def findingsOf : List Value → Except OutputError Findings
  | [] => .ok .empty
  | item :: rest =>
    match reportedSeverity? item with
    | none => findingsOf rest
    | some severity => do
      let finding ← findingOf severity item
      let others ← findingsOf rest
      .ok (others.addFirst severity finding)

/-- The findings that an output reports. -/
def findings (output : Text) : Except OutputError Findings :=
  if (output.trim).isEmpty then .ok .empty
  else
    match Json.decode output with
    | .error error => .error (.notJson error)
    | .ok (.array items) => findingsOf items
    | .ok value => .error (.notArray value.typeName)

end OpenApiGate.LinterOutput
