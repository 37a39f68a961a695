import OpenApiGate.Compatibility
import OpenApiGate.Document
import OpenApiGate.Engine.Spectral
import OpenApiGate.RequiredFields
import OpenApiGate.Settings.Loading

/-!
# Checking a document

A check loads a document, looks for required fields and for what the platform
does not support, asks the rule engine, and merges the findings into a verdict.
A document that cannot be loaded and an engine that cannot be used are verdicts
too; a check that ends in a failure has none.
-/

namespace OpenApiGate

/-- Spectral as the settings start it. -/
def Settings.spectral (settings : Settings) : Spectral :=
  ⟨settings.engineCommand, settings.engineTimeout.map .real⟩

/-- What is to be checked, and how. -/
structure Check where
  /-- The document. -/
  path : Text
  /-- The settings. -/
  settings : Settings
  /-- The rule engine. -/
  engine : RuleEngine
  /-- The ruleset, unless it is that of the settings. -/
  ruleset : Option Text

namespace Check

/-- The ruleset of a check, given where the packaged one is. -/
def chosenRuleset
    (check : Check)
    (packaged : Path) :
    Path :=
  match check.ruleset with
  | none | some [] => check.settings.ruleset packaged
  | some path => Path.ofText path

/-- Records a verdict and gives it. -/
def conclude
    (document : Document)
    (verdict : Verdict) :
    Traced Failure Verdict := do
  Traced.log .info .check
    ("Preflight finished for " ++ document.path.text ++ ": " ++ verdict.summary)
  pure verdict

/-- The verdict on a document, given the findings of this program. -/
def consult
    (check : Check)
    (ruleset : Path)
    (document : Document)
    (structural compatibility : Findings) :
    Traced Failure Verdict := do
  Traced.emit (.consult document.path.text ruleset.text)
  match ← (check.engine.lint document.path ruleset).attempt with
  | .error (.unforeseen failure) => Traced.fail failure
  | .error (.foreseen error) => do
    Traced.log .error .check ("❌ " ++ check.engine.name ++ " failed: " ++ error.message)
    pure (Verdict.ofFatal error.message (some document.sizeKb))
  | .ok findings =>
    conclude document
      (Verdict.merge structural compatibility findings (some document.sizeKb))

/-- The findings about the size and the required fields of a document. -/
def structuralFindings (document : Document) : Findings :=
  .ofErrors (document.sizeFindings.errors ++ (RequiredFields.check document.content).errors)

/-- The verdict on a document. -/
def examine
    (check : Check)
    (ruleset : Path)
    (document : Document) :
    Traced Failure Verdict := do
  let compatibility ← (Compatibility.check document.content).mapError .integer
  check.consult ruleset document (structuralFindings document) compatibility

/-- The verdict of a check. -/
def run
    (check : Check)
    (surroundings : Surroundings) :
    Traced Failure Verdict := do
  let limit := Quantity.real check.settings.maxSizeKb
  match ← (Document.load surroundings.files check.path (some limit)).attempt with
  | .error (.unforeseen failure) => Traced.fail failure
  | .error (.foreseen error) => do
    Traced.log .debug .check ("Loading failed: " ++ error.cause.message)
    pure (Verdict.ofFatal error.cause.message error.sizeKb)
  | .ok document => check.examine (check.chosenRuleset surroundings.packagedRuleset) document

end Check

end OpenApiGate
