import OpenApiGate.Failure
import OpenApiGate.Files.Path
import OpenApiGate.Finding
import OpenApiGate.Trace

/-!
# Rule engines

A rule engine is an external linter that is asked about a document with a
ruleset.  It answers with findings, or says why it cannot be used.
-/

namespace OpenApiGate

/-- Why an engine gives no findings. -/
inductive EngineError where
  /-- The engine is not there. -/
  | notInstalled (message : Text)
  /-- The engine could not be run. -/
  | unusable (message : Text)
deriving DecidableEq

/-- The wording of an engine error. -/
def EngineError.message : EngineError → Text
  | .notInstalled text => text
  | .unusable text => text

/-- Steps of linting. -/
abbrev Linting := Traced (Stop EngineError)

/-- A linter for documents. -/
structure RuleEngine where
  /-- The name of the engine in log records. -/
  name : Text
  /-- The findings of the engine about a document with a ruleset. -/
  lint : (document ruleset : Path) → Linting Findings

end OpenApiGate
