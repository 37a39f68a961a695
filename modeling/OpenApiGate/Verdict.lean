import OpenApiGate.Decimal.Double
import OpenApiGate.Finding
import OpenApiGate.Text.Quoted

/-!
# Verdicts

The outcome of checking a document.  A fatal condition stops the check and
leaves no findings; otherwise the findings of all stages are combined, and the
document is accepted if none of them is an error.
-/

namespace OpenApiGate

/-- The outcome of a check. -/
structure Verdict where
  /-- The document is accepted. -/
  success : Bool
  /-- The condition that stopped the check. -/
  fatal : Option Text
  /-- The size of the document in kilobytes, if it is known. -/
  sizeKb : Option Float
  errors : List Finding
  warnings : List Finding

namespace Verdict

/-- The verdict on a check that was stopped. -/
def ofFatal
    (message : Text)
    (sizeKb : Option Float) :
    Verdict where
  success := false
  fatal := some message
  sizeKb := sizeKb
  errors := []
  warnings := []

/--
The verdict on the findings of all stages.  Errors come from the structural
check and the engine, warnings from the engine and the compatibility check.
-/
def merge
    (structural compatibility engine : Findings)
    (sizeKb : Option Float) :
    Verdict where
  success := structural.accepts && engine.accepts
  fatal := none
  sizeKb := sizeKb
  errors := structural.errors ++ engine.errors
  warnings := engine.warnings ++ compatibility.warnings

/-- A check that was stopped. -/
def isFatal (verdict : Verdict) : Bool :=
  verdict.fatal.isSome

/-- The exit status: 0 for an accepted document, 1 for errors, 2 for a check that was stopped. -/
def exitStatus (verdict : Verdict) : Nat :=
  if verdict.isFatal then 2 else if verdict.success then 0 else 1

theorem exitStatus_eq_one_iff (verdict : Verdict) :
    verdict.exitStatus = 1 ↔ verdict.fatal = none ∧ verdict.success = false := by
  rcases verdict with ⟨success, fatal, _, _, _⟩
  cases fatal <;> cases success <;> simp [exitStatus, isFatal]

theorem exitStatus_eq_zero_iff (verdict : Verdict) :
    verdict.exitStatus = 0 ↔ verdict.fatal = none ∧ verdict.success = true := by
  rcases verdict with ⟨success, fatal, _, _, _⟩
  cases fatal <;> cases success <;> simp [exitStatus, isFatal]

theorem exitStatus_le (verdict : Verdict) : verdict.exitStatus ≤ 2 := by
  unfold exitStatus
  split
  · exact Nat.le_refl 2
  · split <;> decide

/-- A one-line summary of a verdict. -/
def summary (verdict : Verdict) : Text :=
  let success : Text := if verdict.success then "True" else "False"
  let fatal : Text := verdict.fatal.elim (Text.ofString "None") Text.quoted
  "ValidationResult(success=" ++ success ++ ", fatal=" ++ fatal ++
    ", errors=" ++ Text.ofNat verdict.errors.length ++
    ", warnings=" ++ Text.ofNat verdict.warnings.length ++ ")"

end Verdict

end OpenApiGate
