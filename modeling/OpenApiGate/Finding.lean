import OpenApiGate.Text.CodePoint

/-!
# Findings

A finding is one reported issue, located by a dotted path into the document.
A checking stage produces two lists of them, errors and warnings.  Only errors
keep a document from being accepted.
-/

namespace OpenApiGate

/-- How serious a finding is. -/
inductive Severity where
  | error
  | warning
deriving DecidableEq

/-- The word for a severity. -/
def Severity.word : Severity → Text
  | .error => "error"
  | .warning => "warning"

/-- One reported issue. -/
structure Finding where
  /-- The place in the document, as keys and indices joined by dots. -/
  path : Text
  /-- What is wrong. -/
  message : Text
  /-- How serious it is. -/
  severity : Severity
  /-- The rule that reported it, if an engine did. -/
  code : Option Text
  /-- The source line, if an engine reported one. -/
  line : Option Int
deriving DecidableEq

namespace Finding

/-- An error of this program's own checks. -/
def error (path message : Text) : Finding :=
  ⟨path, message, .error, none, none⟩

/-- A warning of this program's own checks. -/
def warning (path message : Text) : Finding :=
  ⟨path, message, .warning, none, none⟩

end Finding

/-- The findings of one checking stage. -/
structure Findings where
  errors : List Finding
  warnings : List Finding
deriving DecidableEq

namespace Findings

/-- No findings. -/
def empty : Findings :=
  ⟨[], []⟩

/-- Errors and no warnings. -/
def ofErrors (errors : List Finding) : Findings :=
  ⟨errors, []⟩

/-- Warnings and no errors. -/
def ofWarnings (warnings : List Finding) : Findings :=
  ⟨[], warnings⟩

/-- A stage accepts a document that it finds no error in. -/
def accepts (findings : Findings) : Bool :=
  findings.errors.isEmpty

/-- One more finding, at the end of the list for a severity. -/
def add
    (findings : Findings)
    (severity : Severity)
    (finding : Finding) :
    Findings :=
  match severity with
  | .error => ⟨findings.errors ++ [finding], findings.warnings⟩
  | .warning => ⟨findings.errors, findings.warnings ++ [finding]⟩

/-- One more finding, at the front of the list for a severity. -/
def addFirst
    (findings : Findings)
    (severity : Severity)
    (finding : Finding) :
    Findings :=
  match severity with
  | .error => ⟨finding :: findings.errors, findings.warnings⟩
  | .warning => ⟨findings.errors, finding :: findings.warnings⟩

/-- The list for a severity. -/
def list (findings : Findings) : Severity → List Finding
  | .error => findings.errors
  | .warning => findings.warnings

theorem accepts_iff (findings : Findings) :
    findings.accepts = true ↔ findings.errors = [] :=
  List.isEmpty_iff

@[simp]
theorem list_add_same
    (findings : Findings)
    (severity : Severity)
    (finding : Finding) :
    (findings.add severity finding).list severity = findings.list severity ++ [finding] := by
  cases severity with
  | error => rfl
  | warning => rfl

theorem list_add_other
    (findings : Findings)
    {severity other : Severity}
    (different : other ≠ severity)
    (finding : Finding) :
    (findings.add severity finding).list other = findings.list other := by
  cases severity with
  | error =>
    cases other with
    | error => exact absurd rfl different
    | warning => rfl
  | warning =>
    cases other with
    | error => rfl
    | warning => exact absurd rfl different

end Findings

end OpenApiGate
