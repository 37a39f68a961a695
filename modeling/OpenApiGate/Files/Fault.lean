import OpenApiGate.Text.CodePoint

/-!
# Faults

What the operating system reports when a file cannot be read or a process
cannot be started: a kind of fault and a text.
-/

namespace OpenApiGate

/-- The kinds of faults that are told apart. -/
inductive FaultKind where
  | fileNotFound
  | permissionDenied
  /-- Any other fault of the operating system. -/
  | system
  /-- A process did not finish in time. -/
  | timeout
  /-- A fault that does not come from the operating system. -/
  | foreign (name : Text)
deriving DecidableEq

/-- The operating system reports the fault. -/
def FaultKind.isSystem : FaultKind → Bool
  | .fileNotFound | .permissionDenied | .system => true
  | .timeout | .foreign _ => false

/-- A fault. -/
structure Fault where
  kind : FaultKind
  message : Text
deriving DecidableEq

/-- The operating system refuses access to what the fault is about. -/
def Fault.deniesAccess (fault : Fault) : Bool :=
  fault.kind = .permissionDenied

end OpenApiGate
