import OpenApiGate.Finding
import OpenApiGate.Json.Display
import OpenApiGate.Reference
import OpenApiGate.Text.LowerCase
import OpenApiGate.Trace

/-!
# Compatibility with the platform

The platform drops operations without a name, deprecated operations and cookie
parameters, and it keeps some parameter names for itself.  Each of these is a
warning at the place of the operation or the parameter.  Parameters may be
references into the document.
-/

namespace OpenApiGate.Compatibility

open Json (Value)

/-- The methods under which a path item declares operations, in the order of the report. -/
def methods : List Text :=
  ["get", "put", "post", "delete", "options", "head", "patch", "trace"]

/-- The parameter names that the platform keeps for itself, in lower case. -/
def reservedNames : List Text :=
  ["body", "id", "ids", "filter", "filters", "query", "search", "q", "headers", "header",
    "params", "page", "per_page", "page_size", "limit", "offset", "cursor", "sort"]

/-- The name is reserved, in whatever case it is written. -/
def isReservedName : Value → Bool
  | .string name => reservedNames.contains name.toLower
  | _ => false

/-- The warning about a cookie parameter. -/
def cookieWarning (place : Text) (name : Value) : Finding :=
  Finding.warning place
    ("Cookie parameter '" ++ name.display ++
      "' is not supported and will be ignored on import.")

/-- The warning about a reserved parameter name. -/
def reservedWarning (place : Text) (name : Value) : Finding :=
  Finding.warning place
    ("Parameter name '" ++ name.display ++
      "' is reserved and may collide with internal request processing. Consider renaming it.")

/-- The warning about an operation that has no name. -/
def unnamedWarning (place : Text) : Finding :=
  Finding.warning place
    "Operation has neither a summary nor an operationId and will be dropped on import."

/-- The warning about a deprecated operation. -/
def deprecatedWarning (place : Text) : Finding :=
  Finding.warning place "Deprecated operation will be dropped on import."

/-- The value is the given string. -/
def isText (expected : Text) : Value → Bool
  | .string text => text = expected
  | _ => false

/-- The warnings about a parameter that is no reference. -/
def parameterWarnings (place : Text) (parameter : Value) : List Finding :=
  let name := (parameter.get? "name").getD .null
  (if (parameter.get? "in").any (isText "cookie") then [cookieWarning place name] else []) ++
    (if isReservedName name then [reservedWarning place name] else [])

/-- The warnings about one entry of a list of parameters. -/
def entryWarnings
    (follow : Value → Except Decimal.IntegerError (Option Value))
    (place : Text)
    (entry : Value) :
    Except Decimal.IntegerError (List Finding) :=
  (follow entry).map fun
    | some (.object members) => parameterWarnings place (.object members)
    | _ => []

/-- The warnings about the parameters declared at a place. -/
def parametersWarnings
    (follow : Value → Except Decimal.IntegerError (Option Value))
    (place : Text) :
    Option Value → Except Decimal.IntegerError (List Finding)
  | some (.array entries) =>
    (entries.zipIdx.mapM fun (entry, index) =>
      entryWarnings follow (place ++ ".parameters." ++ Text.ofNat index) entry).map
        List.flatten
  | _ => .ok []

/-- An operation and its place in the document. -/
structure Operation where
  place : Text
  body : Value

/-- The operations that a path item at a place declares. -/
def operations (place : Text) (pathItem : Value) : List Operation :=
  methods.filterMap fun method =>
    (pathItem.object? method).map fun body => ⟨place ++ "." ++ method, body⟩

/-- The warnings about an operation. -/
def operationWarnings
    (follow : Value → Except Decimal.IntegerError (Option Value))
    (operation : Operation) :
    Except Decimal.IntegerError (List Finding) :=
  let isNamed := operation.body.hasTruthy "summary" || operation.body.hasTruthy "operationId"
  let isDeprecated :=
    match operation.body.get? "deprecated" with
    | some (.bool true) => true
    | _ => false
  (parametersWarnings follow operation.place (operation.body.get? "parameters")).map
    fun parameters =>
      (if isNamed then [] else [unnamedWarning operation.place]) ++
        (if isDeprecated then [deprecatedWarning operation.place] else []) ++ parameters

/-- The warnings about a path item: its own parameters first, then its operations. -/
def pathItemWarnings
    (follow : Value → Except Decimal.IntegerError (Option Value))
    (place : Text)
    (pathItem : Value) :
    Except Decimal.IntegerError (List Finding) := do
  let shared ← parametersWarnings follow place (pathItem.get? "parameters")
  let own ← (operations place pathItem).mapM (operationWarnings follow)
  return shared ++ own.flatten

/-- The path items of a document with their places, if it declares paths at all. -/
def pathItems? (document : Value) : Option (List (Text × Value)) :=
  (document.object? "paths").map fun paths =>
    (paths.members.filter fun member => member.2.isObject).map fun member =>
      ("paths." ++ member.1, member.2)

/-- The warnings about all path items of a document. -/
def warnings
    (document : Value)
    (items : List (Text × Value)) :
    Except Decimal.IntegerError (List Finding) :=
  let limit := Reference.rounds document
  let follow := Reference.followFrom document limit []
  (items.mapM fun (place, item) => pathItemWarnings follow place item).map List.flatten

/-- All incompatibilities of a document, as warnings. -/
def check (document : Value) : Traced Decimal.IntegerError Findings :=
  match pathItems? document with
  | none => pure Findings.empty
  | some items => do
    let found ← Traced.ofExcept (warnings document items)
    let count := (items.flatMap fun (place, item) => operations place item).length
    Traced.log .debug .compatibility
      ("Checked " ++ Text.ofNat count ++ " operations, " ++ Text.ofNat found.length ++
        " compatibility warnings")
    return Findings.ofWarnings found

end OpenApiGate.Compatibility
