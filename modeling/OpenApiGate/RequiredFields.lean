import OpenApiGate.Finding
import OpenApiGate.Json.Value

/-!
# Required fields

A document has to declare its version under `openapi` and a title under `info`.
A field counts as declared if its value counts as present.
-/

namespace OpenApiGate.RequiredFields

open Json (Value)

/-- The document declares its version. -/
def hasVersion (document : Value) : Bool :=
  document.hasTruthy "openapi"

/-- The document declares a title. -/
def hasTitle (document : Value) : Bool :=
  (document.get? "info").any fun info => info.hasTruthy "title"

/-- The error of a document without a version. -/
def missingVersion : Finding :=
  Finding.error "$.openapi" "The OpenAPI document must have an openapi field."

/-- The error of a document without a title. -/
def missingTitle : Finding :=
  Finding.error "$.info.title" "The OpenAPI document must have a title under info -> title."

/-- One error for each required field that is missing. -/
def check (document : Value) : Findings :=
  Findings.ofErrors
    ((if hasVersion document then [] else [missingVersion]) ++
      (if hasTitle document then [] else [missingTitle]))

end OpenApiGate.RequiredFields
