import OpenApiGate.Command.Usage
import OpenApiGate.Decimal.Reading
import OpenApiGate.Failure
import OpenApiGate.Files.Tree

/-!
# Requests

What a command line asks for: help, or the check of a document.  The words are
read before the values of the options are looked at, and a wish for help comes
before the values too.
-/

namespace OpenApiGate.Command

/-- The check that a command line asks for. -/
structure Order where
  /-- The document. -/
  path : Text
  /-- The report is wanted as JSON. -/
  asJson : Bool
  /-- The ruleset, unless it is that of the settings. -/
  ruleset : Option Text
  /-- The largest size that is accepted, unless it is that of the settings. -/
  maxSizeKb : Option Float
  /-- All records are wanted. -/
  isVerbose : Bool

/-- What a command line asks for. -/
inductive Request where
  | help
  /-- Options without a document. -/
  | noDocument
  | check (order : Order)

/-- The ruleset is a file that may be read. -/
def checkRuleset
    (files : FileTree)
    (path : Text) :
    Except (Stop UsageError) Unit :=
  match files.find path with
  | .ok (.file _ readFault) =>
    if readFault.any Fault.deniesAccess then .error (.foreseen (.unreadableRuleset path))
    else .ok ()
  | .ok .directory => .error (.foreseen (.rulesetIsDirectory path))
  | .error .holdsZero => .error (.unforeseen .holdsZero)
  | .error (.unencodable error) => .error (.unforeseen (.unencodable error))
  | .error _ => .error (.foreseen (.noRuleset path))

/-- The value of an option is acceptable. -/
def checkValue
    (files : FileTree)
    (words : Words)
    (name : OptionName) :
    Except (Stop UsageError) Unit :=
  match name, words.value? name with
  | .ruleset, some path => checkRuleset files path
  | .maxSizeKb, some value =>
    if (Decimal.argumentDouble? value).isSome then .ok ()
    else .error (.foreseen (.notNumber value))
  | _, _ => .ok ()

/-- The values of all options are acceptable, in the order in which the options first occur. -/
def checkValues
    (files : FileTree)
    (words : Words) :
    Except (Stop UsageError) Unit :=
  ((words.options.map Prod.fst).eraseDups).forM (checkValue files words)

/-- The request of words whose values are acceptable. -/
def requestOf (words : Words) : Except (Stop UsageError) Request :=
  match words.arguments with
  | [] => .ok (if words.options.isEmpty then .help else .noDocument)
  | [path] =>
    .ok
      (.check
        { path
          asJson := words.has .json
          ruleset := words.value? .ruleset
          maxSizeKb := (words.value? .maxSizeKb).bind Decimal.argumentDouble?
          isVerbose := words.has .verbose })
  | _ :: extra => .error (.foreseen (.extraArguments extra))

/-- The request of a command line. -/
def readRequest
    (files : FileTree)
    (line : List Text) :
    Except (Stop UsageError) Request :=
  match readWords line with
  | .error error => .error (.foreseen error)
  | .ok words =>
    if words.has .help then .ok .help
    else do
      checkValues files words
      requestOf words

end OpenApiGate.Command
