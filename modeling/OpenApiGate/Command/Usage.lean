import OpenApiGate.Command.Words
import OpenApiGate.Files.Name

/-!
# Usage

The help text of the command, and what it says when a command line is refused.
-/

namespace OpenApiGate.Command

/-- The line that shows how the command is used. -/
def usageLine : Text :=
  "Usage: oas-preflight [OPTIONS] [SPEC_PATH]"

/-- The help text. -/
def helpText : Text :=
  usageLine ++
    "\n\n" ++
    "  Validate an OpenAPI document against the upload platform's rules.\n\n" ++
    "  Runs the required-field and naming checks, then Spectral with the platform\n" ++
    "  ruleset, so documents that pass here should import cleanly.\n\n" ++
    "Options:\n" ++
    "  --json               Output as JSON.\n" ++
    "  --ruleset FILE       Spectral ruleset to use instead of the packaged one.\n" ++
    "  --max-size-kb FLOAT  Upload size limit in KB (default: 500).\n" ++
    "  -v, --verbose        Log debug output to stderr.\n" ++
    "  -h, --help           Show this message and exit.\n\n" ++
    "  Requirements:\n" ++
    "    npm install -g @stoplight/spectral-cli\n\n" ++
    "  Exit codes: 0 passed, 1 validation errors, 2 file or engine error.\n"

/-- The options that are offered instead of an unknown one. -/
def offer : List Text → Text
  | [] => []
  | [similar] => " Did you mean " ++ similar.quoted ++ "?"
  | similar =>
    " (Did you mean one of: " ++ Text.joined ", " (similar.map Text.quoted) ++ "?)"

/-- The wording for a value that an option refuses. -/
def invalidValue
    (name : OptionName)
    (reason : Text) :
    Text :=
  "Invalid value for '" ++ name.long ++ "': " ++ reason

namespace UsageError

/-- The wording of a usage error. -/
def message : UsageError → Text
  | .noSuchOption name similar => "No such option " ++ name.quoted ++ "." ++ offer similar
  | .missingValue name => "Option " ++ name.quoted ++ " requires an argument."
  | .unexpectedValue name => "Option " ++ name.quoted ++ " does not take a value."
  | .notNumber value =>
    invalidValue .maxSizeKb (value.quoted ++ " is not a valid float.")
  | .noRuleset path =>
    invalidValue .ruleset ("File " ++ path.shownName.quoted ++ " does not exist.")
  | .rulesetIsDirectory path =>
    invalidValue .ruleset ("File " ++ path.shownName.quoted ++ " is a directory.")
  | .unreadableRuleset path =>
    invalidValue .ruleset ("File " ++ path.shownName.quoted ++ " is not readable.")
  | .extraArguments arguments =>
    let noun : Text := if arguments.length = 1 then "argument" else "arguments"
    "Got unexpected extra " ++ noun ++ " (" ++ Text.joined " " arguments ++ ")"

/-- The way in which options come with values needs no reminder of the usage. -/
def showsUsage : UsageError → Bool
  | .missingValue _ | .unexpectedValue _ => false
  | _ => true

/-- What the command says when a command line is refused. -/
def complaint (error : UsageError) : Text :=
  let reminder : Text :=
    if error.showsUsage then
      usageLine ++ "\n" ++ "Try 'oas-preflight --help' for help.\n\n"
    else []
  reminder ++ "Error: " ++ error.message ++ "\n"

end UsageError

end OpenApiGate.Command
