import OpenApiGate.Failure
import OpenApiGate.Files.Tree

/-!
# Surroundings

What the command finds where it is started: files, variables of the environment,
the packaged ruleset, and the stream that reports are printed to.
-/

namespace OpenApiGate

/-- A stream that takes a text as a whole or refuses it. -/
structure OutputStream where
  /-- Why the stream refuses a text, if it does. -/
  refusal? : Text → Option Failure

/-- A stream in UTF-8 that refuses what cannot be encoded and nothing else. -/
def OutputStream.utf8 : OutputStream where
  refusal? text := (Utf8.unencodable? text).map .unencodable

/-- The outside world as far as the command depends on it. -/
structure Surroundings where
  /-- What lies in the working directory. -/
  files : FileTree
  /-- The variables of the environment, in the order in which they were set. -/
  environment : List (Text × Text)
  /-- Where the packaged ruleset is. -/
  packagedRuleset : Path
  /-- What reports are printed to; it is no terminal. -/
  output : OutputStream := .utf8

end OpenApiGate
