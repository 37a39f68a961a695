import OpenApiGate.Text.CodePoint

/-!
# Log records

Every part of a check tells what it does in records of a level.  A threshold
decides which records are shown; the records themselves do not depend on it.  A
process sets up its log once: what comes later leaves the threshold as it is.
-/

namespace OpenApiGate

/-- The levels of log records, from the least to the most serious. -/
inductive LogLevel where
  | debug
  | info
  | warning
  | error
deriving DecidableEq

namespace LogLevel

/-- The word for a level. -/
def word : LogLevel → Text
  | .debug => "DEBUG"
  | .info => "INFO"
  | .warning => "WARNING"
  | .error => "ERROR"

/-- The weight of a level. -/
def weight : LogLevel → Nat
  | .debug => 10
  | .info => 20
  | .warning => 30
  | .error => 40

end LogLevel

/-- The parts of the program that write records. -/
inductive LogSource where
  | loading
  | compatibility
  | check
  | engine
  | command
  /-- The reader of the settings file, which is no part of the program itself. -/
  | settingsFile
deriving DecidableEq

/-- The name under which a part writes its records. -/
def LogSource.name : LogSource → Text
  | .loading => "oas_preflight.core.loader"
  | .compatibility => "oas_preflight.core.compatibility"
  | .check => "oas_preflight.core.pipeline"
  | .engine => "oas_preflight.engines.spectral"
  | .command => "oas_preflight.cli"
  | .settingsFile => "dotenv.main"

/-- One record. -/
structure LogRecord where
  level : LogLevel
  source : LogSource
  text : Text
deriving DecidableEq

/-- A record as a line of the log. -/
def LogRecord.line (record : LogRecord) : Text :=
  record.level.word ++ " " ++ record.source.name ++ ": " ++ record.text

/-- Names of thresholds and the least weight that each lets through. -/
def logThresholds : List (String × Nat) :=
  [("NOTSET", 0), ("DEBUG", 10), ("INFO", 20), ("WARN", 30), ("WARNING", 30),
    ("ERROR", 40), ("CRITICAL", 50), ("FATAL", 50)]

/-- The weight of the threshold with a name in upper case. -/
def logThreshold? (name : Text) : Option Nat :=
  (logThresholds.find? fun (known, _) => name = Text.ofString known).map Prod.snd

/-- The least weight of records that are shown, once the log of a process is set up. -/
abbrev LogState := Option Nat

end OpenApiGate
