import OpenApiGate.Files.Path
import OpenApiGate.Quantity
import OpenApiGate.Validation

/-!
# Settings

The settings of a check, their names, and what a value must be like to be one.
-/

namespace OpenApiGate

open Json (Value)

/-- The settings of a check. -/
structure Settings where
  /-- The largest size that is accepted, in kilobytes. -/
  maxSizeKb : Float
  /-- The ruleset, unless it is the packaged one. -/
  rulesetPath : Option Text
  /-- The words that start the rule engine. -/
  engineCommand : List Text
  /-- How many seconds the rule engine may take, or as many as it wants. -/
  engineTimeout : Option Float
  /-- How many warnings a report itemizes. -/
  maxWarningsShown : Int
  /-- The least level of records that are shown. -/
  logLevel : Text

namespace Settings

/-- The usual settings. -/
def usual : Settings where
  maxSizeKb := 500
  rulesetPath := none
  engineCommand := ["npx", "@stoplight/spectral-cli"]
  engineTimeout := none
  maxWarningsShown := 5
  logLevel := "WARNING"

/-- The names of the settings. -/
def names : List Text :=
  ["max_size_kb", "ruleset_path", "engine_command", "engine_timeout", "max_warnings_shown",
    "log_level"]

/-- The name of the setting that is written as a JSON text. -/
def commandName : Text := "engine_command"

/-- The settings that values of some of the names describe. -/
def ofValue (value : Value) : Checked Settings :=
  match
    value.optional "max_size_kb" usual.maxSizeKb Value.checkDouble,
    value.optional "ruleset_path" usual.rulesetPath (Value.nullable Value.checkText),
    value.optional commandName usual.engineCommand (Value.checkList Value.checkText),
    value.optional "engine_timeout" usual.engineTimeout (Value.nullable Value.checkDouble),
    value.optional "max_warnings_shown" usual.maxWarningsShown Value.checkInteger,
    value.optional "log_level" usual.logLevel Value.checkText with
  | .ok maxSizeKb, .ok rulesetPath, .ok engineCommand, .ok engineTimeout,
      .ok maxWarningsShown, .ok logLevel =>
    .ok
      { maxSizeKb, rulesetPath, engineCommand, engineTimeout, maxWarningsShown, logLevel }
  | maxSizeKb, rulesetPath, engineCommand, engineTimeout, maxWarningsShown, logLevel =>
    .error
      (maxSizeKb.errors ++ rulesetPath.errors ++ engineCommand.errors ++
        engineTimeout.errors ++ maxWarningsShown.errors ++ logLevel.errors)

/-- The ruleset of the settings, given where the packaged one is. -/
def ruleset
    (settings : Settings)
    (packaged : Path) :
    Path :=
  match settings.rulesetPath with
  | none | some [] => packaged
  | some path => Path.ofText path

end Settings

end OpenApiGate
