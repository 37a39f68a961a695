import OpenApiGate.Files.Fault
import OpenApiGate.Json.DecodeError
import OpenApiGate.Text.Utf8
import OpenApiGate.Validation

/-!
# Failures

Each stage of a check has conditions that it foresees and turns into a verdict.
A failure is a condition that a stage does not foresee; it ends the check
without a verdict.
-/

namespace OpenApiGate

/-- A place that settings come from. -/
inductive SettingsSource where
  /-- The variables of the environment. -/
  | environment
  /-- The settings file in the working directory. -/
  | file
deriving DecidableEq

/-- The name of a source in messages. -/
def SettingsSource.name : SettingsSource → Text
  | .environment => "EnvSettingsSource"
  | .file => "DotEnvSettingsSource"

/-- What a limit is needed for. -/
inductive LimitUse where
  /-- A size is compared with it. -/
  | comparison
  /-- A report shows it. -/
  | report
deriving DecidableEq

/-- The wording for a limit that is needed and is not there. -/
def LimitUse.complaint : LimitUse → Text
  | .comparison => "'>' not supported between instances of 'float' and 'NoneType'"
  | .report => "unsupported format string passed to NoneType.__format__"

/-- A condition that ends a check without a verdict. -/
inductive Failure where
  /-- A path has more bytes than the file system takes. -/
  | pathTooLong (path : Text)
  /-- A path or a variable holds the code point zero. -/
  | holdsZero
  /-- A text cannot be spelled in UTF-8. -/
  | unencodable (error : Utf8.EncodeError)
  /-- Bytes do not spell a text. -/
  | undecodable (error : Utf8.DecodeError)
  /-- A text of digits is no integer. -/
  | integer (error : Decimal.IntegerError)
  /-- A JSON text is nested too deeply. -/
  | nestedTooDeeply (container : Json.Container)
  /-- A value of the named type has no parts. -/
  | notIterable (typeName : Text)
  /-- A limit is beyond all doubles. -/
  | limitTooLarge
  /-- There is no limit. -/
  | noLimit (use : LimitUse)
  /-- A verdict has no JSON report. -/
  | unwritableReport (error : Utf8.EncodeError)
  /-- A fault that no stage handles. -/
  | fault (fault : Fault)
  /-- The findings of an engine are refused. -/
  | invalidFindings (errors : List FieldError)
  /-- The values of the settings are refused. -/
  | invalidSettings (errors : List FieldError)
  /-- The engine command of a source is no JSON text. -/
  | malformedCommand (source : SettingsSource)
  /-- The name of a log threshold is not known. -/
  | unknownLevel (name : Text)

/-- The wording of a failure. -/
def Failure.message : Failure → Text
  | .pathTooLong path => "[Errno 36] File name too long: " ++ path.quoted
  | .holdsZero => "embedded null byte"
  | .unencodable error => error.message
  | .undecodable error => error.message
  | .integer error => error.message
  | .nestedTooDeeply container => (Json.DecodeError.nestedTooDeeply container).message
  | .notIterable typeName => "'" ++ typeName ++ "' object is not iterable"
  | .limitTooLarge => "int too large to convert to float"
  | .noLimit use => use.complaint
  | .unwritableReport error =>
    "Error serializing to JSON: UnicodeEncodeError: " ++ error.message
  | .fault cause => cause.message
  | .invalidFindings errors | .invalidSettings errors => FieldError.messages errors
  | .malformedCommand source =>
    "error parsing value for field \"engine_command\" from source \"" ++ source.name ++ "\""
  | .unknownLevel name => "Unknown level: " ++ name.quoted

/-- Why a stage ends without a result. -/
inductive Stop (ε : Type) where
  /-- For a condition that the stage foresees. -/
  | foreseen (error : ε)
  /-- For any other condition. -/
  | unforeseen (failure : Failure)

end OpenApiGate
