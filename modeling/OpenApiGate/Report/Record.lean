import OpenApiGate.Json.Writer
import OpenApiGate.Text.Utf8
import OpenApiGate.Verdict

/-!
# The report to process

A verdict as a JSON text.  JSON is written in UTF-8, which cannot spell a lone
surrogate, so a verdict that holds one has no such report.
-/

namespace OpenApiGate

open Json (Value)

/-- The value of a text that may be absent. -/
def Report.optionalText (text : Option Text) : Value :=
  text.elim .null .string

/-- A finding as a JSON value. -/
def Finding.toValue (finding : Finding) : Value :=
  .object
    [("path", .string finding.path),
      ("message", .string finding.message),
      ("severity", .string finding.severity.word),
      ("code", Report.optionalText finding.code),
      ("line", finding.line.elim .null .integer)]

/-- The texts of a finding, in the order of its fields. -/
def Finding.texts (finding : Finding) : List Text :=
  [finding.path, finding.message] ++ finding.code.toList

/-- A verdict as a JSON value. -/
def Verdict.toValue (verdict : Verdict) : Value :=
  .object
    [("success", .bool verdict.success),
      ("fatal", Report.optionalText verdict.fatal),
      ("size_kb", verdict.sizeKb.elim .null .double),
      ("errors", .array (verdict.errors.map Finding.toValue)),
      ("warnings", .array (verdict.warnings.map Finding.toValue))]

/-- The texts of a verdict, in the order of its fields. -/
def Verdict.texts (verdict : Verdict) : List Text :=
  verdict.fatal.toList ++ (verdict.errors ++ verdict.warnings).flatMap Finding.texts

/-- The JSON report on a verdict, or the first surrogate that keeps it from being written. -/
def Report.json (verdict : Verdict) : Except Utf8.EncodeError Text :=
  match verdict.texts.findSome? Utf8.unencodable? with
  | some error => .error error
  | none => .ok (verdict.toValue.written 0)

end OpenApiGate
