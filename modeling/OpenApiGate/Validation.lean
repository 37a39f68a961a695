import OpenApiGate.Decimal.Reading
import OpenApiGate.Json.Value
import OpenApiGate.Verdict

/-!
# Validation

Findings, lists of findings and verdicts that come as JSON values are checked
field by field.  A failed check names the place of the field and the reason;
all failed checks are reported, in the order of the fields.
-/

namespace OpenApiGate

/-- Why a field is refused. -/
inductive FieldReason where
  | missing
  | frozen
  | notObject
  | notList
  | notText
  | notUnicode
  | notSeverity
  | notInteger
  | malformedInteger
  | oversizedInteger
  | fractionalInteger
  | infiniteInteger
  | notDouble
  | malformedDouble
  | notBool
  | malformedBool
deriving DecidableEq

/-- The word for a reason. -/
def FieldReason.word : FieldReason → Text
  | .missing => "missing"
  | .frozen => "frozen_instance"
  | .notObject => "model_type"
  | .notList => "list_type"
  | .notText => "string_type"
  | .notUnicode => "string_unicode"
  | .notSeverity => "enum"
  | .notInteger => "int_type"
  | .malformedInteger => "int_parsing"
  | .oversizedInteger => "int_parsing_size"
  | .fractionalInteger => "int_from_float"
  | .infiniteInteger => "finite_number"
  | .notDouble => "float_type"
  | .malformedDouble => "float_parsing"
  | .notBool => "bool_type"
  | .malformedBool => "bool_parsing"

/-- A failed check. -/
structure FieldError where
  /-- The names and indices that lead to the field. -/
  place : List Text
  reason : FieldReason
deriving DecidableEq

/-- The wording of a failed check. -/
def FieldError.message (error : FieldError) : Text :=
  Text.joined "." error.place ++ ":" ++ error.reason.word

/-- The wording of several failed checks. -/
def FieldError.messages (errors : List FieldError) : Text :=
  Text.joined "; " (errors.map FieldError.message)

/-- A value, or the checks that failed for it. -/
abbrev Checked (α : Type) := Except (List FieldError) α

namespace Checked

/-- The failed checks of a result. -/
def errors {α : Type} : Checked α → List FieldError
  | .ok _ => []
  | .error errors => errors

/-- One failed check at the place of the value itself. -/
def refuse {α : Type} (reason : FieldReason) : Checked α :=
  .error [⟨[], reason⟩]

/-- A result whose failed checks lie under a name or an index. -/
def under {α : Type} (part : Text) : Checked α → Checked α
  | .ok value => .ok value
  | .error errors => .error (errors.map fun error => ⟨part :: error.place, error.reason⟩)

/-- All results of a list, or all failed checks. -/
def all {α : Type} : List (Checked α) → Checked (List α)
  | [] => .ok []
  | result :: rest =>
    match result, all rest with
    | .ok value, .ok values => .ok (value :: values)
    | result, results => .error (result.errors ++ results.errors)

end Checked

namespace Json.Value

/-- A field that must be there. -/
def required
    {α : Type}
    (value : Value)
    (key : Text)
    (check : Value → Checked α) :
    Checked α :=
  Checked.under key ((value.get? key).elim (Checked.refuse .missing) check)

/-- A field with a value for its absence. -/
def optional
    {α : Type}
    (value : Value)
    (key : Text)
    (default : α)
    (check : Value → Checked α) :
    Checked α :=
  Checked.under key ((value.get? key).elim (.ok default) check)

/-- A field that may be null. -/
def nullable
    {α : Type}
    (check : Value → Checked α) :
    Value → Checked (Option α)
  | .null => .ok none
  | value => (check value).map some

/-- A check of a text that needs all its characters. -/
def checkUnicode
    {α : Type}
    (text : Text)
    (check : Text → Checked α) :
    Checked α :=
  if text.any CodePoint.isSurrogate then Checked.refuse .notUnicode else check text

/-- A text. -/
def checkText : Value → Checked Text
  | .string text => .ok text
  | _ => Checked.refuse .notText

/-- The word for a severity. -/
def checkSeverity : Value → Checked Severity
  | .string text =>
    checkUnicode text fun word =>
      if word = Severity.error.word then .ok .error
      else if word = Severity.warning.word then .ok .warning
      else Checked.refuse .notSeverity
  | _ => Checked.refuse .notSeverity

/-- Integers of 64 bits lie between this number and its negative. -/
def wordBound : Int := 0x8000000000000000

/-- The integer of a double without a fraction, if it fits into 64 bits. -/
def checkWholeDouble (number : Float) : Checked Int :=
  if !number.isFinite then Checked.refuse .infiniteInteger
  else
    match Decimal.wholeValue? number with
    | none => Checked.refuse .fractionalInteger
    | some whole =>
      if -wordBound < whole && whole < wordBound then .ok whole
      else Checked.refuse .oversizedInteger

/-- An integer, or a truth value, double or text that stands for one. -/
def checkInteger : Value → Checked Int
  | .integer value => .ok value
  | .bool value => .ok value.toNat
  | .double number => checkWholeDouble number
  | .string text =>
    checkUnicode text fun spelled =>
      match Decimal.settingInteger spelled with
      | .ok value => .ok value
      | .error .malformed => Checked.refuse .malformedInteger
      | .error .tooLong => Checked.refuse .oversizedInteger
  | _ => Checked.refuse .notInteger

/-- A double, or a truth value, integer or text that stands for one. -/
def checkDouble : Value → Checked Float
  | .double number => .ok number
  | .bool value => .ok (Float.ofNat value.toNat)
  | .integer value =>
    let number := Float.ofInt value
    if number.isFinite then .ok number else Checked.refuse .notDouble
  | .string text =>
    checkUnicode text fun spelled =>
      match Decimal.settingDouble? spelled with
      | some number => .ok number
      | none => Checked.refuse .malformedDouble
  | _ => Checked.refuse .notDouble

/-- Words for true and for false. -/
def boolWords : List (String × Bool) :=
  [("1", true), ("on", true), ("t", true), ("true", true), ("y", true), ("yes", true),
    ("0", false), ("off", false), ("f", false), ("false", false), ("n", false), ("no", false)]

/-- The truth value of zero or one. -/
def checkBit (number : Int) : Checked Bool :=
  if number = 0 then .ok false
  else if number = 1 then .ok true
  else Checked.refuse .malformedBool

/-- A truth value, or a number or a word that stands for one. -/
def checkBool : Value → Checked Bool
  | .bool value => .ok value
  | .integer value =>
    if -wordBound ≤ value && value < wordBound then checkBit value else Checked.refuse .notBool
  | .double number =>
    match checkWholeDouble number with
    | .ok whole => checkBit whole
    | .error _ => Checked.refuse .notBool
  | .string text =>
    checkUnicode text fun spelled =>
      let word := spelled.map Decimal.asciiLower
      match boolWords.find? fun (known, _) => word = Text.ofString known with
      | some (_, value) => .ok value
      | none => Checked.refuse .malformedBool
  | _ => Checked.refuse .notBool

/-- A list whose items pass a check. -/
def checkList
    {α : Type}
    (check : Value → Checked α) :
    Value → Checked (List α)
  | .array items =>
    Checked.all (items.mapIdx fun index item => Checked.under (Text.ofNat index) (check item))
  | _ => Checked.refuse .notList

end Json.Value

open Json (Value)

/-- The finding that a value describes. -/
def Finding.ofValue (value : Value) : Checked Finding :=
  if !value.isObject then Checked.refuse .notObject
  else
    match
      value.optional "path" [] Value.checkText,
      value.required "message" Value.checkText,
      value.required "severity" Value.checkSeverity,
      value.optional "code" none (Value.nullable Value.checkText),
      value.optional "line" none (Value.nullable Value.checkInteger) with
    | .ok path, .ok message, .ok severity, .ok code, .ok line =>
      .ok ⟨path, message, severity, code, line⟩
    | path, message, severity, code, line =>
      .error
        (path.errors ++ message.errors ++ severity.errors ++ code.errors ++ line.errors)

/-- The findings that a value describes. -/
def Findings.ofValue (value : Value) : Checked Findings :=
  if !value.isObject then Checked.refuse .notObject
  else
    match
      value.optional "errors" [] (Value.checkList Finding.ofValue),
      value.optional "warnings" [] (Value.checkList Finding.ofValue) with
    | .ok errors, .ok warnings => .ok ⟨errors, warnings⟩
    | errors, warnings => .error (errors.errors ++ warnings.errors)

/-- The verdict that a value describes. -/
def Verdict.ofValue (value : Value) : Checked Verdict :=
  if !value.isObject then Checked.refuse .notObject
  else
    match
      value.required "success" Value.checkBool,
      value.optional "fatal" none (Value.nullable Value.checkText),
      value.optional "size_kb" none (Value.nullable Value.checkDouble),
      value.optional "errors" [] (Value.checkList Finding.ofValue),
      value.optional "warnings" [] (Value.checkList Finding.ofValue) with
    | .ok success, .ok fatal, .ok sizeKb, .ok errors, .ok warnings =>
      .ok ⟨success, fatal, sizeKb, errors, warnings⟩
    | success, fatal, sizeKb, errors, warnings =>
      .error
        (success.errors ++ fatal.errors ++ sizeKb.errors ++ errors.errors ++ warnings.errors)

end OpenApiGate
