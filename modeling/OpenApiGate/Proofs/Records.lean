import OpenApiGate.Proofs.Printing
import OpenApiGate.Proofs.ReadingBack
import OpenApiGate.Report.Record

/-!
# What a report to process tells its reader

A reader decodes the report on a verdict and looks up what it holds by key.
It finds each text, each line and each finding as the verdict has them, in the
order of the verdict; an unknown size and one that is no number are null.
-/

namespace OpenApiGate

open Json (Value)

/-! ## What a decoded report says -/

/-- An absent text is recorded as null, and any other as itself. -/
def RecordsText : Option Text → Value → Prop
  | none, value => value = .null
  | some text, value => value = .string text

/-- An absent line is recorded as null, and any other as the same integer. -/
def RecordsLine : Option Int → Value → Prop
  | none, value => value = .null
  | some line, value => value = .integer line

/-- A finite size is recorded as a number, and any other size as null. -/
def RecordsSize : Option Float → Value → Prop
  | none, value => value = .null
  | some size, value =>
    if size.isFinite then ∃ number, value = .double number else value = .null

/-- An object whose members have the given keys in this order. -/
def HasKeys (keys : List Text) (value : Value) : Prop :=
  ∃ members, value = .object members ∧ members.map Prod.fst = keys

/-- A value holds under a key what it should. -/
def HoldsAt (value : Value) (key : Text) (isRight : Value → Prop) : Prop :=
  ∃ held, value.get? key = some held ∧ isRight held

/-- A value records a finding. -/
structure Finding.RecordedAs (finding : Finding) (value : Value) : Prop where
  keys : HasKeys ["path", "message", "severity", "code", "line"] value
  path : HoldsAt value "path" (· = .string finding.path)
  message : HoldsAt value "message" (· = .string finding.message)
  severity : HoldsAt value "severity" (· = .string finding.severity.word)
  code : HoldsAt value "code" (RecordsText finding.code)
  line : HoldsAt value "line" (RecordsLine finding.line)

/-- A value records findings: it is an array with one item for each of them, in their order. -/
def RecordsFindings (findings : List Finding) (value : Value) : Prop :=
  ∃ items, value = .array items ∧ List.Forall₂ Finding.RecordedAs findings items

/-- A value records a verdict. -/
structure Verdict.RecordedAs (verdict : Verdict) (value : Value) : Prop where
  keys : HasKeys ["success", "fatal", "size_kb", "errors", "warnings"] value
  success : HoldsAt value "success" (· = .bool verdict.success)
  fatal : HoldsAt value "fatal" (RecordsText verdict.fatal)
  size : HoldsAt value "size_kb" (RecordsSize verdict.sizeKb)
  errors : HoldsAt value "errors" (RecordsFindings verdict.errors)
  warnings : HoldsAt value "warnings" (RecordsFindings verdict.warnings)

/-! ## The records of findings and verdicts -/

/-- The line of a finding has few enough digits for the decoder. -/
def Finding.HasShortLine (finding : Finding) : Prop :=
  ∀ line ∈ finding.line, (Decimal.digitsOf line.natAbs).length ≤ 4300

instance (finding : Finding) : Decidable finding.HasShortLine :=
  inferInstanceAs (Decidable (∀ line ∈ finding.line, _ ≤ 4300))

theorem Report.legible_optionalText (text : Option Text) (depth : Nat) :
    Value.Legible depth (Report.optionalText text) := by
  cases text with
  | none => exact .null depth
  | some text => exact .string depth text

theorem Report.recordsText_readBack (text : Option Text) :
    RecordsText text (Report.optionalText text).readBack := by
  cases text <;> rfl

namespace Finding

theorem legible_toValue
    {finding : Finding}
    (short : finding.HasShortLine)
    (depth : Nat) :
    Value.Legible (depth + 1) finding.toValue := by
  have line : Value.Legible depth (finding.line.elim .null .integer) := by
    cases present : finding.line with
    | none => exact .null depth
    | some line => exact .integer depth (short line present)
  apply Value.Legible.object
  · intro member within
    simp only [List.mem_cons, List.not_mem_nil, or_false] at within
    rcases within with rfl | rfl | rfl | rfl | rfl
    · exact .string depth finding.path
    · exact .string depth finding.message
    · exact .string depth finding.severity.word
    · exact Report.legible_optionalText finding.code depth
    · exact line
  · show (["path", "message", "severity", "code", "line"] : List Text).Nodup
    decide

theorem recordedAs_readBack (finding : Finding) :
    finding.RecordedAs finding.toValue.readBack where
  keys := ⟨_, rfl, rfl⟩
  path := ⟨_, rfl, rfl⟩
  message := ⟨_, rfl, rfl⟩
  severity := ⟨_, rfl, rfl⟩
  code := ⟨_, rfl, Report.recordsText_readBack finding.code⟩
  line := ⟨_, rfl, by cases finding.line <;> rfl⟩

theorem legible_array
    {findings : List Finding}
    (short : ∀ finding ∈ findings, finding.HasShortLine)
    (depth : Nat) :
    Value.Legible (depth + 2) (.array (findings.map toValue)) := by
  apply Value.Legible.array
  intro item member
  rcases List.mem_map.mp member with ⟨finding, within, rfl⟩
  exact legible_toValue (short finding within) depth

theorem recordsFindings_readBack (findings : List Finding) :
    RecordsFindings findings (Value.array (findings.map toValue)).readBack := by
  refine ⟨_, rfl, ?_⟩
  induction findings with
  | nil => exact .nil
  | cons finding more ih => exact .cons finding.recordedAs_readBack ih

end Finding

theorem recordsSize_readBack (size : Option Float) :
    RecordsSize size (size.elim Value.null Value.double).readBack := by
  cases size with
  | none => rfl
  | some size =>
      cases finite : size.isFinite with
      | true =>
          rw [RecordsSize, if_pos finite]
          exact Json.doubleReadBack_of_isFinite finite
      | false =>
          rw [RecordsSize, if_neg (Bool.eq_false_iff.mp finite)]
          exact Json.doubleReadBack_of_not_isFinite finite

namespace Verdict

variable {verdict : Verdict}

theorem legible_toValue
    (short : ∀ finding ∈ verdict.errors ++ verdict.warnings, finding.HasShortLine)
    (depth : Nat) :
    Value.Legible (depth + 3) verdict.toValue := by
  have size : Value.Legible (depth + 2) (verdict.sizeKb.elim .null .double) := by
    cases verdict.sizeKb with
    | none => exact .null (depth + 2)
    | some size => exact .double (depth + 2) size
  apply Value.Legible.object
  · intro member within
    simp only [List.mem_cons, List.not_mem_nil, or_false] at within
    rcases within with rfl | rfl | rfl | rfl | rfl
    · exact .bool (depth + 2) verdict.success
    · exact Report.legible_optionalText verdict.fatal (depth + 2)
    · exact size
    · apply Finding.legible_array
      exact fun finding within => short finding (List.mem_append_left verdict.warnings within)
    · apply Finding.legible_array
      exact fun finding within => short finding (List.mem_append_right verdict.errors within)
  · show (["success", "fatal", "size_kb", "errors", "warnings"] : List Text).Nodup
    decide

theorem recordedAs_readBack (verdict : Verdict) :
    verdict.RecordedAs verdict.toValue.readBack where
  keys := ⟨_, rfl, rfl⟩
  success := ⟨_, rfl, rfl⟩
  fatal := ⟨_, rfl, Report.recordsText_readBack verdict.fatal⟩
  size := ⟨_, rfl, recordsSize_readBack verdict.sizeKb⟩
  errors := ⟨_, rfl, Finding.recordsFindings_readBack verdict.errors⟩
  warnings := ⟨_, rfl, Finding.recordsFindings_readBack verdict.warnings⟩

end Verdict

/--
The report to process on a verdict without surrogates is written, and its
reader decodes it to a record of the verdict: the same texts, lines and findings
in the same order, and the size unless it is no finite number.
-/
theorem Report.json_decodes_to_record
    {verdict : Verdict}
    (encodable : ∀ text ∈ verdict.texts, text.surrogates = [])
    (short : ∀ finding ∈ verdict.errors ++ verdict.warnings, finding.HasShortLine) :
    ∃ report value,
      Report.json verdict = .ok report ∧
        Json.decode report = .ok value ∧ verdict.RecordedAs value := by
  have unrefused : verdict.texts.findSome? Utf8.unencodable? = none := by
    rw [List.findSome?_eq_none_iff]
    intro text member
    exact (Text.unencodable?_eq_none_iff text).mpr (encodable text member)
  have written : Report.json verdict = .ok (verdict.toValue.written 0) := by
    rw [Report.json, unrefused]
  have decoded := Json.decode_written (verdict.legible_toValue short 987)
  exact ⟨_, _, written, decoded, verdict.recordedAs_readBack⟩

/--
A verdict of a size that is no number, whose findings hold a quotation mark, a
backslash, control characters, a character beyond the first plane and a
negative line.
-/
def crookedVerdict : Verdict where
  success := false
  fatal := none
  sizeKb := some (0.0 / 0.0)
  errors :=
    [⟨"paths.\"/a\\b\"", "\t\n\u0001 😀", .error, some "", some (-18446744073709551616)⟩]
  warnings := [.warning "" "é"]

theorem Report.crookedVerdict_decodes_to_record :
    ∃ report value,
      Report.json crookedVerdict = .ok report ∧
        Json.decode report = .ok value ∧ crookedVerdict.RecordedAs value :=
  Report.json_decodes_to_record (by decide) (by decide)

end OpenApiGate
