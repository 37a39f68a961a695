import Mathlib.Data.List.Forall2
import OpenApiGate.Proofs.Incompatibilities
import OpenApiGate.Proofs.Linting
import OpenApiGate.Proofs.ReadingBack

/-!
# What becomes of each item of the output

The items of the output that have severity 0 become the errors, and those that have
severity 1 the warnings, one finding for each item and in the order of the array.
All other items become nothing.  Severities are compared as numbers: a double or a
truth value may be one.

The parts of an item are of any type.  What a finding takes from them is stated
here part by part, without following the reader.
-/

namespace OpenApiGate

namespace Findings

/-- The findings of two stages, those of the first in front. -/
def followedBy (first second : Findings) : Findings :=
  ⟨first.errors ++ second.errors, first.warnings ++ second.warnings⟩

theorem followedBy_addFirst
    (first second : Findings)
    (severity : Severity)
    (finding : Finding) :
    (first.addFirst severity finding).followedBy second =
      (first.followedBy second).addFirst severity finding := by
  cases severity with
  | error => rfl
  | warning => rfl

theorem list_addFirst_same
    (findings : Findings)
    (severity : Severity)
    (finding : Finding) :
    (findings.addFirst severity finding).list severity = finding :: findings.list severity := by
  cases severity with
  | error => rfl
  | warning => rfl

theorem list_addFirst_other
    (findings : Findings)
    {severity other : Severity}
    (different : other ≠ severity)
    (finding : Finding) :
    (findings.addFirst severity finding).list other = findings.list other := by
  cases severity with
  | error =>
    cases other with
    | error => exact absurd rfl different
    | warning => rfl
  | warning =>
    cases other with
    | error => rfl
    | warning => exact absurd rfl different

end Findings

namespace LinterOutput

open Json (Value)
open Fallible
open Float.Model (UnpackedFloat)

/-! ## Severities -/

/-- The number that stands for a severity in the output. -/
def severityNumber : Severity → Nat
  | .error => 0
  | .warning => 1

/-- A value is equal to a natural number; a truth value counts as zero or one. -/
inductive Amounts (number : Nat) : Value → Prop where
  | bool
      {flag : Bool}
      (same : flag.toNat = number) :
      Amounts number (.bool flag)
  | integer : Amounts number (.integer number)
  | double
      {value : Float}
      (same : (value == Float.ofNat number) = true) :
      Amounts number (.double value)

/-- An item has a severity that is equal to a number. -/
def HasSeverity (number : Nat) (item : Value) : Prop :=
  ∃ severity, item.get? "severity" = some severity ∧ Amounts number severity

theorem equalsNumber_iff (number : Nat) (value : Value) :
    value.equalsNumber number = true ↔ Amounts number value := by
  constructor
  · intro equals
    cases value with
    | bool flag => exact .bool (by simpa [Value.equalsNumber] using equals)
    | integer other =>
        have same : other = number := by simpa [Value.equalsNumber] using equals
        exact same ▸ .integer
    | double other => exact .double equals
    | _ => cases equals
  · rintro (same | _ | same)
    · simpa [Value.equalsNumber] using same
    · simp [Value.equalsNumber]
    · exact same

theorem any_equalsNumber_iff (number : Nat) (item : Value) :
    (item.get? "severity").any (Value.equalsNumber number) = true ↔
      HasSeverity number item := by
  unfold HasSeverity
  cases item.get? "severity" with
  | none => simp
  | some severity => simp [equalsNumber_iff]

instance (number : Nat) : DecidablePred (HasSeverity number) :=
  fun item => decidable_of_decidable_of_iff (any_equalsNumber_iff number item)

/-- Only the two zeros among the doubles are equal to zero. -/
theorem unpack_of_equals_zero
    {value : Float}
    (equals : (value == Float.ofNat 0) = true) :
    ∃ sign, value.toModel.unpack = .zero sign := by
  have compared :
      (value.toModel.unpack.compare (.zero .positive) == some .eq) = true := equals
  cases unpacked : value.toModel.unpack with
  | zero sign => exact ⟨sign, rfl⟩
  | notANumber => rw [unpacked] at compared; cases compared
  | infinity sign => rw [unpacked] at compared; cases sign <;> cases compared
  | finite sign mantissa exponent positive =>
      rw [unpacked] at compared
      cases sign <;> cases compared

theorem not_equals_one_of_unpack
    {value : Float}
    {sign : UnpackedFloat.Sign}
    (unpacked : value.toModel.unpack = .zero sign) :
    (value == Float.ofNat 1) = false := by
  show (value.toModel.unpack.compare (Float.ofNat 1).toModel.unpack == some .eq) = false
  rw [unpacked]
  rfl

/-- No value is equal to zero and to one. -/
theorem Amounts.not_one_of_zero
    {value : Value}
    (zero : Amounts 0 value) :
    ¬ Amounts 1 value := by
  rintro (same | _ | same)
  · rcases zero with zero | _ | _
    cases zero.symm.trans same
  · cases zero
  · rcases zero with _ | _ | zero
    rcases unpack_of_equals_zero zero with ⟨sign, unpacked⟩
    cases (not_equals_one_of_unpack unpacked).symm.trans same

theorem HasSeverity.not_one_of_zero
    {item : Value}
    (zero : HasSeverity 0 item) :
    ¬ HasSeverity 1 item := by
  rcases zero with ⟨severity, given, isZero⟩
  rintro ⟨same, sameGiven, isOne⟩
  cases given.symm.trans sameGiven
  exact isZero.not_one_of_zero isOne

/-- An item is reported with a severity exactly if it has the number of the severity. -/
theorem reportedSeverity?_eq_some_iff
    (item : Value)
    (severity : Severity) :
    reportedSeverity? item = some severity ↔ HasSeverity (severityNumber severity) item := by
  unfold reportedSeverity?
  simp only [any_equalsNumber_iff]
  cases severity with
  | error =>
      by_cases zero : HasSeverity 0 item
      · simp [severityNumber, zero]
      · by_cases one : HasSeverity 1 item <;> simp [severityNumber, zero, one]
  | warning =>
      by_cases zero : HasSeverity 0 item
      · simp [severityNumber, zero, zero.not_one_of_zero]
      · by_cases one : HasSeverity 1 item <;> simp [severityNumber, zero, one]

/-! ## What a finding takes from an item -/

/-- The path of an item is a list, or there is none. -/
def HasListPath (item : Value) : Prop :=
  item.get? "path" = none ∨ item.get? "path" = some .null ∨
    ∃ segments, item.get? "path" = some (.array segments)

/-- A value stands for the line at which the range of an item starts. -/
def GivesStart (item place : Value) : Prop :=
  ∃ range start,
    item.get? "range" = some (.object range) ∧
      (Value.object range).get? "start" = some (.object start) ∧
      (Value.object start).get? "line" = some place

/-- The range of an item starts at a line; a truth value counts as zero or one. -/
def StartsAt (item : Value) (line : Int) : Prop :=
  ∃ place, GivesStart item place ∧
    (place = .integer line ∨ ∃ flag, place = .bool flag ∧ line = flag.toNat)

/-- A finding is what an item says, reported with a severity. -/
structure Describes
    (severity : Severity)
    (item : Value)
    (finding : Finding) :
    Prop where
  reportedAs : finding.severity = severity
  segments :
    ∀ segments, item.get? "path" = some (.array segments) →
      finding.path = Text.joined "." (segments.map Value.display)
  noSegments :
    item.get? "path" = none ∨ item.get? "path" = some .null → finding.path = []
  message : ∀ value, item.get? "message" = some value → finding.message = value.display
  noMessage : item.get? "message" = none → finding.message = []
  code :
    ∀ text, finding.code = some text ↔
      ∃ value, item.get? "code" = some value ∧ value ≠ .null ∧ text = value.display
  line : ∀ line, finding.line = some line ↔ StartsAt item line

theorem ruleCode_eq_some_iff
    (item : Value)
    (text : Text) :
    ruleCode item = some text ↔
      ∃ value, item.get? "code" = some value ∧ value ≠ .null ∧ text = value.display := by
  unfold ruleCode
  split
  · next absent => simp [absent]
  · next isNull => simp [isNull]
  · next code notNull given =>
      rw [given]
      constructor
      · rintro ⟨⟩
        exact ⟨code, rfl, notNull, rfl⟩
      · rintro ⟨value, ⟨⟩, -, rfl⟩
        rfl

theorem givesStart_iff (item place : Value) :
    GivesStart item place ↔
      ((item.object? "range").bind (Value.object? · "start")).bind (Value.get? · "line") =
        some place := by
  simp only [Option.bind_eq_some_iff, Compatibility.object?_eq_some_iff]
  constructor
  · rintro ⟨range, start, ranged, started, placed⟩
    exact ⟨.object start, ⟨.object range, ⟨ranged, rfl⟩, started, rfl⟩, placed⟩
  · rintro ⟨start, ⟨range, ⟨ranged, isRange⟩, started, isStart⟩, placed⟩
    cases range with
    | object range =>
        cases start with
        | object start => exact ⟨range, start, ranged, started, placed⟩
        | _ => cases isStart
    | _ => cases isRange

theorem startLine_eq_some_iff
    (item : Value)
    (line : Int) :
    startLine item = some line ↔ StartsAt item line := by
  simp only [startLine, StartsAt, givesStart_iff]
  generalize ((item.object? "range").bind (Value.object? · "start")).bind (Value.get? · "line") =
    place
  cases place with
  | none => simp
  | some place =>
      cases place with
      | integer number => simp [eq_comm]
      | bool flag => cases flag <;> simp [eq_comm]
      | _ => simp

theorem segments_of_hasListPath
    {item : Value}
    (path : HasListPath item) :
    ∃ parts, segments ((item.get? "path").getD .null) = .ok parts ∧
      (∀ items, item.get? "path" = some (.array items) → parts = items.map Value.display) ∧
      (item.get? "path" = none ∨ item.get? "path" = some .null → parts = []) := by
  rcases path with absent | isNull | ⟨items, given⟩
  · exact ⟨[], by rw [absent]; rfl, by simp [absent], fun _ => rfl⟩
  · exact ⟨[], by rw [isNull]; rfl, by simp [isNull], fun _ => rfl⟩
  · refine ⟨items.map Value.display, by rw [given]; rfl, ?_, by simp [given]⟩
    rintro others same
    cases given.symm.trans same
    rfl

/-- An item with a list for its path, or with none, has a finding that describes it. -/
theorem exists_describes
    {item : Value}
    (severity : Severity)
    (path : HasListPath item) :
    ∃ finding, findingOf severity item = .ok finding ∧ Describes severity item finding := by
  rcases segments_of_hasListPath path with ⟨parts, segmented, displayed, empty⟩
  refine ⟨_, map_eq_ok_iff.mpr ⟨parts, segmented, rfl⟩, ?_⟩
  exact
    { reportedAs := rfl
      segments := by
        intro items given
        rw [displayed items given]
      noSegments := by
        intro none
        rw [empty none]
        rfl
      message := by
        intro value given
        simp [messageOf, given]
      noMessage := by
        intro absent
        simp [messageOf, absent]
      code := ruleCode_eq_some_iff item
      line := startLine_eq_some_iff item }

/-! ## The items of an array -/

/-- Findings are what the items of an array say, severity by severity and in order. -/
def Partitions (items : List Value) (found : Findings) : Prop :=
  ∀ severity : Severity,
    List.Forall₂ (Describes severity)
      (items.filter fun item => HasSeverity (severityNumber severity) item)
      (found.list severity)

/-- Each item that is to be reported has a list for its path, or none. -/
def HaveListPaths (items : List Value) : Prop :=
  ∀ item ∈ items, HasSeverity 0 item ∨ HasSeverity 1 item → HasListPath item

theorem Partitions.skip
    {item : Value}
    {items : List Value}
    {found : Findings}
    (partitions : Partitions items found)
    (omitted : reportedSeverity? item = none) :
    Partitions (item :: items) found := by
  intro severity
  have other : ¬ HasSeverity (severityNumber severity) item := by
    rw [← reportedSeverity?_eq_some_iff, omitted]
    exact (Option.some_ne_none severity).symm
  rw [List.filter_cons_of_neg (by simpa using other)]
  exact partitions severity

theorem Partitions.add
    {item : Value}
    {items : List Value}
    {found : Findings}
    {severity : Severity}
    {finding : Finding}
    (partitions : Partitions items found)
    (reported : reportedSeverity? item = some severity)
    (describes : Describes severity item finding) :
    Partitions (item :: items) (found.addFirst severity finding) := by
  intro other
  by_cases same : other = severity
  · subst same
    have has := (reportedSeverity?_eq_some_iff item other).mp reported
    rw [List.filter_cons_of_pos (by simpa using has), Findings.list_addFirst_same]
    exact .cons describes (partitions other)
  · have hasNot : ¬ HasSeverity (severityNumber other) item := by
      rw [← reportedSeverity?_eq_some_iff, reported]
      exact fun equal => same (Option.some.inj equal).symm
    rw [List.filter_cons_of_neg (by simpa using hasNot), Findings.list_addFirst_other _ same]
    exact partitions other

theorem hasListPath_of_reported
    {item : Value}
    {severity : Severity}
    (path : HasSeverity 0 item ∨ HasSeverity 1 item → HasListPath item)
    (reported : reportedSeverity? item = some severity) :
    HasListPath item := by
  have has := (reportedSeverity?_eq_some_iff item severity).mp reported
  cases severity with
  | error => exact path (Or.inl has)
  | warning => exact path (Or.inr has)

/-- The findings of an array are made item by item. -/
theorem exists_partitions
    {items : List Value}
    (paths : HaveListPaths items) :
    ∃ found, findingsOf items = .ok found ∧ Partitions items found := by
  induction items with
  | nil =>
      refine ⟨.empty, rfl, fun severity => ?_⟩
      cases severity <;> exact .nil
  | cons item rest ih =>
      rcases ih fun other within => paths other (List.mem_cons_of_mem item within) with
        ⟨others, othersRead, partitions⟩
      cases reported : reportedSeverity? item with
      | none =>
          exact
            ⟨others, by rw [findingsOf_cons_of_none reported, othersRead],
              partitions.skip reported⟩
      | some severity =>
          have path := hasListPath_of_reported (paths item List.mem_cons_self) reported
          rcases exists_describes severity path with ⟨finding, made, describes⟩
          refine ⟨others.addFirst severity finding, ?_, partitions.add reported describes⟩
          rw [findingsOf_cons_of_some reported, made, othersRead]
          rfl

/-- The findings of two arrays, one behind the other, are those of the first and the second. -/
theorem findingsOf_append
    {items others : List Value}
    {found more : Findings}
    (read : findingsOf items = .ok found)
    (othersRead : findingsOf others = .ok more) :
    findingsOf (items ++ others) = .ok (found.followedBy more) := by
  induction items generalizing found with
  | nil =>
      cases read
      exact othersRead
  | cons item rest ih =>
      rw [List.cons_append]
      cases reported : reportedSeverity? item with
      | none =>
          rw [findingsOf_cons_of_none reported] at read ⊢
          exact ih read
      | some severity =>
          rw [findingsOf_cons_of_some reported] at read ⊢
          rcases bind_eq_ok_iff.mp read with ⟨finding, made, restRead⟩
          rcases map_eq_ok_iff.mp restRead with ⟨before, given, rfl⟩
          rw [made, Findings.followedBy_addFirst]
          show (findingsOf (rest ++ others)).map _ = _
          rw [ih given]
          rfl

/-! ## The output -/

theorem findings_of_decoded
    {output : Text}
    {items : List Value}
    (decoded : Json.decode output = .ok (.array items)) :
    findings output = findingsOf items := by
  have notBlank : ¬ output.trim.isEmpty = true := by
    intro blank
    have blanks := Text.isBlank_of_trim_eq_nil (List.isEmpty_iff.mp blank)
    rcases Json.decode_of_isBlank blanks with ⟨position, noValue⟩
    cases noValue.symm.trans decoded
  rw [findings, if_neg notBlank, decoded]

theorem findings_of_isBlank
    {output : Text}
    (blank : ∀ point ∈ output, point.isBlank = true) :
    findings output = .ok .empty := by
  apply findings_of_isEmpty
  have nothingLeft := List.dropWhile_eq_nil_iff.mpr blank
  rw [Text.trim, Text.trimWhile, nothingLeft]
  rfl

/--
Output that is an array gives one finding for each item of severity 0 or 1, each in
the list for its severity and in order.  So the findings of an array that consists
of two others are theirs, one behind the other.  Blank output gives none.
-/
theorem output_is_partitioned_in_order
    {output : Text}
    {items : List Value}
    (decoded : Json.decode output = .ok (.array items))
    (paths : HaveListPaths items) :
    ∃ found, findings output = .ok found ∧ Partitions items found ∧
      (∀ second whole others,
        Json.decode second = .ok (.array others) → HaveListPaths others →
          Json.decode whole = .ok (.array (items ++ others)) →
          ∃ more, findings second = .ok more ∧
            findings whole = .ok (found.followedBy more)) ∧
      ∀ blank : Text, (∀ point ∈ blank, point.isBlank = true) →
        findings blank = .ok .empty := by
  rcases exists_partitions paths with ⟨found, read, partitions⟩
  refine ⟨found, by rw [findings_of_decoded decoded, read], partitions, ?_, ?_⟩
  · intro second whole others secondDecoded othersPaths wholeDecoded
    rcases exists_partitions othersPaths with ⟨more, othersRead, -⟩
    refine ⟨more, by rw [findings_of_decoded secondDecoded, othersRead], ?_⟩
    rw [findings_of_decoded wholeDecoded, findingsOf_append read othersRead]
  · exact fun blank => findings_of_isBlank

/-- A number, which is no result. -/
def sevenItem : Value :=
  .integer 7

/-- A result whose severity is false, which counts as zero. -/
def falseItem : Value :=
  .object [("severity", .bool false), ("path", .array [.string "a", .integer 0])]

/-- A result whose severity is true, which counts as one. -/
def trueItem : Value :=
  .object [("severity", .bool true), ("message", .null)]

theorem legible_items :
    ∀ item ∈ [sevenItem, falseItem, trueItem], item.Legible 989 := by
  have path : (Value.array [.string "a", .integer 0]).Legible 988 :=
    .array (List.forall_mem_cons.mpr
      ⟨.string _ _, List.forall_mem_singleton.mpr (.integer _ (by decide))⟩)
  have isFalse : falseItem.Legible 989 :=
    .object (List.forall_mem_cons.mpr ⟨.bool _ _, List.forall_mem_singleton.mpr path⟩)
      (by decide)
  have isTrue : trueItem.Legible 989 :=
    .object (List.forall_mem_cons.mpr ⟨.bool _ _, List.forall_mem_singleton.mpr (.null _)⟩)
      (by decide)
  refine List.forall_mem_cons.mpr ⟨.integer _ (by decide), ?_⟩
  exact List.forall_mem_cons.mpr ⟨isFalse, List.forall_mem_singleton.mpr isTrue⟩

theorem decode_written_items
    (items : List Value)
    (within : items ⊆ [sevenItem, falseItem, trueItem])
    (same : Value.readBackItems items = items) :
    Json.decode ((Value.array items).written 0) = .ok (.array items) := by
  have legible : (Value.array items).Legible Json.nestingLimit :=
    .array fun item member => legible_items item (within member)
  rw [Json.decode_written legible, Value.readBack, same]

theorem truth_values_are_severities :
    ∃ found more,
      findings ((Value.array [sevenItem, falseItem]).written 0) = .ok found ∧
        found = ⟨[⟨"a.0", [], .error, none, none⟩], []⟩ ∧
        Partitions [sevenItem, falseItem] found ∧
        more = ⟨[], [⟨[], "None", .warning, none, none⟩]⟩ ∧
        findings ((Value.array [sevenItem, falseItem, trueItem]).written 0) =
          .ok (found.followedBy more) := by
  have paths : HaveListPaths [sevenItem, falseItem] := by
    refine List.forall_mem_cons.mpr ⟨fun _ => Or.inl rfl, ?_⟩
    exact List.forall_mem_singleton.mpr fun _ => Or.inr (Or.inr ⟨_, rfl⟩)
  have otherPaths : HaveListPaths [trueItem] :=
    List.forall_mem_singleton.mpr fun _ => Or.inl rfl
  have first := decode_written_items [sevenItem, falseItem] (by simp) rfl
  have second := decode_written_items [trueItem] (by simp) rfl
  have whole := decode_written_items [sevenItem, falseItem, trueItem] (by simp) rfl
  obtain ⟨found, read, partitions, joined, -⟩ := output_is_partitioned_in_order first paths
  obtain ⟨more, secondRead, wholeRead⟩ := joined _ _ _ second otherPaths whole
  have foundSame := (findings_of_decoded first).symm.trans read
  have moreSame := (findings_of_decoded second).symm.trans secondRead
  cases foundSame
  cases moreSame
  exact ⟨_, _, read, rfl, partitions, rfl, wholeRead⟩

end LinterOutput

end OpenApiGate
