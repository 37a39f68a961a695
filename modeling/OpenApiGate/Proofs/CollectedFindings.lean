import Mathlib.Data.List.Induction
import OpenApiGate.Proofs.Fallible
import OpenApiGate.Session

/-!
# What a session collects

The findings of a session are a record of its additions.  An addition states a
finding if its arguments are a path, a message and at most a code; the first two
must be texts, and the code a text or null.  Otherwise it is refused and leaves
no trace.  No other call changes the record: findings cannot be written to, and
merging only reads them.

A name that starts with an underscore is no field of a finding.  An assignment to
it is passed over where it would be refused for a field.  Names that start with two
are no names of this kind: they belong to the object that carries the fields.
-/

namespace OpenApiGate

open Json (Value)

/-! ## Checks that succeed -/

namespace Checked

variable {α : Type}

@[simp]
theorem under_eq_ok_iff
    {part : Text}
    {result : Checked α}
    {value : α} :
    result.under part = .ok value ↔ result = .ok value := by
  cases result <;> simp [under]

@[simp]
theorem refuse_ne_ok
    {reason : FieldReason}
    {value : α} :
    refuse reason ≠ .ok value := by
  simp [refuse]

end Checked

namespace Json.Value

@[simp]
theorem checkText_eq_ok_iff
    {value : Value}
    {text : Text} :
    value.checkText = .ok text ↔ value = .string text := by
  cases value <;> simp [checkText]

@[simp]
theorem checkSeverity_word (severity : Severity) :
    checkSeverity (.string severity.word) = .ok severity := by
  cases severity <;> rfl

theorem required_eq_ok_iff
    {α : Type}
    {value : Value}
    {key : Text}
    {check : Value → Checked α}
    {result : α} :
    value.required key check = .ok result ↔
      ∃ field, value.get? key = some field ∧ check field = .ok result := by
  rw [required, Checked.under_eq_ok_iff]
  cases value.get? key <;> simp

theorem optional_eq_ok_iff
    {α : Type}
    {value : Value}
    {key : Text}
    {default : α}
    {check : Value → Checked α}
    {result : α} :
    value.optional key default check = .ok result ↔
      (value.get? key = none ∧ result = default) ∨
        ∃ field, value.get? key = some field ∧ check field = .ok result := by
  rw [optional, Checked.under_eq_ok_iff]
  cases value.get? key <;> simp [eq_comm]

end Json.Value

/-- A finding passes its check if all its fields pass theirs. -/
theorem Finding.ofValue_eq_ok_iff
    {value : Value}
    {finding : Finding} :
    Finding.ofValue value = .ok finding ↔
      value.isObject = true ∧
        value.optional "path" [] Value.checkText = .ok finding.path ∧
        value.required "message" Value.checkText = .ok finding.message ∧
        value.required "severity" Value.checkSeverity = .ok finding.severity ∧
        value.optional "code" none (Value.nullable Value.checkText) = .ok finding.code ∧
        value.optional "line" none (Value.nullable Value.checkInteger) = .ok finding.line := by
  unfold Finding.ofValue
  cases value.isObject with
  | false => simp
  | true =>
      rcases finding with ⟨path, message, severity, code, line⟩
      simp only [Bool.not_true, Bool.false_eq_true, if_false, true_and]
      split
      · next first second third fourth fifth =>
          simp [first, second, third, fourth, fifth]
      · next other =>
          simp only [reduceCtorEq, false_iff, not_and]
          intro first second third fourth fifth
          exact other _ _ _ _ _ first second third fourth fifth

namespace Session

/-! ## What an addition states -/

section Additions

/-- The text that an argument states. -/
def statedText? : Option Value → Option Text
  | some (.string text) => some text
  | _ => none

/-- The code that an argument states; one that is absent or null states that there is none. -/
def statedCode? : Option Value → Option (Option Text)
  | none => some none
  | some .null => some none
  | some (.string code) => some (some code)
  | some _ => none

/-- The finding that the arguments of an addition state, if they state one. -/
def statedFinding?
    (severity : Severity)
    (arguments : Json.Members) :
    Option Finding :=
  let names : List Text := ["path", "message", "code"]
  let given := Value.object arguments
  if ∀ member ∈ arguments, member.1 ∈ names then do
    let path ← statedText? (given.get? "path")
    let message ← statedText? (given.get? "message")
    let code ← statedCode? (given.get? "code")
    return ⟨path, message, severity, code, none⟩
  else none

variable
    {severity : Severity}
    {arguments : Json.Members}
    {finding : Finding}

theorem statedText?_eq_some_iff
    {argument : Option Value}
    {text : Text} :
    statedText? argument = some text ↔ argument = some (.string text) := by
  unfold statedText?
  split <;> simp_all

theorem statedCode?_eq_some_iff
    {value : Value}
    {code : Option Text} :
    statedCode? (value.get? "code") = some code ↔
      value.optional "code" none (Value.nullable Value.checkText) = .ok code := by
  rw [Value.optional_eq_ok_iff]
  cases value.get? "code" with
  | none => simp [statedCode?, eq_comm]
  | some field =>
      cases field <;>
        simp [statedCode?, Value.nullable, Fallible.map_eq_ok_iff]

theorem statedFinding?_eq_some_iff :
    statedFinding? severity arguments = some finding ↔
      (∀ member ∈ arguments, member.1 ∈ knownArguments) ∧
        (Value.object arguments).get? "path" = some (.string finding.path) ∧
        (Value.object arguments).get? "message" = some (.string finding.message) ∧
        severity = finding.severity ∧
        statedCode? ((Value.object arguments).get? "code") = some finding.code ∧
        finding.line = none := by
  rcases finding with ⟨path, message, stated, code, line⟩
  simp only [statedFinding?, Option.ite_none_right_eq_some, Option.bind_eq_bind,
    Option.bind_eq_some_iff, statedText?_eq_some_iff, Option.pure_def, Option.some.injEq,
    Finding.mk.injEq]
  constructor
  · rintro ⟨known, _, isPath, _, isMessage, _, isCode, rfl, rfl, rfl, rfl, rfl⟩
    exact ⟨known, isPath, isMessage, rfl, isCode, rfl⟩
  · rintro ⟨known, isPath, isMessage, rfl, isCode, rfl⟩
    exact ⟨known, _, isPath, _, isMessage, _, isCode, rfl, rfl, rfl, rfl, rfl⟩

theorem argumentError?_eq_none_iff :
    argumentError? arguments = none ↔
      (∀ member ∈ arguments, member.1 ∈ knownArguments) ∧
        ∀ name ∈ requiredArguments, (Value.object arguments).get? name ≠ none := by
  dsimp only [argumentError?]
  split
  · next error found =>
      rcases List.exists_of_findSome?_eq_some found with ⟨name, within, faulty⟩
      rcases List.mem_map.mp within with ⟨member, inside, rfl⟩
      refine iff_of_false (by simp) ?_
      rintro ⟨known, -⟩
      rw [if_pos (List.contains_iff_mem.mpr (known member inside))] at faulty
      cases faulty
  · next found =>
      have known : ∀ member ∈ arguments, member.1 ∈ knownArguments := by
        intro member within
        have faultless :=
          List.findSome?_eq_none_iff.mp found member.1 (List.mem_map_of_mem within)
        by_contra unknown
        rw [if_neg (mt List.contains_iff_mem.mp unknown)] at faultless
        split at faultless <;> cases faultless
      have missing :
          (requiredArguments.filter fun name => (arguments.lookup name).isNone).isEmpty = true ↔
            ∀ name ∈ requiredArguments, (Value.object arguments).get? name ≠ none := by
        rw [List.isEmpty_iff, List.filter_eq_nil_iff]
        exact forall₂_congr fun name _ => not_congr Option.isNone_iff_eq_none
      rw [← missing]
      constructor
      · intro complete
        refine ⟨known, ?_⟩
        by_contra lacking
        rw [if_neg lacking] at complete
        cases complete
      · rintro ⟨-, complete⟩
        exact if_pos complete

/-- The value that is checked for an addition. -/
def additionValue
    (severity : Severity)
    (arguments : Json.Members) :
    Value :=
  .object (("severity", .string severity.word) :: arguments)

theorem get?_additionValue
    {name : Text}
    (other : name ≠ "severity") :
    (additionValue severity arguments).get? name = (Value.object arguments).get? name := by
  simp [additionValue, Value.get?, Value.members, List.lookup_cons, beq_false_of_ne other]

theorem describedFinding_eq_ok_iff_checked :
    describedFinding severity arguments = .ok finding ↔
      argumentError? arguments = none ∧
        Finding.ofValue (additionValue severity arguments) = .ok finding := by
  unfold describedFinding
  cases argumentError? arguments with
  | some error => simp
  | none =>
      show (Finding.ofValue (additionValue severity arguments)).mapError _ = _ ↔ _
      cases Finding.ofValue (additionValue severity arguments) <;> simp [Except.mapError]

theorem get?_eq_none_of_known
    (known : ∀ member ∈ arguments, member.1 ∈ knownArguments)
    {name : Text}
    (unknown : name ∉ knownArguments) :
    (Value.object arguments).get? name = none := by
  apply List.lookup_eq_none_iff.mpr
  intro member within
  apply bne_iff_ne.mpr
  rintro rfl
  exact unknown (known member within)

/-- The fields that are checked for an addition, if there are no other arguments. -/
theorem ofValue_additionValue_eq_ok_iff
    (known : ∀ member ∈ arguments, member.1 ∈ knownArguments) :
    Finding.ofValue (additionValue severity arguments) = .ok finding ↔
      (((Value.object arguments).get? "path" = none ∧ finding.path = []) ∨
          (Value.object arguments).get? "path" = some (.string finding.path)) ∧
        (Value.object arguments).get? "message" = some (.string finding.message) ∧
        severity = finding.severity ∧
        statedCode? ((Value.object arguments).get? "code") = some finding.code ∧
        finding.line = none := by
  have path :
      (additionValue severity arguments).get? "path" = (Value.object arguments).get? "path" :=
    get?_additionValue (by decide)
  have message :
      (additionValue severity arguments).get? "message" = (Value.object arguments).get? "message" :=
    get?_additionValue (by decide)
  have code :
      (additionValue severity arguments).get? "code" = (Value.object arguments).get? "code" :=
    get?_additionValue (by decide)
  have line : (additionValue severity arguments).get? "line" = none :=
    (get?_additionValue (by decide)).trans (get?_eq_none_of_known known (by decide))
  have stated : (additionValue severity arguments).get? "severity" = some (.string severity.word) :=
    rfl
  rw [Finding.ofValue_eq_ok_iff, ← statedCode?_eq_some_iff]
  simp only [Value.optional_eq_ok_iff, Value.required_eq_ok_iff, path, message, code, line, stated,
    Value.checkText_eq_ok_iff]
  have isObject : (additionValue severity arguments).isObject = true := rfl
  simp only [isObject, true_and, exists_eq_right, Option.some.injEq, exists_eq_left',
    Value.checkSeverity_word, Except.ok.injEq, reduceCtorEq, false_and, exists_false, or_false]

/-- The additions that succeed are those that state a finding. -/
theorem describedFinding_eq_ok_iff :
    describedFinding severity arguments = .ok finding ↔
      statedFinding? severity arguments = some finding := by
  rw [describedFinding_eq_ok_iff_checked, argumentError?_eq_none_iff, statedFinding?_eq_some_iff]
  constructor
  · rintro ⟨⟨known, required⟩, checked⟩
    rcases (ofValue_additionValue_eq_ok_iff known).mp checked with ⟨path, rest⟩
    refine ⟨known, ?_, rest⟩
    rcases path with ⟨absent, -⟩ | present
    · exact absurd absent (required "path" (by decide))
    · exact present
  · rintro ⟨known, path, message, rest⟩
    refine ⟨⟨known, ?_⟩, ?_⟩
    · simp [requiredArguments, path, message]
    · exact (ofValue_additionValue_eq_ok_iff known).mpr ⟨Or.inr path, message, rest⟩

end Additions

/-! ## Calls -/

/-- A name that a value is assigned to, which is not one of the object itself. -/
structure AssignedName where
  text : Text
  ordinary : ¬ ("__" : Text) <+: text

/-- A call on the findings of a session. -/
inductive Call where
  /-- A finding is added, described by the arguments in an object. -/
  | add (severity : Severity) (arguments : Json.Members)
  /-- A value is assigned to a name of the finding at an index. -/
  | assign (severity : Severity) (index : Int) (name : AssignedName) (value : Value)
  /-- The findings are merged with those of two other stages. -/
  | merge (compatibility engine : Findings) (sizeKb : Option Float)

/-- A finding stands at an index, which counts from the end if it is below zero. -/
def StandsAt (findings : List Finding) (index : Int) : Prop :=
  ∃ position < findings.length, index = position ∨ index = position - findings.length

theorem hasIndex_iff
    (findings : List Finding)
    (index : Int) :
    hasIndex findings.length index = true ↔ StandsAt findings index := by
  simp only [hasIndex, StandsAt, Bool.and_eq_true, decide_eq_true_eq]
  constructor
  · rintro ⟨low, high⟩
    by_cases negative : index < 0
    · exact ⟨(index + findings.length).toNat, by omega, by omega⟩
    · exact ⟨index.toNat, by omega, by omega⟩
  · rintro ⟨position, within, rfl | rfl⟩
    · omega
    · omega

theorem isUnderscored_iff (name : Text) :
    name.head?.any (CodePoint.is '_') = true ↔ ("_" : Text) <+: name := by
  cases name with
  | nil => simp [Text.ofString]
  | cons first rest =>
      show (first == CodePoint.ofChar '_') = true ↔ [CodePoint.ofChar '_'] <+: first :: rest
      rw [beq_iff_eq, List.cons_prefix_cons]
      exact ⟨fun same => ⟨same.symm, List.nil_prefix⟩, fun begins => begins.1.symm⟩

namespace Call

/-- The step that makes a call; what is assigned does not count. -/
def step : Call → Step
  | .add severity arguments => .add severity arguments
  | .assign severity index name _ => .setField severity index name.text
  | .merge compatibility engine sizeKb => .merge compatibility engine sizeKb

/-- The finding that a call states to the list of a severity. -/
def statedFinding? (severity : Severity) : Call → Option Finding
  | .add given arguments =>
    if given = severity then Session.statedFinding? severity arguments else none
  | .assign _ _ _ _ | .merge _ _ _ => none

/-- What is answered to a call, and the findings after it. -/
inductive Turns (findings : Findings) : Call → Answer → Findings → Prop where
  | added
      {severity : Severity}
      {arguments : Json.Members}
      {finding : Finding}
      (stated : Session.statedFinding? severity arguments = some finding) :
      Turns findings (.add severity arguments)
        (.findings (findings.add severity finding)) (findings.add severity finding)
  | refused
      {severity : Severity}
      {arguments : Json.Members}
      {error : StepError}
      (unstated : Session.statedFinding? severity arguments = none) :
      Turns findings (.add severity arguments) (.refused error) findings
  | absent
      {severity : Severity}
      {index : Int}
      {name : AssignedName}
      {value : Value}
      (nowhere : ¬ StandsAt (findings.list severity) index) :
      Turns findings (.assign severity index name value) (.refused .noSuchFinding) findings
  | frozen
      {severity : Severity}
      {index : Int}
      {name : AssignedName}
      {value : Value}
      (stands : StandsAt (findings.list severity) index)
      (plain : ¬ ("_" : Text) <+: name.text) :
      Turns findings (.assign severity index name value)
        (.refused (.fields [⟨[name.text], .frozen⟩])) findings
  | passedOver
      {severity : Severity}
      {index : Int}
      {name : AssignedName}
      {value : Value}
      (stands : StandsAt (findings.list severity) index)
      (underscored : ("_" : Text) <+: name.text) :
      Turns findings (.assign severity index name value) (.findings findings) findings
  | merged
      {compatibility engine : Findings}
      {sizeKb : Option Float} :
      Turns findings (.merge compatibility engine sizeKb)
        (.verdict (Verdict.merge findings compatibility engine sizeKb)) findings

/-- A list of findings grows by what a call states to it, and by nothing else. -/
theorem Turns.list
    {findings next : Findings}
    {call : Call}
    {answer : Answer}
    (turns : Turns findings call answer next)
    (severity : Severity) :
    next.list severity = findings.list severity ++ (call.statedFinding? severity).toList := by
  cases turns with
  | @added given arguments finding stated =>
      by_cases same : given = severity
      · subst same
        rw [Findings.list_add_same, statedFinding?, if_pos rfl, stated]
        rfl
      · rw [Findings.list_add_other findings (Ne.symm same), statedFinding?, if_neg same]
        exact (List.append_nil _).symm
  | @refused given arguments error unstated =>
      by_cases same : given = severity
      · subst same
        rw [statedFinding?, if_pos rfl, unstated]
        exact (List.append_nil _).symm
      · rw [statedFinding?, if_neg same]
        exact (List.append_nil _).symm
  | absent | frozen | passedOver | merged => exact (List.append_nil _).symm

end Call

theorem turns_step
    (session : Session)
    (call : Call) :
    call.Turns session.findings (session.step call.step).2
      (session.step call.step).1.findings := by
  cases call with
  | add severity arguments =>
      simp only [Call.step, step]
      cases stated : statedFinding? severity arguments with
      | some finding =>
          rw [describedFinding_eq_ok_iff.mpr stated]
          exact .added stated
      | none =>
          cases described : describedFinding severity arguments with
          | error error => exact .refused stated
          | ok finding =>
              rw [describedFinding_eq_ok_iff.mp described] at stated
              cases stated
  | assign severity index name value =>
      simp only [Call.step, step, assignmentError?]
      cases stands : hasIndex (session.findings.list severity).length index with
      | false => exact .absent (mt (hasIndex_iff _ _).mpr (by simp [stands]))
      | true =>
          have standsAt := (hasIndex_iff _ _).mp stands
          cases underscored : name.text.head?.any (CodePoint.is '_') with
          | false =>
              have plain := mt (isUnderscored_iff name.text).mpr (by simp [underscored])
              exact .frozen standsAt plain
          | true => exact .passedOver standsAt ((isUnderscored_iff name.text).mp underscored)
  | merge compatibility engine sizeKb => exact .merged

/-! ## Runs of calls -/

/-- The session after calls, where nothing was found before. -/
def afterCalls
    (session : Session)
    (calls : List Call) :
    Session × List Answer :=
  { session with findings := .empty }.run (calls.map Call.step)

/-- The findings after calls, where there were none before. -/
def findingsAfter
    (session : Session)
    (calls : List Call) :
    Findings :=
  (session.afterCalls calls).1.findings

/-- What is answered to calls, where there were no findings before. -/
def answersTo
    (session : Session)
    (calls : List Call) :
    List Answer :=
  (session.afterCalls calls).2

theorem afterCalls_concat
    (session : Session)
    (before : List Call)
    (call : Call) :
    (session.afterCalls (before ++ [call])).1 =
      ((session.afterCalls before).1.step call.step).1 := by
  rw [afterCalls, List.map_append, run_append]
  rfl

theorem turns_at
    (session : Session)
    (before after : List Call)
    (call : Call) :
    ∃ answer, (session.answersTo (before ++ call :: after))[before.length]? = some answer ∧
      call.Turns (session.findingsAfter before) answer
        (session.findingsAfter (before ++ [call])) := by
  have turns := turns_step (session.afterCalls before).1 call
  refine ⟨((session.afterCalls before).1.step call.step).2, ?_, ?_⟩
  · have answered :=
      answer_at { session with findings := .empty } (before.map Call.step) (after.map Call.step)
        call.step
    rw [List.length_map] at answered
    rw [answersTo, afterCalls, List.map_append]
    exact answered
  · rw [findingsAfter, findingsAfter, afterCalls_concat]
    exact turns

theorem list_findingsAfter
    (session : Session)
    (calls : List Call)
    (severity : Severity) :
    (session.findingsAfter calls).list severity =
      calls.filterMap (Call.statedFinding? severity) := by
  induction calls using List.reverseRecOn with
  | nil => cases severity <;> rfl
  | append_singleton before call ih =>
      rcases session.turns_at before [] call with ⟨answer, -, turns⟩
      rw [turns.list severity, ih, List.filterMap_append]
      cases stated : call.statedFinding? severity with
      | none =>
          rw [List.filterMap_cons_none stated]
          rfl
      | some finding =>
          rw [List.filterMap_cons_some stated]
          rfl

/-- The findings of a session are what was stated to it, and the calls are answered so. -/
structure Records (session : Session) (calls : List Call) : Prop where
  /-- Each list holds the findings stated to it, in the order of the calls. -/
  lists :
    ∀ severity,
      (session.findingsAfter calls).list severity =
        calls.filterMap (Call.statedFinding? severity)
  /-- Every call is answered and turns the findings as it must. -/
  turns :
    ∀ before call after, calls = before ++ call :: after →
      ∃ answer, (session.answersTo calls)[before.length]? = some answer ∧
        call.Turns (session.findingsAfter before) answer
          (session.findingsAfter (before ++ [call]))
  /-- There is success as long as no call has stated an error. -/
  accepts :
    (session.findingsAfter calls).accepts = true ↔
      ∀ call ∈ calls, call.statedFinding? .error = none
  /-- Once lost, success is not regained. -/
  stays :
    ∀ before after, calls = before ++ after →
      (session.findingsAfter before).accepts = false →
        (session.findingsAfter calls).accepts = false

theorem accepts_findingsAfter_iff
    (session : Session)
    (calls : List Call) :
    (session.findingsAfter calls).accepts = true ↔
      ∀ call ∈ calls, call.statedFinding? .error = none := by
  rw [Findings.accepts_iff, ← List.filterMap_eq_nil_iff, ← list_findingsAfter session calls .error]
  rfl

/--
Whatever calls are made, the findings are those that the additions have stated,
and nothing but an addition that states a finding changes them.
-/
theorem findings_are_those_stated
    (session : Session)
    (calls : List Call) :
    Records session calls where
  lists := list_findingsAfter session calls
  turns := by
    rintro before call after rfl
    exact turns_at session before after call
  accepts := accepts_findingsAfter_iff session calls
  stays := by
    rintro before after rfl lost
    rw [Bool.eq_false_iff, ne_eq, accepts_findingsAfter_iff] at lost ⊢
    intro accepted
    apply lost
    intro call within
    exact accepted call (List.mem_append_left after within)

/-- A finding is added, and a name of it is assigned to that starts with an underscore. -/
def notedCalls : List Call :=
  [.add .error [("path", .string "p"), ("message", .string "m")],
    .assign .error 0 ⟨"_note", by decide⟩ (.integer 1)]

/-- The name is no field of the finding, and the assignment is not refused. -/
theorem noted_name_is_passed_over :
    (answersTo (start ⟨⟨[], []⟩, [], Path.ofText "/preflight.yaml", .utf8⟩) notedCalls)[1]? =
        some (.findings ⟨[Finding.error "p" "m"], []⟩) ∧
      ∀ error,
        (answersTo (start ⟨⟨[], []⟩, [], Path.ofText "/preflight.yaml", .utf8⟩) notedCalls)[1]? ≠
          some (.refused error) := by
  have passed :
      (answersTo (start ⟨⟨[], []⟩, [], Path.ofText "/preflight.yaml", .utf8⟩) notedCalls)[1]? =
        some (.findings ⟨[Finding.error "p" "m"], []⟩) :=
    rfl
  refine ⟨passed, ?_⟩
  intro error refused
  rw [passed] at refused
  cases refused

end Session

end OpenApiGate
