import OpenApiGate.Engine.Spectral
import OpenApiGate.Proofs.Decoding
import OpenApiGate.Proofs.Fallible
import OpenApiGate.Proofs.Traces

/-!
# What linting comes to

Linting is to give findings or to say that the engine cannot be used, whatever
becomes of the process.  Output that is no JSON array counts as no findings.  Two
kinds of output are left: JSON that is nested too deeply, and an array in which a
result to report has a number or a truth value for its path.
-/

namespace OpenApiGate

namespace LinterOutput

open Json (Value)
open Fallible

/-- A value that counts as present and is no sequence of parts. -/
inductive Indivisible : Value → Prop where
  | true : Indivisible (.bool true)
  | integer {number : Int} (nonzero : number ≠ 0) : Indivisible (.integer number)
  | double {number : Float} (nonzero : (number == 0.0) = false) : Indivisible (.double number)

/-- An item that is to be reported, but whose path has no parts. -/
structure Derails (item : Value) : Prop where
  reported : reportedSeverity? item ≠ none
  path : ∃ path, item.get? "path" = some path ∧ Indivisible path

/-- What reading an output does not cope with. -/
inductive Overstrains (output : Text) : Prop where
  | nesting
      {container : Json.Container}
      (refused : Json.decode output = .error (.nestedTooDeeply container))
  | item
      {items : List Value}
      (decoded : Json.decode output = .ok (.array items))
      (derails : ∃ item ∈ items, Derails item)

/-! ## The items of an array -/

/-- A path has no segments if it is a value that has no parts. -/
theorem fails_segments_iff (path : Value) :
    Fails (segments path) ↔ Indivisible path := by
  cases path with
  | null => exact iff_of_false (not_fails_ok _) nofun
  | string text => exact iff_of_false (not_fails_ok _) nofun
  | array items => exact iff_of_false (not_fails_ok _) nofun
  | object members => exact iff_of_false (not_fails_ok _) nofun
  | bool flag =>
      cases flag with
      | false => exact iff_of_false (not_fails_ok _) nofun
      | true => exact iff_of_true (fails_error _) .true
  | integer number =>
      by_cases zero : number = 0
      · subst zero
        exact iff_of_false (not_fails_ok _) (fun | .integer nonzero => nonzero rfl)
      · refine iff_of_true ?_ (.integer zero)
        simp [segments, Value.isTruthy, zero]
  | double number =>
      cases zero : number == 0.0 with
      | false =>
          refine iff_of_true ?_ (.double zero)
          simp [segments, Value.isTruthy, zero]
      | true =>
          refine iff_of_false ?_ ?_
          · simp [segments, Value.isTruthy, zero]
          · rintro ⟨⟩
            next nonzero => rw [zero] at nonzero; cases nonzero

/-- An item makes no finding if its path has no segments. -/
theorem fails_findingOf_iff
    (severity : Severity)
    (item : Value) :
    Fails (findingOf severity item) ↔
      ∃ path, item.get? "path" = some path ∧ Indivisible path := by
  unfold findingOf
  rw [fails_map_iff, fails_segments_iff]
  cases item.get? "path" with
  | none => simpa using nofun
  | some path => simp

theorem findingsOf_cons_of_none
    {item : Value}
    (omitted : reportedSeverity? item = none)
    (rest : List Value) :
    findingsOf (item :: rest) = findingsOf rest := by
  rw [findingsOf, omitted]

theorem findingsOf_cons_of_some
    {item : Value}
    {severity : Severity}
    (reported : reportedSeverity? item = some severity)
    (rest : List Value) :
    findingsOf (item :: rest) =
      (findingOf severity item).bind fun finding =>
        (findingsOf rest).map (·.addFirst severity finding) := by
  rw [findingsOf, reported]
  rfl

/-- One item that makes no finding takes all others with it. -/
theorem fails_findingsOf_iff (items : List Value) :
    Fails (findingsOf items) ↔ ∃ item ∈ items, Derails item := by
  induction items with
  | nil => simp [findingsOf]
  | cons item rest ih =>
      simp only [List.mem_cons, exists_eq_or_imp, ← ih]
      cases reported : reportedSeverity? item with
      | none =>
          have sound : ¬ Derails item := fun derails => derails.reported reported
          simp [findingsOf_cons_of_none reported, sound]
      | some severity =>
          -- An item that is to be reported derails exactly by its path.
          have derails_iff : Derails item ↔ Fails (findingOf severity item) := by
            rw [fails_findingOf_iff]
            exact ⟨Derails.path, fun path => ⟨by simp [reported], path⟩⟩
          rw [derails_iff, findingsOf_cons_of_some reported]
          cases findingOf severity item with
          | error error => simp [Except.bind]
          | ok finding => simp [Except.bind]

/-- An error that ends linting without findings and without a reason. -/
def OutputError.IsGrave : OutputError → Prop
  | .notJson (.nestedTooDeeply _) => True
  | .noParts _ => True
  | _ => False

theorem segments_isGrave
    {path : Value}
    {error : OutputError}
    (failure : segments path = .error error) :
    error.IsGrave := by
  unfold segments at failure
  split at failure
  · cases failure
  · cases failure
  · cases failure
  · split at failure
    · cases failure
      trivial
    · cases failure

/-- Items fail for want of parts only, which is grave. -/
theorem findingsOf_isGrave
    {items : List Value}
    {error : OutputError}
    (failure : findingsOf items = .error error) :
    error.IsGrave := by
  induction items with
  | nil => cases failure
  | cons item rest ih =>
      cases reported : reportedSeverity? item with
      | none =>
          rw [findingsOf_cons_of_none reported] at failure
          exact ih failure
      | some severity =>
          rw [findingsOf_cons_of_some reported] at failure
          rcases bind_eq_error_iff.mp failure with own | ⟨finding, -, others⟩
          · exact segments_isGrave (map_eq_error_iff.mp own)
          · exact ih (map_eq_error_iff.mp others)

theorem findings_of_isEmpty
    {output : Text}
    (blank : output.trim.isEmpty = true) :
    findings output = .ok .empty :=
  if_pos blank

/-- Blank output is not decoded, and if it were, it would hold no value. -/
theorem not_overstrains_of_isEmpty
    {output : Text}
    (blank : output.trim.isEmpty = true) :
    ¬ Overstrains output := by
  have blanks := Text.isBlank_of_trim_eq_nil (List.isEmpty_iff.mp blank)
  rcases Json.decode_of_isBlank blanks with ⟨position, noValue⟩
  rintro (refused | ⟨decoded, -⟩)
  · cases noValue.symm.trans refused
  · cases noValue.symm.trans decoded

/-- The error of an output is grave exactly if the output overstrains the reader. -/
theorem findings_isGrave_iff (output : Text) :
    (∃ error, findings output = .error error ∧ error.IsGrave) ↔ Overstrains output := by
  cases blank : output.trim.isEmpty with
  | true =>
      refine iff_of_false ?_ (not_overstrains_of_isEmpty blank)
      rintro ⟨error, failure, -⟩
      cases (findings_of_isEmpty blank).symm.trans failure
  | false =>
      constructor
      · rintro ⟨error, failure, grave⟩
        simp only [findings, blank, Bool.false_eq_true, if_false] at failure
        split at failure
        · next refusal refused =>
            cases failure
            cases refusal with
            | syntaxFault => exact grave.elim
            | integer => exact grave.elim
            | nestedTooDeeply container => exact .nesting refused
        · next items decoded =>
            exact .item decoded ((fails_findingsOf_iff items).mp ⟨error, failure⟩)
        · cases failure
          exact grave.elim
      · rintro (@⟨container, refused⟩ | ⟨decoded, derails⟩)
        · refine ⟨.notJson (.nestedTooDeeply container), ?_, trivial⟩
          simp [findings, blank, refused]
        · rcases (fails_findingsOf_iff _).mpr derails with ⟨error, failure⟩
          refine ⟨error, ?_, findingsOf_isGrave failure⟩
          simpa [findings, blank, decoded] using failure

/-- Output that is read without an error holds an array or nothing, or gives no findings. -/
theorem findings_eq_empty_of_no_array
    {output : Text}
    {found : Findings}
    (read : findings output = .ok found)
    (noArray : ∀ items, Json.decode output ≠ .ok (.array items)) :
    found = .empty := by
  unfold findings at read
  split at read
  · cases read
    rfl
  · split at read
    · cases read
    · next items decoded => exact absurd decoded (noArray items)
    · cases read

end LinterOutput

namespace Spectral

open LinterOutput (OutputError Overstrains)
open Traced

/-! ## The output of a process -/

theorem result_recordFindings
    (ending : Ending)
    (findings : Findings) :
    (recordFindings ending findings).result = .ok () := by
  simp only [recordFindings]
  split <;> rfl

theorem result_skipOutput
    (ending : Ending)
    (reason : Text) :
    (skipOutput ending reason).result = .ok .empty := by
  simp only [skipOutput]
  split <;> rfl

theorem result_readOutput_of_ok
    {ending : Ending}
    {found : Findings}
    (read : LinterOutput.findings (ending.output.getD []) = .ok found) :
    (readOutput ending).result = .ok found := by
  unfold readOutput
  rw [read]
  exact result_bind_of_ok (result_recordFindings ending found) _

theorem result_readOutput_of_slight
    {ending : Ending}
    {error : OutputError}
    (failure : LinterOutput.findings (ending.output.getD []) = .error error)
    (slight : ¬ error.IsGrave) :
    (readOutput ending).result = .ok .empty := by
  unfold readOutput
  rw [failure]
  split
  · next found impossible => cases impossible
  · next container same =>
      cases same
      exact absurd trivial slight
  · next typeName same =>
      cases same
      exact absurd trivial slight
  · next reason _ _ _ => exact result_skipOutput ending _

theorem breaksDown_readOutput_of_grave
    {ending : Ending}
    {error : OutputError}
    (failure : LinterOutput.findings (ending.output.getD []) = .error error)
    (grave : error.IsGrave) :
    (readOutput ending).BreaksDown := by
  unfold readOutput
  rw [failure]
  cases error with
  | notArray typeName => exact grave.elim
  | noParts typeName => exact ⟨_, rfl⟩
  | notJson refusal =>
      cases refusal with
      | syntaxFault => exact grave.elim
      | integer => exact grave.elim
      | nestedTooDeeply container => exact ⟨_, rfl⟩

/-- Reading output gives findings unless the output overstrains the reader. -/
theorem readOutput_succeeds_or_breaksDown (ending : Ending) :
    (¬ Overstrains (ending.output.getD []) ∧ ∃ found, (readOutput ending).result = .ok found) ∨
      (Overstrains (ending.output.getD []) ∧ (readOutput ending).BreaksDown) := by
  rw [← LinterOutput.findings_isGrave_iff]
  cases read : LinterOutput.findings (ending.output.getD []) with
  | ok found =>
      refine Or.inl ⟨?_, found, result_readOutput_of_ok read⟩
      rintro ⟨error, impossible, -⟩
      cases impossible
  | error error =>
      by_cases grave : error.IsGrave
      · exact Or.inr ⟨⟨error, rfl, grave⟩, breaksDown_readOutput_of_grave read grave⟩
      · refine Or.inl ⟨?_, .empty, result_readOutput_of_slight read grave⟩
        rintro ⟨other, same, otherGrave⟩
        cases same
        exact grave otherGrave

/-- Output that overstrains the reader is not passed over. -/
theorem readOutput_breaksDown_iff (ending : Ending) :
    (readOutput ending).BreaksDown ↔ Overstrains (ending.output.getD []) := by
  rcases readOutput_succeeds_or_breaksDown ending with
    ⟨sound, found, read⟩ | ⟨overstrains, breaksDown⟩
  · refine iff_of_false ?_ sound
    rintro ⟨failure, broken⟩
    cases read.symm.trans broken
  · exact iff_of_true breaksDown overstrains

theorem readOutput_succeeds_iff (ending : Ending) :
    (∃ found, (readOutput ending).result = .ok found) ↔
      ¬ Overstrains (ending.output.getD []) := by
  rcases readOutput_succeeds_or_breaksDown ending with
    ⟨sound, succeeds⟩ | ⟨overstrains, failure, broken⟩
  · exact iff_of_true succeeds sound
  · refine iff_of_false ?_ (not_not_intro overstrains)
    rintro ⟨found, read⟩
    cases read.symm.trans broken

/-- Output that is no array stands for no findings. -/
theorem result_readOutput_of_no_array
    {ending : Ending}
    (noArray : ∀ items, Json.decode (ending.output.getD []) ≠ .ok (.array items))
    (sound : ¬ Overstrains (ending.output.getD [])) :
    (readOutput ending).result = .ok .empty := by
  cases read : LinterOutput.findings (ending.output.getD []) with
  | ok found =>
      rw [result_readOutput_of_ok read, LinterOutput.findings_eq_empty_of_no_array read noArray]
  | error error =>
      apply result_readOutput_of_slight read
      intro grave
      exact sound ((LinterOutput.findings_isGrave_iff _).mp ⟨error, read, grave⟩)

/-! ## The process -/

variable (spectral : Spectral) {launcher : Launcher} (document ruleset : Path)

theorem result_lint_of_not_found (missing : launcher.isFound = false) :
    (spectral.lint launcher document ruleset).result = .error (.foreseen notInstalled) := by
  simp only [lint, missing]
  rfl

theorem result_lint_of_failed
    {fault : Fault}
    (found : launcher.isFound = true)
    (failed : launcher.outcome = .failed fault) :
    (spectral.lint launcher document ruleset).result = .error (spectral.stopOf fault) := by
  simp only [lint, found, failed]
  rfl

theorem result_lint_of_not_started
    {ending : Ending}
    (found : launcher.isFound = true)
    (finished : launcher.outcome = .finished ending)
    (notStarted : ending.exitCode = commandNotFound) :
    (spectral.lint launcher document ruleset).result = .error (.foreseen notInstalled) := by
  simp only [lint, found, finished, readEnding, notStarted]
  rfl

theorem result_lint_of_started
    {ending : Ending}
    (found : launcher.isFound = true)
    (finished : launcher.outcome = .finished ending)
    (started : ending.exitCode ≠ commandNotFound) :
    (spectral.lint launcher document ruleset).result = (readOutput ending).result := by
  simp only [lint, found, finished, readEnding, if_neg started]
  rfl

/-- Where a process is started, only faults from elsewhere than the system are not foreseen. -/
theorem stopOf_eq_unforeseen_iff (fault : Fault) :
    (∃ failure, spectral.stopOf fault = .unforeseen failure) ↔
      ∃ name, fault.kind = .foreign name := by
  unfold stopOf
  cases fault.kind <;> simp

end Spectral

/-- What comes of starting the process is more than linting foresees. -/
inductive SpawnOutcome.Derails : SpawnOutcome → Prop where
  /-- The process cannot be started, for a reason that is none of the operating system's. -/
  | foreignFault
      {fault : Fault}
      {name : Text}
      (foreign : fault.kind = .foreign name) :
      Derails (.failed fault)
  /-- The process prints output that overstrains the reader. -/
  | output
      {ending : Ending}
      (started : ending.exitCode ≠ Spectral.commandNotFound)
      (overstrains : LinterOutput.Overstrains (ending.output.getD [])) :
      Derails (.finished ending)

/-- A launcher that is found, and starts what linting does not foresee. -/
structure Launcher.Derails (launcher : Launcher) : Prop where
  found : launcher.isFound = true
  outcome : launcher.outcome.Derails

namespace Spectral

open LinterOutput (Overstrains)
open Traced

theorem lint_breaksDown_iff_of_found
    (spectral : Spectral)
    {launcher : Launcher}
    (document ruleset : Path)
    (found : launcher.isFound = true) :
    (spectral.lint launcher document ruleset).BreaksDown ↔ launcher.outcome.Derails := by
  unfold BreaksDown
  cases outcome : launcher.outcome with
  | failed fault =>
      rw [result_lint_of_failed spectral document ruleset found outcome]
      simp only [Except.error.injEq, stopOf_eq_unforeseen_iff]
      constructor
      · rintro ⟨name, foreign⟩
        exact .foreignFault foreign
      · rintro ⟨foreign⟩
        exact ⟨_, foreign⟩
  | finished ending =>
      by_cases started : ending.exitCode = commandNotFound
      · refine iff_of_false ?_ ?_
        · rintro ⟨failure, broken⟩
          rw [result_lint_of_not_started spectral document ruleset found outcome started]
            at broken
          cases broken
        · rintro (_ | ⟨isStarted, -⟩)
          exact isStarted started
      · rw [result_lint_of_started spectral document ruleset found outcome started]
        refine (readOutput_breaksDown_iff ending).trans ?_
        constructor
        · exact .output started
        · rintro (_ | ⟨-, overstrains⟩)
          exact overstrains

/-- The linter breaks down if it is found and what becomes of it is not foreseen. -/
theorem lint_breaksDown_iff
    (spectral : Spectral)
    (launcher : Launcher)
    (document ruleset : Path) :
    (spectral.lint launcher document ruleset).BreaksDown ↔ launcher.Derails := by
  cases found : launcher.isFound with
  | true =>
      rw [lint_breaksDown_iff_of_found spectral document ruleset found]
      exact ⟨fun outcome => ⟨found, outcome⟩, Launcher.Derails.outcome⟩
  | false =>
      refine iff_of_false ?_ ?_
      · rintro ⟨failure, broken⟩
        rw [result_lint_of_not_found spectral document ruleset found] at broken
        cases broken
      · rintro ⟨isFound, -⟩
        cases found.symm.trans isFound

/--
Linting gives findings or a reason why the engine cannot be used, exactly if the
launcher does not derail.  A process that was started gives findings exactly if
its output does not overstrain the reader, and none if that output is no array.
-/
theorem lint_gives_findings_or_reason_iff
    (spectral : Spectral)
    (launcher : Launcher)
    (document ruleset : Path) :
    (((∃ found, (spectral.lint launcher document ruleset).result = .ok found) ∨
          ∃ error, (spectral.lint launcher document ruleset).result = .error (.foreseen error)) ↔
        ¬ launcher.Derails) ∧
      ∀ ending, launcher.isFound = true → launcher.outcome = .finished ending →
        ending.exitCode ≠ 127 →
          ((∃ found, (spectral.lint launcher document ruleset).result = .ok found) ↔
              ¬ Overstrains (ending.output.getD [])) ∧
            (¬ Overstrains (ending.output.getD []) →
              (∀ items, Json.decode (ending.output.getD []) ≠ .ok (.array items)) →
                (spectral.lint launcher document ruleset).result = .ok .empty) := by
  constructor
  · rw [settles_iff_not_breaksDown, lint_breaksDown_iff]
  · intro ending found finished started
    rw [result_lint_of_started spectral document ruleset found finished started]
    refine ⟨readOutput_succeeds_iff ending, ?_⟩
    intro sound noArray
    exact result_readOutput_of_no_array noArray sound

/-- A launcher whose process prints an output and ends with the code for findings. -/
def printing (output : Text) : Launcher :=
  ⟨true, .finished ⟨1, some output, none⟩⟩

/-- Spectral with its usual words and all the time it wants. -/
def usual : Spectral :=
  ⟨[], none⟩

theorem lint_takes_object_for_no_findings :
    ¬ Overstrains "\x7b\x7d" ∧
      (usual.lint (printing "\x7b\x7d") (Path.ofText "d.json") (Path.ofText "r.yaml")).result =
        .ok .empty := by
  have decoded : Json.decode (Text.ofString "\x7b\x7d") = .ok (.object []) := rfl
  have sound : ¬ Overstrains "\x7b\x7d" := by
    rintro (refused | ⟨otherwise, -⟩)
    · cases decoded.symm.trans refused
    · cases decoded.symm.trans otherwise
  refine ⟨sound, ?_⟩
  apply ((lint_gives_findings_or_reason_iff usual (printing "\x7b\x7d") _ _).2 _ rfl rfl
    (by decide)).2 sound
  intro items otherwise
  cases decoded.symm.trans otherwise

/-- A number in place of a path ends linting without findings and without a reason. -/
theorem lint_breaks_down_on_number_for_path :
    ¬ ((∃ found,
          (usual.lint (printing "[\x7b\"severity\":0,\"path\":5,\"message\":\"m\"\x7d]")
              (Path.ofText "d.json") (Path.ofText "r.yaml")).result = .ok found) ∨
        ∃ error,
          (usual.lint (printing "[\x7b\"severity\":0,\"path\":5,\"message\":\"m\"\x7d]")
              (Path.ofText "d.json") (Path.ofText "r.yaml")).result =
            .error (.foreseen error)) := by
  rw [settles_iff_not_breaksDown]
  exact not_not_intro (by decide +kernel)

example :
    (usual.lint (printing (List.replicate 1000 '[')) (Path.ofText "d.json")
      (Path.ofText "r.yaml")).BreaksDown := by
  decide +kernel

end Spectral

end OpenApiGate
