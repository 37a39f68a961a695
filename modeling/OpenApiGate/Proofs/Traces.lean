import OpenApiGate.Failure
import OpenApiGate.Trace

/-!
# Steps in sequence

What a sequence of traced steps comes to, when it does nothing but write log
records, and when it ends in a failure that it does not foresee.
-/

namespace OpenApiGate

/-- All events are log records. -/
def OnlyRecords (events : List Event) : Prop :=
  ∀ event ∈ events, ∃ record, event = .log record

namespace OnlyRecords

theorem nil : OnlyRecords [] := by
  intro event member
  cases member

theorem record (record : LogRecord) : OnlyRecords [.log record] := by
  intro event member
  rw [List.mem_singleton.mp member]
  exact ⟨record, rfl⟩

theorem append
    {first second : List Event}
    (before : OnlyRecords first)
    (after : OnlyRecords second) :
    OnlyRecords (first ++ second) := by
  intro event member
  rcases List.mem_append.mp member with early | late
  · exact before event early
  · exact after event late

end OnlyRecords

namespace Traced

variable {ε ε' α β : Type}

/-- The result of a sequence is that of its results, whatever the events. -/
theorem result_bind
    (first : Traced ε α)
    (second : α → Traced ε β) :
    (first >>= second).result = first.result.bind fun value => (second value).result := by
  cases found : first.result with
  | error error => exact result_bind_of_error found second
  | ok value => exact result_bind_of_ok found second

theorem result_bind_eq_ok_iff
    {first : Traced ε α}
    {second : α → Traced ε β}
    {value : β} :
    (first >>= second).result = .ok value ↔
      ∃ before, first.result = .ok before ∧ (second before).result = .ok value := by
  cases found : first.result with
  | error error => simp [result_bind_of_error found]
  | ok before => simp [result_bind_of_ok found]

/-- A sequence fails in its first step or, if that goes well, in its second. -/
theorem result_bind_eq_error_iff
    {first : Traced ε α}
    {second : α → Traced ε β}
    {error : ε} :
    (first >>= second).result = .error error ↔
      first.result = .error error ∨
        ∃ before, first.result = .ok before ∧ (second before).result = .error error := by
  cases found : first.result with
  | error other => simp [result_bind_of_error found]
  | ok before => simp [result_bind_of_ok found]

/-- A step whose error is taken as a result goes on with either. -/
theorem result_attempt_bind
    (traced : Traced ε α)
    (next : Except ε α → Traced ε' β) :
    (traced.attempt >>= next).result = (next traced.result).result :=
  result_bind_of_ok rfl next

/-- After an attempt the next step is taken in any case. -/
theorem events_attempt_bind
    (traced : Traced ε α)
    (next : Except ε α → Traced ε' β) :
    (traced.attempt >>= next).events = traced.events ++ (next traced.result).events :=
  events_bind_of_ok rfl next

/-- A sequence only records if both of its steps do. -/
theorem onlyRecords_bind
    {first : Traced ε α}
    {second : α → Traced ε β}
    (before : OnlyRecords first.events)
    (after : ∀ value, OnlyRecords (second value).events) :
    OnlyRecords (first >>= second).events := by
  cases found : first.result with
  | error error =>
      rw [events_bind_of_error found]
      exact before
  | ok value =>
      rw [events_bind_of_ok found]
      exact before.append (after value)

theorem onlyRecords_log
    (level : LogLevel)
    (source : LogSource)
    (text : Text) :
    OnlyRecords (log level source text : Traced ε Unit).events :=
  .record _

/-! ## What is done besides writing records -/

/-- The events that are no log records, in order. -/
def deeds (events : List Event) : List Event :=
  events.filter fun
    | .log _ => false
    | _ => true

theorem deeds_append (first second : List Event) :
    deeds (first ++ second) = deeds first ++ deeds second :=
  List.filter_append _ _

/-- Records are no deeds. -/
theorem deeds_of_onlyRecords
    {events : List Event}
    (quiet : OnlyRecords events) :
    deeds events = [] := by
  apply List.filter_eq_nil_iff.mpr
  intro event member
  rcases quiet event member with ⟨record, rfl⟩
  exact Bool.false_ne_true

/-! ## Breaking down -/

/-- The steps end in a failure that they do not foresee. -/
def BreaksDown (traced : Traced (Stop ε) α) : Prop :=
  ∃ failure, traced.result = .error (.unforeseen failure)

instance decidableBreaksDown (traced : Traced (Stop ε) α) : Decidable traced.BreaksDown :=
  match found : traced.result with
  | .error (.unforeseen failure) => isTrue ⟨failure, found⟩
  | .error (.foreseen error) => isFalse fun ⟨_, broken⟩ => by cases found.symm.trans broken
  | .ok value => isFalse fun ⟨_, broken⟩ => by cases found.symm.trans broken

theorem not_breaksDown_pure (value : α) :
    ¬ (pure value : Traced (Stop ε) α).BreaksDown := by
  rintro ⟨failure, broken⟩
  cases broken

/-- Steps that do not break down give a value or an error that they foresee. -/
theorem settles_iff_not_breaksDown (traced : Traced (Stop ε) α) :
    ((∃ value, traced.result = .ok value) ∨
        ∃ error, traced.result = .error (.foreseen error)) ↔
      ¬ traced.BreaksDown := by
  unfold BreaksDown
  rcases traced.result with (error | failure) | value <;> simp

/-- A sequence breaks down where one of its steps does. -/
theorem breaksDown_bind_iff
    {first : Traced (Stop ε) α}
    {second : α → Traced (Stop ε) β} :
    (first >>= second).BreaksDown ↔
      first.BreaksDown ∨ ∃ value, first.result = .ok value ∧ (second value).BreaksDown := by
  unfold BreaksDown
  simp only [result_bind_eq_error_iff]
  constructor
  · rintro ⟨failure, early | ⟨value, success, late⟩⟩
    · exact Or.inl ⟨failure, early⟩
    · exact Or.inr ⟨value, success, failure, late⟩
  · rintro (⟨failure, early⟩ | ⟨value, success, failure, late⟩)
    · exact ⟨failure, Or.inl early⟩
    · exact ⟨failure, Or.inr ⟨value, success, late⟩⟩

end Traced

end OpenApiGate
