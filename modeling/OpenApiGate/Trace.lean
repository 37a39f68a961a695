import OpenApiGate.Log
import OpenApiGate.Quantity

/-!
# Traced results

A check is a pure function.  What it would do to the outside world is recorded
in a trace of events next to its result: log records, look-ups of a launcher,
processes started, and engines consulted.  The events of two steps in sequence
are the events of the first followed by those of the second.
-/

namespace OpenApiGate

/-- Something that a check does besides computing its result. -/
inductive Event where
  /-- A log record is written. -/
  | log (record : LogRecord)
  /-- An executable is looked up by name. -/
  | lookup (name : Text)
  /-- A process is started with these words and this time limit. -/
  | spawn (words : List Text) (timeout : Option Quantity)
  /-- A rule engine is asked about a document with a ruleset. -/
  | consult (document ruleset : Text)

/-- A result, or an error, together with the events on the way to it. -/
structure Traced (ε α : Type) where
  events : List Event
  result : Except ε α

namespace Traced

variable {ε ε' α β : Type}

/-- A result without events. -/
def ofExcept (result : Except ε α) : Traced ε α :=
  ⟨[], result⟩

/-- An error without events. -/
def fail (error : ε) : Traced ε α :=
  ⟨[], .error error⟩

/-- One event. -/
def emit (event : Event) : Traced ε Unit :=
  ⟨[event], .ok ()⟩

/-- One log record. -/
def log
    (level : LogLevel)
    (source : LogSource)
    (text : Text) :
    Traced ε Unit :=
  emit (.log ⟨level, source, text⟩)

/-- Two steps in sequence; an error of the first is the error of both. -/
def bind
    (first : Traced ε α)
    (second : α → Traced ε β) :
    Traced ε β :=
  match first.result with
  | .ok value => ⟨first.events ++ (second value).events, (second value).result⟩
  | .error error => ⟨first.events, .error error⟩

instance : Monad (Traced ε) where
  pure value := ⟨[], .ok value⟩
  bind := bind

@[simp]
theorem events_pure (value : α) :
    (pure value : Traced ε α).events = [] :=
  rfl

@[simp]
theorem result_pure (value : α) :
    (pure value : Traced ε α).result = .ok value :=
  rfl

theorem events_bind_of_ok
    {first : Traced ε α}
    {value : α}
    (success : first.result = .ok value)
    (second : α → Traced ε β) :
    (first >>= second).events = first.events ++ (second value).events := by
  show (first.bind second).events = _
  rw [bind, success]

theorem result_bind_of_ok
    {first : Traced ε α}
    {value : α}
    (success : first.result = .ok value)
    (second : α → Traced ε β) :
    (first >>= second).result = (second value).result := by
  show (first.bind second).result = _
  rw [bind, success]

theorem events_bind_of_error
    {first : Traced ε α}
    {error : ε}
    (failure : first.result = .error error)
    (second : α → Traced ε β) :
    (first >>= second).events = first.events := by
  show (first.bind second).events = _
  rw [bind, failure]

theorem result_bind_of_error
    {first : Traced ε α}
    {error : ε}
    (failure : first.result = .error error)
    (second : α → Traced ε β) :
    (first >>= second).result = .error error := by
  show (first.bind second).result = _
  rw [bind, failure]

/-- The same events, with an error of another type. -/
def mapError
    (convert : ε → ε')
    (traced : Traced ε α) :
    Traced ε' α :=
  ⟨traced.events, traced.result.mapError convert⟩

/-- The same events, with an error taken as a result. -/
def attempt (traced : Traced ε α) : Traced ε' (Except ε α) :=
  ⟨traced.events, .ok traced.result⟩

/-- The log records of a trace, in order. -/
def records (events : List Event) : List LogRecord :=
  events.filterMap fun
    | .log record => some record
    | _ => none

/-- The names looked up in a trace, in order. -/
def lookups (events : List Event) : List Text :=
  events.filterMap fun
    | .lookup name => some name
    | _ => none

/-- The processes started in a trace, in order. -/
def spawns (events : List Event) : List (List Text × Option Quantity) :=
  events.filterMap fun
    | .spawn words timeout => some (words, timeout)
    | _ => none

/-- The questions put to rule engines in a trace, in order. -/
def consults (events : List Event) : List (Text × Text) :=
  events.filterMap fun
    | .consult document ruleset => some (document, ruleset)
    | _ => none

end Traced

end OpenApiGate
