import OpenApiGate.Check
import OpenApiGate.Command.Request
import OpenApiGate.Report.Lines
import OpenApiGate.Report.Record
import OpenApiGate.Text.ControlSequence
import OpenApiGate.Text.UpperCase

/-!
# Outcomes

What a run of the command prints and the exit status with which it ends.  The
standard output holds a report or the help text; records and complaints go to
the standard error.  Reports and complaints lose their control sequences,
records keep them.  A failure outside the check ends the run on its own.  The
standard output may refuse a report; the standard error takes everything.
-/

namespace OpenApiGate.Command

/-- What comes of a run of the command. -/
structure Outcome where
  exitStatus : Nat
  /-- The standard output. -/
  output : Text
  /-- The standard error. -/
  complaints : Text
  /-- What happened on the way. -/
  events : List Event
  /-- The failure that ended the run, if one did. -/
  failure : Option Failure

namespace Outcome

/-- A run that prints a text of ASCII characters, which counts as taken. -/
def print (output : Text) : Outcome :=
  ⟨0, output, [], [], none⟩

/-- A run that ends with a complaint. -/
def complain (complaint : Text) : Outcome :=
  ⟨2, [], complaint.withoutControls.escapeSurrogates, [], none⟩

/-- A run that ends in a failure. -/
def fail
    (complaints : Text)
    (events : List Event)
    (failure : Failure) :
    Outcome :=
  ⟨1, [], complaints, events, some failure⟩

/-- A run before which remarks went to the standard error. -/
def after
    (remarks : Text)
    (outcome : Outcome) :
    Outcome :=
  { outcome with complaints := remarks ++ outcome.complaints }

end Outcome

/-- The settings of a check: those of the surroundings, with the limit of the order. -/
def Order.settings
    (order : Order)
    (settings : Settings) :
    Settings :=
  { settings with maxSizeKb := order.maxSizeKb.getD settings.maxSizeKb }

/-- The least weight of records that are shown; a log that was set up before stays as it is. -/
def Order.threshold
    (order : Order)
    (log : LogState)
    (logLevel : Text) :
    Except Failure Nat :=
  match log with
  | some weight => .ok weight
  | none =>
    if order.isVerbose then .ok LogLevel.debug.weight
    else
      match logThreshold? logLevel.toUpper with
      | some weight => .ok weight
      | none => .error (.unknownLevel logLevel.toUpper)

/-- The log after an order.  A level that is not known leaves it at the usual threshold. -/
def Order.logAfter
    (order : Order)
    (log : LogState)
    (logLevel : Text) :
    LogState :=
  some ((order.threshold log logLevel).toOption.getD LogLevel.warning.weight)

/-- The records of a trace from a weight on, one a line. -/
def shownRecords
    (threshold : Nat)
    (events : List Event) :
    Text :=
  let shown := (Traced.records events).filter fun record => threshold ≤ record.level.weight
  let lines : Text := shown.flatMap fun record => record.line ++ Text.ofString "\n"
  lines.escapeSurrogates

/-- The report on a verdict, in the form that an order asks for. -/
def Order.report
    (order : Order)
    (settings : Settings)
    (verdict : Verdict) :
    Except Failure Text :=
  if order.asJson then (Report.json verdict).mapError .unwritableReport
  else
    let options : ReportOptions :=
      { document := (Path.ofText order.path).name
        limit := some (.real settings.maxSizeKb)
        shownWarnings := settings.maxWarningsShown }
    Report.text options verdict

/-- The text that is printed for a report, unless the stream refuses it. -/
def printed
    (output : OutputStream)
    (report : Text) :
    Except Failure Text :=
  let line := Text.withoutControls (report ++ "\n")
  match output.refusal? line with
  | some failure => .error failure
  | none => .ok line

/-- The outcome of a check that gave a verdict. -/
def Order.conclude
    (order : Order)
    (output : OutputStream)
    (settings : Settings)
    (complaints : Text)
    (events : List Event)
    (verdict : Verdict) :
    Outcome :=
  match (order.report settings verdict).bind (printed output) with
  | .ok output => ⟨verdict.exitStatus, output, complaints, events, none⟩
  | .error failure => .fail complaints events failure

/-- The outcome of a check that ended in a failure, which is recorded and told. -/
def unexpected
    (threshold : Nat)
    (events : List Event)
    (failure : Failure) :
    Outcome :=
  let events := events ++ [.log ⟨.debug, .command, "Unexpected error"⟩]
  let complaint := Text.withoutControls ("Unexpected error: " ++ failure.message ++ "\n")
  ⟨2, [], shownRecords threshold events ++ complaint.escapeSurrogates, events, none⟩

/-- The check that an order asks for, given the launcher of the linter. -/
def Order.check
    (order : Order)
    (settings : Settings)
    (launcher : Launcher) :
    Check where
  path := order.path
  settings := settings
  engine := settings.spectral.engine launcher
  ruleset := order.ruleset

/-- The outcome of an order under settings, given the log of the process before it. -/
def Order.run
    (order : Order)
    (surroundings : Surroundings)
    (log : LogState)
    (launcher : Launcher)
    (settings : Settings) :
    Outcome :=
  let settings := order.settings settings
  match order.threshold log settings.logLevel with
  | .error failure => .fail [] [] failure
  | .ok threshold =>
    let traced := (order.check settings launcher).run surroundings
    match traced.result with
    | .error failure => unexpected threshold traced.events failure
    | .ok verdict =>
      order.conclude surroundings.output settings (shownRecords threshold traced.events)
        traced.events verdict

/-- The outcome of a command line, or the order that settings are needed for. -/
def settle
    (files : FileTree)
    (line : List Text) :
    Outcome ⊕ Order :=
  match readRequest files line with
  | .error (.foreseen error) => .inl (.complain error.complaint)
  | .error (.unforeseen failure) => .inl (.fail [] [] failure)
  | .ok .help => .inl (.print helpText)
  | .ok .noDocument => .inl (.complain "Error: No spec file provided\n")
  | .ok (.check order) => .inr order

end OpenApiGate.Command
