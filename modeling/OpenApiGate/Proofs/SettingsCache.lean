import Mathlib.Data.List.DropRight
import OpenApiGate.Session

/-!
# Which settings a session uses

A session loads its settings when a step first needs them and keeps them until
they are dropped.  The history of a session, which knows nothing of what is kept,
says which settings those are: the ones of the first loading that succeeded since
the settings were dropped last.  What changes outside after that loading does not
count, and neither do steps that bring settings of their own.

The log is kept too, and longer: once it is set up, nothing changes it.
-/

namespace OpenApiGate

/-- A step, with the surroundings and the log that it finds. -/
structure Moment where
  surroundings : Surroundings
  log : LogState
  step : Step

namespace Moment

/-- The settings are dropped. -/
def drops (moment : Moment) : Bool :=
  match moment.step with
  | .dropSettings => true
  | _ => false

/-- The settings of the session are needed. -/
def reads (moment : Moment) : Bool :=
  match moment.step with
  | .readSettings => true
  | .check _ _ _ given => given.isNone
  | .command line _ => (Command.settle moment.surroundings.files line).isRight
  | _ => false

/-- The outcome of loading the settings at this moment. -/
def load (moment : Moment) : Except Failure Settings :=
  Settings.load moment.surroundings []

/-- The settings that are loaded at this moment, if they are needed and can be loaded. -/
def loaded? (moment : Moment) : Option Settings :=
  if moment.reads then moment.load.toOption else none

/-- The answer to a step that is taken under settings. -/
inductive AnswersUnder (settings : Settings) : Moment → Answer → Prop where
  | reading
      {surroundings : Surroundings}
      {log : LogState} :
      AnswersUnder settings ⟨surroundings, log, .readSettings⟩ (.settings settings)
  | check
      {surroundings : Surroundings}
      {log : LogState}
      {path : Text}
      {ruleset : Option Text}
      {choice : EngineChoice} :
      AnswersUnder settings ⟨surroundings, log, .check path ruleset choice none⟩
        (.checked
          (Check.run { path, settings, engine := choice.engine settings, ruleset } surroundings))
  | command
      {surroundings : Surroundings}
      {log : LogState}
      {line : List Text}
      {launcher : Launcher}
      {order : Command.Order}
      {remarks : Text}
      (ordered : Command.settle surroundings.files line = .inr order) :
      AnswersUnder settings ⟨surroundings, log, .command line launcher⟩
        (.outcome ((order.run surroundings log launcher settings).after remarks))

/-- The answer to a step for which the settings cannot be loaded. -/
inductive Raises (failure : Failure) : Moment → Answer → Prop where
  | reading
      {surroundings : Surroundings}
      {log : LogState} :
      Raises failure ⟨surroundings, log, .readSettings⟩ (.refused (.failure failure))
  | check
      {surroundings : Surroundings}
      {log : LogState}
      {path : Text}
      {ruleset : Option Text}
      {choice : EngineChoice} :
      Raises failure ⟨surroundings, log, .check path ruleset choice none⟩
        (.checked (.fail failure))
  | command
      {surroundings : Surroundings}
      {log : LogState}
      {line : List Text}
      {launcher : Launcher}
      {order : Command.Order}
      {remarks : Text}
      (ordered : Command.settle surroundings.files line = .inr order) :
      Raises failure ⟨surroundings, log, .command line launcher⟩
        (.outcome ((Command.Outcome.fail [] [] failure).after remarks))

theorem not_drops_of_reads
    {moment : Moment}
    (needed : moment.reads = true) :
    moment.drops = false := by
  rcases moment with ⟨surroundings, log, step⟩
  cases step with
  | dropSettings => cases needed
  | _ => rfl

/-- Three kinds of steps need the settings of the session. -/
theorem reads_cases
    {surroundings : Surroundings}
    {log : LogState}
    {step : Step}
    (needed : reads ⟨surroundings, log, step⟩ = true) :
    step = .readSettings ∨
      (∃ path ruleset choice, step = .check path ruleset choice none) ∨
      ∃ line launcher order, step = .command line launcher ∧
        Command.settle surroundings.files line = .inr order := by
  cases step with
  | readSettings => exact Or.inl rfl
  | check path ruleset choice given =>
      cases given with
      | none => exact Or.inr (Or.inl ⟨path, ruleset, choice, rfl⟩)
      | some members => cases needed
  | command line launcher =>
      simp only [reads] at needed
      cases settled : Command.settle surroundings.files line with
      | inl outcome =>
          rw [settled] at needed
          cases needed
      | inr order => exact Or.inr (Or.inr ⟨line, launcher, order, rfl, settled⟩)
  | _ => cases needed

end Moment

/--
The settings in force after a history: those of the first loading that succeeded
since the settings were dropped last, or since the start.
-/
def settingsInForce (history : List Moment) : Option Settings :=
  (history.rtakeWhile (!·.drops)).findSome? Moment.loaded?

theorem settingsInForce_concat
    (history : List Moment)
    (moment : Moment) :
    settingsInForce (history ++ [moment]) =
      if moment.drops then none else (settingsInForce history).or moment.loaded? := by
  unfold settingsInForce
  cases dropped : moment.drops with
  | true => simp [dropped]
  | false => simp [dropped, List.findSome?_append]

namespace Session

/-- The moment at which a step is taken. -/
def moment (session : Session) (step : Step) : Moment :=
  ⟨session.surroundings, session.log, step⟩

/-- The moments of steps that are taken one after another. -/
def moments (session : Session) : List Step → List Moment
  | [] => []
  | first :: rest => session.moment first :: moments (session.step first).1 rest

theorem moments_concat
    (session : Session)
    (steps : List Step)
    (step : Step) :
    session.moments (steps ++ [step]) =
      session.moments steps ++ [(session.run steps).1.moment step] := by
  induction steps generalizing session with
  | nil => rfl
  | cons first rest ih => simp [moments, run, ih]

/-! ## What a step does to the settings that are kept -/

theorem settings_of_loaded
    {session : Session}
    {settings : Settings}
    (empty : session.cache = none)
    (loaded : Settings.load session.surroundings [] = .ok settings) :
    session.settings = ({ session with cache := some settings }, .ok settings) := by
  simp only [Session.settings, empty, loaded]

theorem settings_of_kept
    {session : Session}
    {settings : Settings}
    (kept : session.cache = some settings) :
    session.settings = (session, .ok settings) := by
  simp only [Session.settings, kept]

theorem settings_of_failed
    {session : Session}
    {failure : Failure}
    (empty : session.cache = none)
    (failed : Settings.load session.surroundings [] = .error failure) :
    session.settings = (session, .error failure) := by
  simp only [Session.settings, empty, failed]

theorem cache_settings (session : Session) :
    session.settings.1.cache =
      session.cache.or (Settings.load session.surroundings []).toOption := by
  cases kept : session.cache with
  | some settings =>
      rw [settings_of_kept kept, kept]
      rfl
  | none =>
      cases loaded : Settings.load session.surroundings [] with
      | ok settings =>
          rw [settings_of_loaded kept loaded]
          rfl
      | error failure =>
          rw [settings_of_failed kept loaded]
          exact kept

theorem log_settings (session : Session) : session.settings.1.log = session.log := by
  unfold Session.settings
  split
  · rfl
  · split <;> rfl

theorem logUnder_of_set_up
    {log : LogState}
    {threshold : Nat}
    (setUp : log = some threshold)
    (order : Command.Order)
    (settings : Except Failure Settings) :
    logUnder log order settings = some threshold := by
  subst setUp
  cases settings <;> rfl

/--
A step that needs settings leaves a session that has read them.  It may set up the
log, but does not touch one that is set up.
-/
theorem step_of_reads
    {session : Session}
    {step : Step}
    (reads : (session.moment step).reads = true) :
    ∃ log, (session.step step).1 = { session.settings.1 with log } ∧
      ∀ threshold, session.log = some threshold → log = some threshold := by
  rcases Moment.reads_cases reads with
    rfl | ⟨path, ruleset, choice, rfl⟩ | ⟨line, launcher, order, rfl, settled⟩
  · refine ⟨session.settings.1.log, ?_, fun threshold => (log_settings session).trans⟩
    simp only [Session.step]
    split <;> next found => rw [found]
  · exact ⟨session.settings.1.log, rfl, fun threshold => (log_settings session).trans⟩
  · simp only [Session.step, settled]
    exact ⟨_, rfl, fun threshold setUp => logUnder_of_set_up setUp order _⟩

theorem reads_command
    {session : Session}
    {line : List Text}
    {order : Command.Order}
    (ordered : Command.settle session.surroundings.files line = .inr order)
    (launcher : Launcher) :
    (session.moment (.command line launcher)).reads = true := by
  simp only [moment, Moment.reads, ordered]
  rfl

/-- A step that needs no settings keeps the log, and either drops the settings or keeps them. -/
theorem step_of_not_reads
    {session : Session}
    {step : Step}
    (notReads : (session.moment step).reads = false) :
    (session.step step).1.log = session.log ∧
      (session.step step).1.cache =
        if (session.moment step).drops then none else session.cache := by
  cases step with
  | readSettings => cases notReads
  | check path ruleset choice given =>
      cases given with
      | none => cases notReads
      | some members => exact ⟨rfl, rfl⟩
  | command line launcher =>
      simp only [Moment.reads, moment] at notReads
      simp only [Session.step]
      cases settled : Command.settle session.surroundings.files line with
      | inl outcome => exact ⟨rfl, rfl⟩
      | inr order =>
          rw [settled] at notReads
          cases notReads
  | write path entry =>
      simp only [Session.step]
      split <;> exact ⟨rfl, rfl⟩
  | assign name value =>
      simp only [Session.step]
      split <;> exact ⟨rfl, rfl⟩
  | add severity arguments =>
      simp only [Session.step]
      split <;> exact ⟨rfl, rfl⟩
  | setField severity index field =>
      simp only [Session.step]
      split <;> exact ⟨rfl, rfl⟩
  | dropSettings => exact ⟨rfl, rfl⟩
  | dropFindings => exact ⟨rfl, rfl⟩
  | merge compatibility engine sizeKb => exact ⟨rfl, rfl⟩

theorem cache_step_of_reads
    {session : Session}
    {step : Step}
    (reads : (session.moment step).reads = true) :
    (session.step step).1.cache = session.settings.1.cache := by
  rcases step_of_reads reads with ⟨log, same, -⟩
  rw [same]

/-- One step changes the settings that are kept as it changes those in force. -/
theorem cache_step
    (session : Session)
    (step : Step) :
    (session.step step).1.cache =
      if (session.moment step).drops then none
      else session.cache.or (session.moment step).loaded? := by
  cases reads : (session.moment step).reads with
  | true =>
      rw [cache_step_of_reads reads, cache_settings, Moment.not_drops_of_reads reads,
        if_neg Bool.false_ne_true, Moment.loaded?, if_pos reads]
      rfl
  | false =>
      rw [(step_of_not_reads reads).2]
      simp [Moment.loaded?, reads]

/-- What a session keeps at any time are the settings in force. -/
theorem cache_run
    (surroundings : Surroundings)
    (steps : List Step) :
    ((start surroundings).run steps).1.cache =
      settingsInForce ((start surroundings).moments steps) := by
  induction steps using List.reverseRecOn with
  | nil => rfl
  | append_singleton steps step ih =>
      -- The last step is taken off, since what is in force depends on what came before it.
      rw [run_append, moments_concat, settingsInForce_concat, ← ih]
      exact cache_step _ step

/-! ## What a step does to the log -/

/-- No step touches a log that is set up, commands included. -/
theorem log_step_of_set_up
    {session : Session}
    {threshold : Nat}
    (setUp : session.log = some threshold)
    (step : Step) :
    (session.step step).1.log = some threshold := by
  cases reads : (session.moment step).reads with
  | true =>
      rcases step_of_reads reads with ⟨log, same, stays⟩
      rw [same, ← stays threshold setUp]
  | false => exact (step_of_not_reads reads).1.trans setUp

theorem log_run_of_set_up
    {session : Session}
    {threshold : Nat}
    (setUp : session.log = some threshold)
    (steps : List Step) :
    (session.run steps).1.log = some threshold := by
  induction steps generalizing session with
  | nil => exact setUp
  | cons step rest ih => exact ih (log_step_of_set_up setUp step)

/-! ## What a step answers -/

theorem answersUnder_of_reads
    {session after : Session}
    {step : Step}
    {settings : Settings}
    (reads : (session.moment step).reads = true)
    (known : session.settings = (after, .ok settings)) :
    (session.moment step).AnswersUnder settings (session.step step).2 := by
  rcases Moment.reads_cases reads with
    rfl | ⟨path, ruleset, choice, rfl⟩ | ⟨line, launcher, order, rfl, settled⟩
  · simp only [Session.step, known]
    exact .reading
  · simp only [Session.step, settingsOf, known]
    exact .check
  · simp only [Session.step, settled, carryOut, known]
    exact .command settled

theorem raises_of_reads
    {session after : Session}
    {step : Step}
    {failure : Failure}
    (reads : (session.moment step).reads = true)
    (failed : session.settings = (after, .error failure)) :
    (session.moment step).Raises failure (session.step step).2 := by
  rcases Moment.reads_cases reads with
    rfl | ⟨path, ruleset, choice, rfl⟩ | ⟨line, launcher, order, rfl, settled⟩
  · simp only [Session.step, failed]
    exact .reading
  · simp only [Session.step, settingsOf, failed]
    exact .check
  · simp only [Session.step, settled, carryOut, failed]
    exact .command settled

/-! ## The law -/

/-- A step that needs settings is answered under those in force, which are kept afterwards. -/
def UsesSettings
    (earlier : List Moment)
    (moment : Moment)
    (after : Session)
    (answer : Answer) :
    Prop :=
  ∃ settings, settingsInForce (earlier ++ [moment]) = some settings ∧
    moment.AnswersUnder settings answer ∧ after.cache = some settings

/-- No settings are in force, loading them fails, and none are kept afterwards. -/
def LacksSettings
    (earlier : List Moment)
    (moment : Moment)
    (after : Session)
    (answer : Answer) :
    Prop :=
  ∃ failure, settingsInForce (earlier ++ [moment]) = none ∧ moment.load = .error failure ∧
    moment.Raises failure answer ∧ after.cache = none

/-- How a step of a session deals with the settings, given the moments before it. -/
structure KeepsSettings
    (earlier : List Moment)
    (session : Session)
    (step : Step) :
    Prop where
  /-- What is kept are the settings in force. -/
  kept : session.cache = settingsInForce earlier
  /-- Steps that need settings use the ones in force, or fail for want of them. -/
  reading :
    (session.moment step).reads = true →
      UsesSettings earlier (session.moment step) (session.step step).1 (session.step step).2 ∨
        LacksSettings earlier (session.moment step) (session.step step).1 (session.step step).2
  /-- Settings that are kept last until they are dropped. -/
  lasting :
    ∀ settings, session.cache = some settings →
      (session.moment step).drops = false →
        (session.step step).1.cache = some settings
  /-- A check under given settings neither uses nor changes what is kept. -/
  given :
    ∀ path ruleset choice members, step = .check path ruleset choice (some members) →
      (session.step step).1 = session ∧
        ∀ cache, (Session.step { session with cache } step).2 = (session.step step).2
  /-- A command does to what is kept the same as reading the settings, whatever its options. -/
  options :
    ∀ line launcher order, step = .command line launcher →
      Command.settle session.surroundings.files line = .inr order →
        ∃ log, (session.step step).1 = { (session.step .readSettings).1 with log }

theorem uses_or_lacks_of_reads
    {earlier : List Moment}
    {session : Session}
    {step : Step}
    (kept : session.cache = settingsInForce earlier)
    (reads : (session.moment step).reads = true) :
    UsesSettings earlier (session.moment step) (session.step step).1 (session.step step).2 ∨
      LacksSettings earlier (session.moment step) (session.step step).1
        (session.step step).2 := by
  have inForce :
      settingsInForce (earlier ++ [session.moment step]) =
        (session.step step).1.cache := by
    rw [settingsInForce_concat, ← kept, cache_step]
  have after := cache_step_of_reads reads
  cases cached : session.cache with
  | some settings =>
      have known := settings_of_kept cached
      have same : (session.step step).1.cache = some settings := by rw [after, known, cached]
      exact Or.inl ⟨settings, inForce.trans same, answersUnder_of_reads reads known, same⟩
  | none =>
      cases loaded : Settings.load session.surroundings [] with
      | ok settings =>
          have known := settings_of_loaded cached loaded
          have same : (session.step step).1.cache = some settings := by rw [after, known]
          exact Or.inl ⟨settings, inForce.trans same, answersUnder_of_reads reads known, same⟩
      | error failure =>
          have failed := settings_of_failed cached loaded
          have same : (session.step step).1.cache = none := by rw [after, failed, cached]
          exact Or.inr
            ⟨failure, inForce.trans same, loaded, raises_of_reads reads failed, same⟩

/--
In every session, every step uses the settings that were loaded by the first
success since they were dropped last, and what is kept is never anything else.
-/
theorem every_step_uses_settings_in_force
    (surroundings : Surroundings)
    (before after : List Step)
    (step : Step) :
    ((start surroundings).run (before ++ step :: after)).2[before.length]? =
        some (((start surroundings).run before).1.step step).2 ∧
      KeepsSettings ((start surroundings).moments before) ((start surroundings).run before).1
        step := by
  have kept := cache_run surroundings before
  refine ⟨answer_at _ before after step, kept, uses_or_lacks_of_reads kept, ?_, ?_, ?_⟩
  · intro settings cached notDrops
    rw [cache_step, notDrops, cached]
    rfl
  · rintro path ruleset choice members rfl
    exact ⟨rfl, fun cache => rfl⟩
  · rintro line launcher order rfl settled
    rcases step_of_reads (reads_command settled launcher) with ⟨log, same, -⟩
    have reading : (((start surroundings).run before).1.moment .readSettings).reads = true := rfl
    rcases step_of_reads reading with ⟨otherLog, sameToo, -⟩
    exact ⟨log, by rw [same, sameToo]⟩

/-- The names of the thresholds in the settings that a session answers with. -/
def shownLevels (answers : List Answer) : List Text :=
  answers.filterMap fun
    | .settings settings => some settings.logLevel
    | _ => none

example :
    shownLevels
        ((start ⟨⟨[], []⟩, [], Path.ofText "/preflight.yaml", .utf8⟩).run
          [.assign "OAS_PREFLIGHT_LOG_LEVEL" (some "INFO"), .readSettings,
            .assign "OAS_PREFLIGHT_LOG_LEVEL" (some "DEBUG"), .readSettings,
            .dropSettings, .readSettings]).2 =
      ["INFO", "INFO", "DEBUG"] := by
  decide +kernel

end Session

end OpenApiGate
