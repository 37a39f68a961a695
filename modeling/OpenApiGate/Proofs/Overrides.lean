import OpenApiGate.Proofs.Orders

/-!
# Options in place of settings

A limit or a ruleset on the command line stands for the setting of the same
name: without the option, and with the setting in its place, the command does
the same.  The limit reaches the check and the report, the ruleset reaches the
check on a way of its own.

A ruleset on the command line is looked at first: one that may not be read is
refused there, and is left to the linter where the settings name it.
-/

namespace OpenApiGate

namespace FileTree

/-- A path leads to a file that may be read. -/
def LeadsToReadable (files : FileTree) (path : Text) : Prop :=
  ∃ content readFault, files.find path = .ok (.file content readFault) ∧
    readFault.any Fault.deniesAccess = false

theorem LeadsToReadable.ne_nil
    {files : FileTree}
    {path : Text}
    (readable : files.LeadsToReadable path) :
    path ≠ [] := by
  rintro rfl
  rcases readable with ⟨content, readFault, found, -⟩
  cases found

end FileTree

namespace Command

variable {order : Order} {settings : Settings}

/-- What an order comes to depends on the threshold, the check and the report. -/
theorem Order.run_congr
    {first second : Order}
    {surroundings : Surroundings}
    {log : LogState}
    {launcher : Launcher}
    {firstSettings secondSettings : Settings}
    (sameThreshold :
      first.threshold log (first.settings firstSettings).logLevel =
        second.threshold log (second.settings secondSettings).logLevel)
    (sameCheck :
      (first.check (first.settings firstSettings) launcher).run surroundings =
        (second.check (second.settings secondSettings) launcher).run surroundings)
    (sameReport :
      first.report (first.settings firstSettings) =
        second.report (second.settings secondSettings)) :
    first.run surroundings log launcher firstSettings =
      second.run surroundings log launcher secondSettings := by
  unfold run conclude
  simp only [sameThreshold, sameCheck, sameReport]

theorem Order.threshold_without
    {dropped : List OptionName}
    (kept : .verbose ∉ dropped)
    (order : Order) :
    (order.without dropped).threshold = order.threshold := by
  funext log logLevel
  unfold threshold
  rw [isVerbose_without kept]

/-- A report depends on the settings for the limit and the number of warnings only. -/
theorem Order.report_without
    {dropped : List OptionName}
    {first second : Settings}
    (kept : .json ∉ dropped)
    (order : Order)
    (sameLimit : first.maxSizeKb = second.maxSizeKb)
    (sameShown : first.maxWarningsShown = second.maxWarningsShown) :
    (order.without dropped).report first = order.report second := by
  funext verdict
  unfold report
  rw [asJson_without kept, sameLimit, sameShown]
  rfl

/-- A limit that is ordered is a limit that is set. -/
theorem Order.run_of_limit
    {limit : Float}
    (given : order.maxSizeKb = some limit)
    (surroundings : Surroundings)
    (log : LogState)
    (launcher : Launcher)
    (settings : Settings) :
    order.run surroundings log launcher settings =
      (order.without [.maxSizeKb]).run surroundings log launcher
        { settings with maxSizeKb := limit } := by
  have sameSettings :
      (order.without [.maxSizeKb]).settings { settings with maxSizeKb := limit } =
        order.settings settings := by
    unfold Order.settings
    rw [given]
    rfl
  apply run_congr
  · rw [sameSettings, threshold_without (by decide)]
  · rw [sameSettings]
    exact Check.run_congr rfl rfl rfl rfl rfl
  · rw [sameSettings, report_without (by decide) order rfl rfl]

/-- A ruleset that is ordered is a ruleset that is set. -/
theorem Order.run_of_ruleset
    {path : Text}
    (given : order.ruleset = some path)
    (nonempty : path ≠ [])
    (surroundings : Surroundings)
    (log : LogState)
    (launcher : Launcher)
    (settings : Settings) :
    order.run surroundings log launcher settings =
      (order.without [.ruleset]).run surroundings log launcher
        { settings with rulesetPath := some path } := by
  have ordered :
      (order.check (order.settings settings) launcher).chosenRuleset
        surroundings.packagedRuleset = Path.ofText path := by
    simp only [Check.chosenRuleset, Order.check, given]
  have isSet :
      ((order.without [.ruleset]).check
          ((order.without [.ruleset]).settings { settings with rulesetPath := some path })
          launcher).chosenRuleset surroundings.packagedRuleset = Path.ofText path := by
    show Settings.ruleset { settings with rulesetPath := some path } _ = _
    cases path with
    | nil => exact absurd rfl nonempty
    | cons first rest => rfl
  apply run_congr
  · exact congrFun (congrFun (threshold_without (by decide) order).symm _) _
  · exact Check.run_congr rfl rfl rfl rfl (ordered.trans isSet.symm)
  · exact (report_without (by decide) order rfl rfl).symm

end Command

namespace Session

open Command

/-- The answer of a session that keeps some settings to a command line. -/
def answerUnder
    (session : Session)
    (settings : Settings)
    (line : List Text)
    (launcher : Launcher) :
    Answer :=
  (({ session with cache := some settings } : Session).step (.command line launcher)).2

theorem answerUnder_of_outcome
    {session : Session}
    {line : List Text}
    {outcome : Outcome}
    (settled : settle session.surroundings.files line = .inl outcome)
    (settings : Settings)
    (launcher : Launcher) :
    session.answerUnder settings line launcher = .outcome outcome := by
  simp only [answerUnder, step, settled]

theorem answerUnder_of_order
    {session : Session}
    {line : List Text}
    {order : Order}
    (settled : settle session.surroundings.files line = .inr order)
    (settings : Settings)
    (launcher : Launcher) :
    session.answerUnder settings line launcher =
      .outcome (order.run session.surroundings session.log launcher settings) := by
  simp only [answerUnder, step, settled]
  rfl

/-- An option may be left out of a line if settings with it do the same as the order without it. -/
theorem answerUnder_without
    {session : Session}
    {launcher : Launcher}
    {settings changed : Settings}
    {line bare : List Text}
    {words : Words}
    {dropped : List OptionName}
    (read : readWords line = .ok words)
    (bareRead : readWords bare = .ok (words.without dropped))
    (accepts : words.Accepts session.surroundings.files dropped)
    (named : words.arguments ≠ [])
    (keepsHelp : .help ∉ dropped)
    (sameRun :
      ∀ order, settle session.surroundings.files line = .inr order →
        order.run session.surroundings session.log launcher settings =
          (order.without dropped).run session.surroundings session.log launcher changed) :
    session.answerUnder settings line launcher = session.answerUnder changed bare launcher := by
  have settled := settle_without read bareRead accepts named keepsHelp
  cases lineSettled : settle session.surroundings.files line with
  | inl outcome =>
      rw [lineSettled] at settled
      rw [answerUnder_of_outcome lineSettled, answerUnder_of_outcome settled]
      rfl
  | inr order =>
      rw [lineSettled] at settled
      rw [answerUnder_of_order lineSettled, answerUnder_of_order settled, sameRun order lineSettled]

theorem accepts_limit
    {files : FileTree}
    {words : Words}
    {limit : Float}
    (limited : (words.value? .maxSizeKb).bind Decimal.argumentDouble? = some limit) :
    checkValue files words .maxSizeKb = .ok () := by
  rcases Option.bind_eq_some_iff.mp limited with ⟨value, given, isNumber⟩
  simp only [checkValue, given, isNumber]
  rfl

theorem accepts_ruleset
    {files : FileTree}
    {words : Words}
    {path : Text}
    (ruled : words.value? .ruleset = some path)
    (readable : files.LeadsToReadable path) :
    checkValue files words .ruleset = .ok () := by
  rcases readable with ⟨content, readFault, found, isReadable⟩
  simp only [checkValue, ruled, checkRuleset, found, isReadable]
  rfl

/--
A command line with a limit or a readable ruleset is answered like one without
these options under settings that have them instead, each option on its own and
both together, wherever they stand.  There always is such a line.
-/
theorem options_amount_to_settings
    (session : Session)
    (launcher : Launcher)
    (settings : Settings)
    {line : List Text}
    {words : Words}
    (read : readWords line = .ok words)
    (named : words.arguments ≠ []) :
    (∀ dropped, ∃ bare, readWords bare = .ok (words.without dropped)) ∧
      (∀ limit, (words.value? .maxSizeKb).bind Decimal.argumentDouble? = some limit →
        ∀ bare, readWords bare = .ok (words.without [.maxSizeKb]) →
          session.answerUnder settings line launcher =
            session.answerUnder { settings with maxSizeKb := limit } bare launcher) ∧
      (∀ path, words.value? .ruleset = some path →
        session.surroundings.files.LeadsToReadable path →
          ∀ bare, readWords bare = .ok (words.without [.ruleset]) →
            session.answerUnder settings line launcher =
              session.answerUnder { settings with rulesetPath := some path } bare launcher) ∧
      ∀ limit path,
        (words.value? .maxSizeKb).bind Decimal.argumentDouble? = some limit →
          words.value? .ruleset = some path →
            session.surroundings.files.LeadsToReadable path →
              ∀ bare, readWords bare = .ok (words.without [.maxSizeKb, .ruleset]) →
                session.answerUnder settings line launcher =
                  session.answerUnder
                    { settings with maxSizeKb := limit, rulesetPath := some path } bare
                    launcher := by
  refine ⟨exists_line_without read, ?_, ?_, ?_⟩
  · intro limit limited bare bareRead
    apply answerUnder_without read bareRead ?_ named (by decide)
    · intro order settled
      exact Order.run_of_limit ((order_of_settle read settled).2.trans limited) _ _ _ _
    · intro name dropped
      rw [List.mem_singleton.mp dropped]
      exact accepts_limit limited
  · intro path ruled readable bare bareRead
    apply answerUnder_without read bareRead ?_ named (by decide)
    · intro order settled
      exact
        Order.run_of_ruleset ((order_of_settle read settled).1.trans ruled) readable.ne_nil
          _ _ _ _
    · intro name dropped
      rw [List.mem_singleton.mp dropped]
      exact accepts_ruleset ruled readable
  · intro limit path limited ruled readable bare bareRead
    apply answerUnder_without read bareRead ?_ named (by decide)
    · intro order settled
      have fields := order_of_settle read settled
      -- The limit is replaced first; the order that is left still has its ruleset.
      have stillRuled : (order.without [.maxSizeKb]).ruleset = some path := fields.1.trans ruled
      rw [Order.run_of_limit (fields.2.trans limited),
        Order.run_of_ruleset stillRuled readable.ne_nil, Order.without_without]
      rfl
    · intro name dropped
      rcases List.mem_pair.mp dropped with rfl | rfl
      · exact accepts_limit limited
      · exact accepts_ruleset ruled readable

/-- A session in a directory that holds an empty ruleset and nothing else. -/
def soleRuleset (readFault : Option Fault) : Session :=
  .start
    { files := ⟨[], [([Text.nameBytes "r.yaml"], .file [] readFault)]⟩
      environment := []
      packagedRuleset := Path.ofText "/preflight.yaml" }

/-- A limit that is no number, and a ruleset behind it. -/
def overridden : Words :=
  ⟨[(.maxSizeKb, "nan"), (.ruleset, "r.yaml")], ["d.json"]⟩

theorem nan_and_ruleset_amount_to_settings :
    readWords ["--max-size-kb=nan", "d.json", "--ruleset", "r.yaml"] = .ok overridden ∧
      overridden.arguments ≠ [] ∧
      ∀ launcher,
        (soleRuleset none).answerUnder .usual
            ["--max-size-kb=nan", "d.json", "--ruleset", "r.yaml"] launcher =
          (soleRuleset none).answerUnder
            { Settings.usual with maxSizeKb := 0.0 / 0.0, rulesetPath := some "r.yaml" }
            ["d.json"] launcher := by
  have read :
      readWords ["--max-size-kb=nan", "d.json", "--ruleset", "r.yaml"] = .ok overridden := rfl
  have named : overridden.arguments ≠ [] := List.cons_ne_nil _ _
  refine ⟨read, named, fun launcher => ?_⟩
  have readable : (soleRuleset none).surroundings.files.LeadsToReadable "r.yaml" :=
    ⟨[], none, rfl, rfl⟩
  have amounts := options_amount_to_settings (soleRuleset none) launcher .usual read named
  exact amounts.2.2.2 _ "r.yaml" rfl rfl readable ["d.json"] rfl

/-- The fault of a ruleset to which access is denied. -/
def accessDenied : Fault :=
  ⟨.permissionDenied, "[Errno 13] Permission denied: 'r.yaml'"⟩

/-- A ruleset that may not be read is refused as an option and not as a setting. -/
theorem unreadable_ruleset_is_refused :
    (soleRuleset (some accessDenied)).surroundings.files.find "r.yaml" =
        .ok (.file [] (some accessDenied)) ∧
      ∀ launcher, ∃ refused told,
        (soleRuleset (some accessDenied)).answerUnder .usual ["d.json", "--ruleset", "r.yaml"]
            launcher = .outcome refused ∧
          (soleRuleset (some accessDenied)).answerUnder
              { Settings.usual with rulesetPath := some "r.yaml" } ["d.json"] launcher =
            .outcome told ∧
          refused.output ≠ told.output := by
  refine ⟨rfl, fun launcher => ⟨_, _, rfl, rfl, ?_⟩⟩
  exact (List.cons_ne_nil _ _).symm

end Session

end OpenApiGate
