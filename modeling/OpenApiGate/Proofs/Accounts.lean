import OpenApiGate.Proofs.Banners

/-!
# Warnings that are shown and warnings that are counted

A report itemizes some warnings and announces how many there are besides.  The
list is cut in one place, and the number of the others is reckoned in another.
The two add up to all warnings under every limit that is a number of warnings.

A negative limit is none.  The cut takes it for a number of warnings to leave out
at the end, and the reckoning adds as many to the number of all warnings.
-/

namespace OpenApiGate

namespace Text

/-- Lines as they stand in a text, each with its end. -/
def lined (lines : List Text) : Text :=
  lines.flatMap (· ++ Text.ofString "\n")

theorem lined_append (front back : List Text) :
    lined (front ++ back) = lined front ++ lined back :=
  List.flatMap_append

theorem lined_cons (line : Text) (rest : List Text) :
    lined (line :: rest) = line ++ Text.ofString "\n" ++ lined rest :=
  List.flatMap_cons

/-- Lines that are joined lack the end of the last one. -/
theorem joined_append_end
    {lines : List Text}
    (some : lines ≠ []) :
    joined "\n" lines ++ Text.ofString "\n" = lined lines := by
  induction lines with
  | nil => exact absurd rfl some
  | cons line rest ih =>
      cases rest with
      | nil => simp [joined, lined]
      | cons next others =>
          have tail := ih (List.cons_ne_nil next others)
          unfold joined at tail ⊢
          rw [List.intercalate_cons_of_ne_nil (List.cons_ne_nil next others), List.append_assoc,
            tail, lined_cons line]

theorem lined_eq_of_joined_eq
    {lines others : List Text}
    (some : lines ≠ [])
    (someOthers : others ≠ [])
    (same : joined "\n" lines = joined "\n" others) :
    lined lines = lined others := by
  rw [← joined_append_end some, ← joined_append_end someOthers, same]

end Text

namespace Report

/-! ## Counts -/

theorem takeWhile_isDigit_counted (count : Nat) (word : Text) :
    (counted count word).takeWhile CodePoint.isDigit = Text.ofNat count := by
  have digits : ∀ point ∈ Text.ofNat count, point.isDigit = true :=
    fun _ member => Decimal.isDigit_of_mem_ofNat member
  unfold counted
  rw [List.append_assoc, List.append_assoc, List.takeWhile_append_of_pos digits]
  exact List.append_nil _

/-- A count can be read off its text. -/
theorem counted_injective
    {count other : Nat}
    {word : Text}
    (same : counted count word = counted other word) :
    count = other := by
  apply Decimal.ofNat_injective
  rw [← takeWhile_isDigit_counted count word, ← takeWhile_isDigit_counted other word, same]

/-! ## The section on warnings -/

/-- The lines that announce a number of warnings besides the itemized ones. -/
def announcement (announced : Nat) : List Text :=
  if announced = 0 then []
  else ["  ... and " ++ counted announced "more warning", []]

/-- The section that itemizes some warnings and announces a number of others. -/
def accountSection
    (shown : List Finding)
    (announced : Nat) :
    List Text :=
  if shown = [] ∧ announced = 0 then []
  else
    Text.ofString "Warnings (optional):" :: rule 40 '-' ::
      (shown.flatMap warningLines ++ announcement announced)

/-- The text is a report that itemizes some warnings and announces a number of others. -/
def Accounts
    (options : ReportOptions)
    (verdict : Verdict)
    (shown : List Finding)
    (announced : Nat)
    (text : Text) :
    Prop :=
  ∃ size, sizeLines options.limit verdict.sizeKb = .ok size ∧
    text =
      Text.joined "\n"
        (headLines options.document size ++
          (bannerLines verdict.errors.length verdict.warnings.length ++ [[]] ++
            errorSection verdict.errors ++ accountSection shown announced))

/-- Under a limit, the itemized warnings and the number of others account for all warnings. -/
structure AddsUp
    (limit : Int)
    (warnings shown : List Finding)
    (announced : Nat) :
    Prop where
  inOrder : shown <+: warnings
  total : shown.length + announced = warnings.length
  /-- A negative limit lets none be itemized. -/
  few : shown.length ≤ limit.toNat

theorem remainderLines_eq (limit : Int) (count : Nat) :
    remainderLines limit count = announcement (count - limit).toNat := by
  unfold remainderLines announcement
  by_cases more : 0 < count - limit
  · rw [if_pos more, if_neg (by omega)]
  · rw [if_neg more, if_pos (by omega)]

theorem itemized_nil (limit : Int) : itemized limit [] = [] := by
  cases limit <;> exact List.take_nil

theorem itemized_prefix (limit : Int) (warnings : List Finding) :
    itemized limit warnings <+: warnings := by
  cases limit <;> exact List.take_prefix _ _

/-- Where there are warnings, some are itemized or a number is announced. -/
theorem remaining_ne_zero_of_itemized_eq_nil
    {limit : Int}
    {warnings : List Finding}
    (some : warnings ≠ [])
    (none : itemized limit warnings = []) :
    remaining limit warnings ≠ 0 := by
  have length := List.length_pos_of_ne_nil some
  rw [remaining, if_neg (by simpa using some)]
  cases limit with
  | ofNat count =>
      have noCount : count = 0 := (List.take_eq_nil_iff.mp none).resolve_right some
      subst noCount
      show (warnings.length - (0 : Int)).toNat ≠ 0
      omega
  | negSucc count => omega

theorem warningSection_eq (limit : Int) (warnings : List Finding) :
    warningSection limit warnings =
      accountSection (itemized limit warnings) (remaining limit warnings) := by
  unfold warningSection accountSection
  cases warnings with
  | nil => rw [itemized_nil]; rfl
  | cons first rest =>
      have counts :
          ¬ (itemized limit (first :: rest) = [] ∧ remaining limit (first :: rest) = 0) := by
        rintro ⟨none, zero⟩
        exact remaining_ne_zero_of_itemized_eq_nil (List.cons_ne_nil first rest) none zero
      rw [if_neg counts, remainderLines_eq]
      rfl

/-- A report itemizes what is cut off the warnings and announces what is reckoned. -/
theorem accounts_of_text
    {options : ReportOptions}
    {verdict : Verdict}
    {text : Text}
    (notFatal : verdict.fatal = none)
    (written : Report.text options verdict = .ok text) :
    Accounts options verdict (itemized options.shownWarnings verdict.warnings)
      (remaining options.shownWarnings verdict.warnings) text := by
  simp only [Report.text, Fallible.map_eq_ok_iff, lines_eq_ok_iff] at written
  rcases written with ⟨_, ⟨size, sized, -, rfl⟩, rfl⟩
  refine ⟨size, sized, ?_⟩
  rw [← warningSection_eq]
  simp only [bodyLines, notFatal]

/-! ## A report has one reading -/

theorem lined_announcement_injective
    {announced other : Nat}
    (same : Text.lined (announcement announced) = Text.lined (announcement other)) :
    announced = other := by
  unfold announcement at same
  by_cases zero : announced = 0
  · by_cases otherZero : other = 0
    · rw [zero, otherZero]
    · rw [if_pos zero, if_neg otherZero] at same
      cases same
  · by_cases otherZero : other = 0
    · rw [if_neg zero, if_pos otherZero] at same
      cases same
    · rw [if_neg zero, if_neg otherZero] at same
      simp only [Text.lined_cons, List.append_assoc, List.append_cancel_left_eq,
        List.append_cancel_right_eq] at same
      exact counted_injective same

/-- A further warning begins with another character than an announcement. -/
theorem lined_announcement_ne_warning
    (announced : Nat)
    (warning : Finding)
    (rest : List Text) :
    Text.lined (announcement announced) ≠ Text.lined (warningLines warning ++ rest) := by
  intro same
  have begins := congrArg List.head? same
  unfold announcement at begins
  split at begins
  · cases begins
  · cases begins

/-- Warnings in front of others, and a number besides, are read off their section. -/
theorem eq_of_lined_accountSection
    {shown further : List Finding}
    {announced other : Nat}
    (same :
      Text.lined (accountSection shown announced) =
        Text.lined (accountSection (shown ++ further) other)) :
    further = [] ∧ announced = other := by
  unfold accountSection at same
  split at same
  · next none =>
      split at same
      · next noneOther =>
          exact ⟨(List.append_eq_nil_iff.mp noneOther.1).2, none.2.trans noneOther.2.symm⟩
      · cases same
  · split at same
    · cases same
    · simp only [Text.lined_cons, List.flatMap_append, Text.lined_append, List.append_assoc,
        List.append_cancel_left_eq] at same
      cases further with
      | nil => exact ⟨rfl, lined_announcement_injective same⟩
      | cons warning others =>
          rw [List.flatMap_cons, ← Text.lined_append, List.append_assoc] at same
          exact absurd same (lined_announcement_ne_warning announced warning _)

/-- Of the beginnings of a list of warnings, a report itemizes one and announces one number. -/
theorem Accounts.unique
    {options : ReportOptions}
    {verdict : Verdict}
    {shown others warnings : List Finding}
    {announced other : Nat}
    {text : Text}
    (accounts : Accounts options verdict shown announced text)
    (again : Accounts options verdict others other text)
    (inOrder : shown <+: warnings)
    (othersInOrder : others <+: warnings) :
    others = shown ∧ other = announced := by
  rcases accounts with ⟨size, sized, rfl⟩
  rcases again with ⟨otherSize, otherSized, same⟩
  cases sized.symm.trans otherSized
  have nonempty : ∀ rest, headLines options.document size ++ rest ≠ [] :=
    fun rest => List.cons_ne_nil _ _
  have sections :
      Text.lined (accountSection shown announced) =
        Text.lined (accountSection others other) := by
    have whole := Text.lined_eq_of_joined_eq (nonempty _) (nonempty _) same
    simpa only [Text.lined_append, List.append_cancel_left_eq] using whole
  rcases List.prefix_or_prefix_of_prefix inOrder othersInOrder with ⟨further, rfl⟩ | ⟨further, rfl⟩
  · rcases eq_of_lined_accountSection sections with ⟨rfl, number⟩
    exact ⟨List.append_nil _, number.symm⟩
  · rcases eq_of_lined_accountSection sections.symm with ⟨rfl, number⟩
    exact ⟨(List.append_nil _).symm, number⟩

/-! ## When the numbers add up -/

theorem addsUp_nil (limit : Int) :
    AddsUp limit [] (itemized limit []) (remaining limit []) where
  inOrder := itemized_prefix limit []
  total := by rw [itemized_nil]; rfl
  few := by
    rw [itemized_nil]
    exact Nat.zero_le _

theorem addsUp_of_count
    (count : Nat)
    (warnings : List Finding) :
    AddsUp count warnings (itemized count warnings) (remaining count warnings) where
  inOrder := itemized_prefix count warnings
  total := by
    show (warnings.take count).length + remaining count warnings = warnings.length
    rw [List.length_take, remaining]
    split
    · next empty => rw [List.isEmpty_iff.mp empty]; simp
    · omega
  few := List.length_take_le count warnings

/-- A negative limit makes the report announce more warnings than there are. -/
theorem length_lt_remaining_of_negative
    {limit : Int}
    {warnings : List Finding}
    (negative : limit < 0)
    (some : warnings ≠ []) :
    warnings.length < remaining limit warnings := by
  rw [remaining, if_neg (by simpa using some)]
  omega

theorem addsUp_iff
    (limit : Int)
    (warnings : List Finding) :
    AddsUp limit warnings (itemized limit warnings) (remaining limit warnings) ↔
      warnings = [] ∨ 0 ≤ limit := by
  constructor
  · intro addsUp
    by_contra neither
    rw [not_or, Int.not_le] at neither
    have tooMany := length_lt_remaining_of_negative neither.2 neither.1
    have total := addsUp.total
    omega
  · rintro (rfl | natural)
    · exact addsUp_nil limit
    · rcases Int.eq_ofNat_of_zero_le natural with ⟨count, rfl⟩
      exact addsUp_of_count count warnings

/--
A report on a verdict that is not fatal itemizes the warnings up to some place and
announces one number of others.  They account for all warnings exactly if there are
no warnings or the limit is not negative.
-/
theorem report_accounts_for_warnings_iff
    {options : ReportOptions}
    {verdict : Verdict}
    {text : Text}
    (notFatal : verdict.fatal = none)
    (written : Report.text options verdict = .ok text) :
    ∃ shown announced,
      Accounts options verdict shown announced text ∧ shown <+: verdict.warnings ∧
        (∀ others other, Accounts options verdict others other text →
          others <+: verdict.warnings → others = shown ∧ other = announced) ∧
        (AddsUp options.shownWarnings verdict.warnings shown announced ↔
          verdict.warnings = [] ∨ 0 ≤ options.shownWarnings) := by
  have accounts := accounts_of_text notFatal written
  have inOrder := itemized_prefix options.shownWarnings verdict.warnings
  refine ⟨_, _, accounts, inOrder, ?_, addsUp_iff _ _⟩
  intro others other again othersInOrder
  exact accounts.unique again inOrder othersInOrder

/-- A verdict with a number of warnings and nothing else. -/
def warned (count : Nat) : Verdict :=
  .merge .empty .empty (.ofWarnings (List.replicate count (.warning "p" "m"))) none

/-- Options under which a number of warnings is itemized. -/
def showing (limit : Int) : ReportOptions :=
  ⟨"d.json", none, limit⟩

theorem three_warnings_add_up_under_limit_of_two :
    ∃ text shown announced,
      Report.text (showing 2) (warned 3) = .ok text ∧
        Accounts (showing 2) (warned 3) shown announced text ∧
        AddsUp 2 (warned 3).warnings shown announced := by
  have written : ∃ text, Report.text (showing 2) (warned 3) = .ok text := ⟨_, rfl⟩
  rcases written with ⟨text, written⟩
  rcases report_accounts_for_warnings_iff rfl written with
    ⟨shown, announced, accounts, -, -, addsUp⟩
  exact ⟨text, shown, announced, written, accounts, addsUp.mpr (Or.inr (by decide))⟩

/-- Under a limit of minus one, a report on one warning announces two. -/
theorem negative_limit_announces_too_many :
    ∃ text, Report.text (showing (-1)) (warned 1) = .ok text ∧
      Accounts (showing (-1)) (warned 1) [] 2 text ∧
      ¬ ∃ shown announced, Accounts (showing (-1)) (warned 1) shown announced text ∧
        AddsUp (-1) (warned 1).warnings shown announced := by
  have accounts : Accounts (showing (-1)) (warned 1) [] 2 _ := accounts_of_text rfl rfl
  refine ⟨_, rfl, accounts, ?_⟩
  rintro ⟨shown, announced, again, addsUp⟩
  rcases accounts.unique again List.nil_prefix addsUp.inOrder with ⟨rfl, rfl⟩
  exact absurd addsUp.total (by decide)

end Report

end OpenApiGate
