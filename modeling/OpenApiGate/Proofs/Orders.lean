import Mathlib.Data.List.Basic
import OpenApiGate.Proofs.Fallible
import OpenApiGate.Session

/-!
# What an order depends on

Some options of a command line may be left out.  If their values are acceptable
and the document is still named, what is left asks for the same check, except
that the order says nothing about these options.  A check in turn depends on its
settings only for the limit, the ruleset and the engine.
-/

namespace OpenApiGate

/-! ## Lists of which some items are left out -/

section LeftOut

variable {α β : Type} [BEq α] [LawfulBEq α]

/-- Leaving out other keys does not change what is found under a key. -/
theorem lookup_filter_key
    (keeps : α → Bool)
    {key : α}
    (kept : keeps key = true)
    (entries : List (α × β)) :
    (entries.filter fun entry => keeps entry.1).lookup key = entries.lookup key := by
  induction entries with
  | nil => rfl
  | cons entry rest ih =>
      rcases entry with ⟨found, value⟩
      cases same : key == found with
      | true =>
          have keepsFound : keeps found = true := by rwa [← eq_of_beq same]
          simp [keepsFound, same, List.lookup_cons]
      | false =>
          cases keepsFound : keeps found <;> simp [keepsFound, same, ih, List.lookup_cons]

/-- Nothing is found under a key that is left out. -/
theorem lookup_filter_key_of_dropped
    (keeps : α → Bool)
    {key : α}
    (dropped : keeps key = false)
    (entries : List (α × β)) :
    (entries.filter fun entry => keeps entry.1).lookup key = none := by
  rw [List.lookup_eq_none_iff]
  intro entry member
  have kept : keeps entry.1 = true := (List.mem_filter.mp member).2
  rw [bne_iff_ne]
  rintro rfl
  rw [dropped] at kept
  cases kept

/-- Items may be left out before or after repetitions are. -/
theorem eraseDups_filter
    (keeps : α → Bool)
    (items : List α) :
    (items.filter keeps).eraseDups = items.eraseDups.filter keeps := by
  match items with
  | [] => rfl
  | item :: rest =>
      have tail := eraseDups_filter keeps (rest.filter fun other => !other == item)
      rw [List.filter_filter] at tail
      rw [List.eraseDups_cons]
      cases kept : keeps item with
      | true =>
          rw [List.filter_cons_of_pos kept, List.filter_cons_of_pos kept, List.eraseDups_cons,
            List.filter_filter, ← tail]
          simp only [Bool.and_comm]
      | false =>
          have noneLost :
              (rest.filter fun other => keeps other && !other == item) = rest.filter keeps := by
            apply List.filter_congr
            intro other _
            cases same : other == item with
            | false => simp
            | true => simp [eq_of_beq same, kept]
          rw [noneLost] at tail
          rw [List.filter_cons_of_neg (by simp [kept]), List.filter_cons_of_neg (by simp [kept]),
            tail]
termination_by items.length
decreasing_by exact Nat.lt_succ_of_le (List.length_filter_le _ _)

end LeftOut

/-- Steps that come to nothing may be left out. -/
theorem forM_filter
    {α ε : Type}
    (keeps : α → Bool)
    {step : α → Except ε Unit}
    {items : List α}
    (idle : ∀ item ∈ items, keeps item = false → step item = .ok ()) :
    (items.filter keeps).forM step = items.forM step := by
  induction items with
  | nil => rfl
  | cons item rest ih =>
      have tail := ih fun other member => idle other (List.mem_cons_of_mem item member)
      cases kept : keeps item with
      | true =>
          rw [List.filter_cons_of_pos kept]
          show (step item >>= fun _ => (rest.filter keeps).forM step) = _
          rw [tail]
          rfl
      | false =>
          rw [List.filter_cons_of_neg (by simp [kept]), tail]
          show _ = (step item >>= fun _ => rest.forM step)
          rw [idle item List.mem_cons_self kept]
          rfl

namespace Command

/-! ## Options that are left out -/

/-- The words without some of the options. -/
def Words.without
    (dropped : List OptionName)
    (words : Words) :
    Words :=
  ⟨words.options.filter fun option => option.1 ∉ dropped, words.arguments⟩

/-- An order that says nothing about some of the options. -/
def Order.without
    (dropped : List OptionName)
    (order : Order) :
    Order where
  path := order.path
  asJson := order.asJson && .json ∉ dropped
  ruleset := if .ruleset ∈ dropped then none else order.ruleset
  maxSizeKb := if .maxSizeKb ∈ dropped then none else order.maxSizeKb
  isVerbose := order.isVerbose && .verbose ∉ dropped

theorem Order.asJson_without
    {dropped : List OptionName}
    (kept : .json ∉ dropped)
    (order : Order) :
    (order.without dropped).asJson = order.asJson := by
  simp [without, kept]

theorem Order.isVerbose_without
    {dropped : List OptionName}
    (kept : .verbose ∉ dropped)
    (order : Order) :
    (order.without dropped).isVerbose = order.isVerbose := by
  simp [without, kept]

/-- Options may be left out one after another. -/
theorem Order.without_without
    (first second : List OptionName)
    (order : Order) :
    (order.without first).without second = order.without (first ++ second) := by
  have kept (name : OptionName) :
      decide (name ∉ first ++ second) = (decide (name ∉ first) && decide (name ∉ second)) := by
    simp
  have dropped (name : OptionName) {value : Type} (given : Option value) :
      (if name ∈ first ++ second then none else given) =
        if name ∈ second then none else if name ∈ first then none else given := by
    by_cases inFirst : name ∈ first <;> by_cases inSecond : name ∈ second <;>
      simp [inFirst, inSecond]
  simp only [without, kept, dropped, Bool.and_assoc]

/-- A request that says nothing about some of the options. -/
def Request.without (dropped : List OptionName) : Request → Request
  | .check order => .check (order.without dropped)
  | request => request

/-- What words that could be read ask for. -/
def Words.request
    (files : FileTree)
    (words : Words) :
    Except (Stop UsageError) Request :=
  if words.has .help then .ok .help
  else do
    checkValues files words
    requestOf words

/-- The outcome of a request that is no check, or the order of one that is. -/
def settleRequest : Except (Stop UsageError) Request → Outcome ⊕ Order
  | .error (.foreseen error) => .inl (.complain error.complaint)
  | .error (.unforeseen failure) => .inl (.fail [] [] failure)
  | .ok .help => .inl (.print helpText)
  | .ok .noDocument => .inl (.complain "Error: No spec file provided\n")
  | .ok (.check order) => .inr order

theorem settle_of_read
    (files : FileTree)
    {line : List Text}
    {words : Words}
    (read : readWords line = .ok words) :
    settle files line = settleRequest (words.request files) := by
  have request : readRequest files line = words.request files := by
    simp only [readRequest, read, Words.request]
  rw [← request]
  rfl

theorem settle_of_refused
    (files : FileTree)
    {line : List Text}
    {error : UsageError}
    (refused : readWords line = .error error) :
    settle files line = .inl (.complain error.complaint) := by
  have request : readRequest files line = .error (.foreseen error) := by
    simp only [readRequest, refused]
  simp only [settle, request]

theorem settleRequest_map_without
    (dropped : List OptionName)
    (request : Except (Stop UsageError) Request) :
    settleRequest (request.map (Request.without dropped)) =
      (settleRequest request).map id (Order.without dropped) := by
  rcases request with (error | failure) | (_ | _ | order) <;> rfl

variable {files : FileTree} {dropped : List OptionName} {words : Words}

theorem Words.value?_without_of_kept
    {name : OptionName}
    (kept : name ∉ dropped)
    (words : Words) :
    (words.without dropped).value? name = words.value? name := by
  simp only [value?, without, ← List.filter_reverse]
  exact lookup_filter_key (fun other => decide (other ∉ dropped)) (decide_eq_true kept) _

theorem Words.value?_without_of_dropped
    {name : OptionName}
    (isDropped : name ∈ dropped)
    (words : Words) :
    (words.without dropped).value? name = none := by
  simp only [value?, without, ← List.filter_reverse]
  exact
    lookup_filter_key_of_dropped (fun other => decide (other ∉ dropped))
      (decide_eq_false (not_not_intro isDropped)) _

theorem Words.value?_without
    (words : Words)
    (name : OptionName) :
    (words.without dropped).value? name =
      if name ∈ dropped then none else words.value? name := by
  by_cases isDropped : name ∈ dropped
  · rw [if_pos isDropped, value?_without_of_dropped isDropped]
  · rw [if_neg isDropped, value?_without_of_kept isDropped]

theorem Words.has_without
    (words : Words)
    (name : OptionName) :
    (words.without dropped).has name = (words.has name && decide (name ∉ dropped)) := by
  unfold has
  rw [value?_without]
  by_cases isDropped : name ∈ dropped <;> simp [isDropped]

/-- The values of the options that are left out are acceptable. -/
def Words.Accepts
    (files : FileTree)
    (dropped : List OptionName)
    (words : Words) :
    Prop :=
  ∀ name ∈ dropped, checkValue files words name = .ok ()

theorem checkValues_without (accepts : words.Accepts files dropped) :
    checkValues files (words.without dropped) = checkValues files words := by
  have names :
      (words.without dropped).options.map Prod.fst =
        (words.options.map Prod.fst).filter fun name => decide (name ∉ dropped) := by
    rw [List.filter_map]
    rfl
  have sameStep : checkValue files (words.without dropped) = checkValue files words := by
    funext name
    by_cases isDropped : name ∈ dropped
    · rw [accepts name isDropped]
      unfold checkValue
      rw [Words.value?_without_of_dropped isDropped]
      cases name <;> rfl
    · unfold checkValue
      rw [Words.value?_without_of_kept isDropped]
  unfold checkValues
  rw [names, eraseDups_filter, sameStep]
  apply forM_filter
  intro name _ isDropped
  exact accepts name (by simpa using isDropped)

theorem requestOf_without (named : words.arguments ≠ []) :
    requestOf (words.without dropped) = (requestOf words).map (Request.without dropped) := by
  rcases words with ⟨options, _ | ⟨path, _ | ⟨second, others⟩⟩⟩
  · exact absurd rfl named
  · have limit :
        ((Words.without dropped ⟨options, [path]⟩).value? .maxSizeKb).bind
            Decimal.argumentDouble? =
          if .maxSizeKb ∈ dropped then none
          else (Words.value? ⟨options, [path]⟩ .maxSizeKb).bind Decimal.argumentDouble? := by
      rw [Words.value?_without]
      split <;> rfl
    show Except.ok (Request.check ⟨path, _, _, _, _⟩) = Except.ok (Request.check ⟨path, _, _, _, _⟩)
    rw [Words.has_without, Words.has_without, Words.value?_without, limit]
  · rfl

/-- Options with acceptable values may be left out of words that name a document. -/
theorem request_without
    (accepts : words.Accepts files dropped)
    (named : words.arguments ≠ [])
    (keepsHelp : .help ∉ dropped) :
    (words.without dropped).request files =
      (words.request files).map (Request.without dropped) := by
  unfold Words.request
  rw [Words.has_without, decide_eq_true keepsHelp, Bool.and_true, checkValues_without accepts,
    requestOf_without named]
  cases words.has .help with
  | true => rfl
  | false => cases checkValues files words <;> rfl

/-- An order is what the words of its line ask for. -/
theorem requestOf_of_settle
    {line : List Text}
    {order : Order}
    (read : readWords line = .ok words)
    (settled : settle files line = .inr order) :
    requestOf words = .ok (.check order) := by
  rw [settle_of_read files read, Words.request] at settled
  cases helps : words.has .help with
  | true =>
      rw [helps] at settled
      cases settled
  | false =>
      rw [helps] at settled
      cases checked : checkValues files words with
      | error stop =>
          rw [checked] at settled
          cases stop <;> cases settled
      | ok done =>
          rw [checked] at settled
          change settleRequest (requestOf words) = .inr order at settled
          cases requested : requestOf words with
          | error stop =>
              rw [requested] at settled
              cases stop <;> cases settled
          | ok request =>
              rw [requested] at settled
              cases request <;> cases settled
              rfl

/-- An order takes its form, its ruleset and its limit from the words of its line. -/
theorem order_of_requestOf
    {order : Order}
    (requested : requestOf words = .ok (.check order)) :
    order.asJson = words.has .json ∧
      order.ruleset = words.value? .ruleset ∧
      order.maxSizeKb = (words.value? .maxSizeKb).bind Decimal.argumentDouble? := by
  rcases words with ⟨options, _ | ⟨path, _ | ⟨second, others⟩⟩⟩
  · cases options <;> cases requested
  · cases requested
    exact ⟨rfl, rfl, rfl⟩
  · cases requested

/-- An order takes the ruleset and the limit from the words of its line. -/
theorem order_of_settle
    {line : List Text}
    {order : Order}
    (read : readWords line = .ok words)
    (settled : settle files line = .inr order) :
    order.ruleset = words.value? .ruleset ∧
      order.maxSizeKb = (words.value? .maxSizeKb).bind Decimal.argumentDouble? :=
  (order_of_requestOf (requestOf_of_settle read settled)).2

/-- A line that leaves options out is settled alike, or orders the same but for these options. -/
theorem settle_without
    {line bare : List Text}
    (read : readWords line = .ok words)
    (bareRead : readWords bare = .ok (words.without dropped))
    (accepts : words.Accepts files dropped)
    (named : words.arguments ≠ [])
    (keepsHelp : .help ∉ dropped) :
    settle files bare = (settle files line).map id (Order.without dropped) := by
  rw [settle_of_read files read, settle_of_read files bareRead,
    request_without accepts named keepsHelp, settleRequest_map_without]

/-! ## Words written as a line -/

/-- The words for an option with its value. -/
def spelledOption (option : OptionName × Text) : List Text :=
  if option.1.takesValue then [option.1.long, option.2] else [option.1.long]

/-- A line for words: the options in their long forms, and the arguments behind them. -/
def Words.line (words : Words) : List Text :=
  words.options.flatMap spelledOption ++ Text.ofString "--" :: words.arguments

/-- Options that take no value have none. -/
def Words.IsPlain (words : Words) : Prop :=
  ∀ option ∈ words.options, option.1.takesValue = false → option.2 = []

theorem Words.IsPlain.without
    {words : Words}
    (plain : words.IsPlain)
    (dropped : List OptionName) :
    (words.without dropped).IsPlain :=
  fun option member => plain option (List.mem_of_mem_filter member)

theorem Words.IsPlain.withOption
    {words : Words}
    {name : OptionName}
    (plain : words.IsPlain)
    (takes : name.takesValue = true)
    (value : Text) :
    (words.withOption name value).IsPlain := by
  intro option member none
  rcases List.mem_cons.mp member with rfl | other
  · cases takes.symm.trans none
  · exact plain option other none

theorem Words.IsPlain.withFlags
    {words : Words}
    (plain : words.IsPlain)
    (names : List OptionName) :
    (words.withFlags names).IsPlain := by
  intro option member none
  rcases List.mem_append.mp member with flag | other
  · rcases List.mem_map.mp flag with ⟨name, -, rfl⟩
    rfl
  · exact plain option other none

theorem readWords_spelledOption
    (option : OptionName × Text)
    (plain : option.1.takesValue = false → option.2 = [])
    (rest : List Text) :
    readWords (spelledOption option ++ rest) =
      (readWords rest).map (Words.withOption option.1 option.2) := by
  rcases option with ⟨name, value⟩
  cases name with
  | help => cases plain rfl; rfl
  | json => cases plain rfl; rfl
  | verbose => cases plain rfl; rfl
  | maxSizeKb => rfl
  | ruleset => rfl

/-- A line for words is read as these words. -/
theorem readWords_line
    {words : Words}
    (plain : words.IsPlain) :
    readWords words.line = .ok words := by
  rcases words with ⟨options, arguments⟩
  induction options with
  | nil => rfl
  | cons option rest ih =>
      have tail := ih fun other member => plain other (List.mem_cons_of_mem option member)
      unfold Words.line at tail ⊢
      rw [List.flatMap_cons, List.append_assoc,
        readWords_spelledOption option (plain option List.mem_cons_self), tail]
      rfl

/-- A word brings or awaits a value only for an option that takes one. -/
def OptionWord.Fits : OptionWord → Prop
  | .flags _ => True
  | .valued name _ => name.takesValue = true
  | .awaiting name => name.takesValue = true

theorem fits_of_readLong
    {name : OptionName}
    {value : Option Text}
    {said : OptionWord}
    (read : readLong name value = .ok said) :
    said.Fits := by
  unfold readLong at read
  split at read
  · next takes => cases read; exact takes
  · next takes => cases read; exact takes
  · cases read
  · cases read
    trivial

theorem fits_of_readOptionWord
    {word : Text}
    {said : OptionWord}
    (read : readOptionWord word = .ok said) :
    said.Fits := by
  simp only [readOptionWord] at read
  split at read
  · exact fits_of_readLong read
  · split at read
    · cases read
    · rcases Fallible.map_eq_ok_iff.mp read with ⟨names, -, rfl⟩
      trivial

theorem isPlain_of_readWords
    {line : List Text}
    {words : Words}
    (read : readWords line = .ok words) :
    words.IsPlain := by
  fun_induction readWords line generalizing words with
  | case1 => cases read; nofun
  | case2 => cases read; nofun
  | case3 => cases read
  | case4 word _ _ names rest _ ih =>
      rcases Fallible.map_eq_ok_iff.mp read with ⟨others, othersRead, rfl⟩
      exact (ih othersRead).withFlags names
  | case5 word _ _ name value rest valued ih =>
      rcases Fallible.map_eq_ok_iff.mp read with ⟨others, othersRead, rfl⟩
      exact (ih othersRead).withOption (fits_of_readOptionWord valued) value
  | case6 => cases read
  | case7 word _ _ name value after awaiting ih =>
      rcases Fallible.map_eq_ok_iff.mp read with ⟨others, othersRead, rfl⟩
      exact (ih othersRead).withOption (fits_of_readOptionWord awaiting) value
  | case8 word rest _ _ ih =>
      rcases Fallible.map_eq_ok_iff.mp read with ⟨others, othersRead, rfl⟩
      exact fun option member => ih othersRead option member

/-- Whatever options are left out of a line, there is a line for what remains. -/
theorem exists_line_without
    {line : List Text}
    {words : Words}
    (read : readWords line = .ok words)
    (dropped : List OptionName) :
    ∃ bare, readWords bare = .ok (words.without dropped) :=
  ⟨_, readWords_line ((isPlain_of_readWords read).without dropped)⟩

end Command

/-! ## What a check depends on -/

theorem Check.consult_congr
    {first second : Check}
    (sameEngine : first.engine = second.engine) :
    first.consult = second.consult := by
  funext ruleset document structural compatibility
  unfold consult
  rw [sameEngine]

/-- Of its settings a check uses the limit, the engine and the ruleset only. -/
theorem Check.run_congr
    {first second : Check}
    {there here : Surroundings}
    (samePath : first.path = second.path)
    (sameLimit : first.settings.maxSizeKb = second.settings.maxSizeKb)
    (sameEngine : first.engine = second.engine)
    (sameFiles : there.files = here.files)
    (sameRuleset :
      first.chosenRuleset there.packagedRuleset = second.chosenRuleset here.packagedRuleset) :
    first.run there = second.run here := by
  have sameExamine : first.examine = second.examine := by
    funext ruleset document
    unfold examine
    rw [consult_congr sameEngine]
  unfold run
  rw [samePath, sameLimit, sameFiles, sameRuleset, sameExamine]

end OpenApiGate
