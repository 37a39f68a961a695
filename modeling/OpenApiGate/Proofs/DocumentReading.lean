import OpenApiGate.Proofs.ReadingBack
import OpenApiGate.Proofs.TokenReading

/-!
# What the decoder reads as documents

The decoder returns a value exactly for the documents of the grammar in which its
words stand for values, as long as none of its limits stops it.
-/

namespace OpenApiGate.Json

open Production (blanks mark takes_blanks)

/-! ## Whatever is read is derived -/

section Sound

variable {words : List Text} {container : Container}

/-- Blanks in front of the entries belong to the first of them. -/
theorem entries_of_blanks
    {text next rest : Text}
    (blank : blanks text next)
    (derives : Derives words (.entries container) next rest) :
    Derives words (.entries container) text rest := by
  cases derives with
  | last before derives after => exact .last (blank.trans before) derives after
  | more before derives after separates others =>
      exact .more (blank.trans before) derives after separates others

variable {α : Type} {readPart : Reader α}

/-- What is read as the parts of a container are entries with a closing mark behind them. -/
theorem entries_of_readParts
    (sound : ∀ {text rest part}, readPart text = .ok (part, rest) →
      Derives words container.entry text rest)
    {bound text rest : Text}
    {reversed items : List α}
    (read : readParts container.closing readPart bound reversed text = .ok (items, rest)) :
    ∃ behind, Derives words (.entries container) text behind ∧
      mark container.closing behind rest := by
  fun_induction readParts container.closing readPart bound reversed text with
  | case1 | case2 | case3 | case6 => cases read
  | case4 _ _ _ _ part afterPart readsPart point after skipped closes =>
      cases read
      have blank := skipped ▸ blanks_skipSpaces afterPart
      exact ⟨_, .last .refl (sound readsPart) blank, point, eq_of_beq closes, rfl⟩
  | case5 _ _ _ _ part afterPart readsPart point after skipped _ separates ih =>
      rcases ih read with ⟨behind, others, closes⟩
      have blank := skipped ▸ blanks_skipSpaces afterPart
      have next := entries_of_blanks (blanks_skipSpaces after) others
      have comma : mark ',' (point :: after) after := ⟨point, eq_of_beq separates, rfl⟩
      exact ⟨behind, .more .refl (sound readsPart) blank comma next, closes⟩

theorem derives_of_readContainer
    (container : Container)
    (sound : ∀ {text rest part}, readPart text = .ok (part, rest) →
      Derives words container.entry text rest)
    {text inner rest : Text}
    {items : List α}
    (opens : mark container.opening text inner)
    (read : readContainer container.closing readPart inner = .ok (items, rest)) :
    Derives words .value text rest := by
  have blank := blanks_skipSpaces inner
  unfold readContainer at read
  split at read
  · split at read <;> cases read
  · next point after skipped =>
      rw [skipped] at blank
      split at read
      · next closes =>
          cases read
          exact .empty opens blank ⟨point, eq_of_beq closes, rfl⟩
      · rcases entries_of_readParts sound read with ⟨behind, entries, closes⟩
        exact .full opens (entries_of_blanks blank entries) closes

theorem derives_of_readMember
    {readValue : Reader Value}
    (sound : ∀ {text rest value}, readValue text = .ok (value, rest) →
      Derives words .value text rest)
    {text rest : Text}
    {pair : Text × Value}
    (read : readMember readValue text = .ok (pair, rest)) :
    Derives words .member text rest := by
  unfold readMember at read
  split at read
  · cases read
  split at read
  case isFalse => cases read
  next point more isQuote =>
    split at read
    · cases read
    next key afterKey readsKey =>
      split at read
      · cases read
      next colon afterColon skipped =>
        split at read
        case isFalse => cases read
        next isColon =>
          split at read
          · cases read
          next value after readsValue =>
            cases read
            have tail := stringTail_of_readString readsKey
            exact
              .member ⟨more, ⟨point, eq_of_beq isQuote, rfl⟩, tail⟩
                (skipped ▸ blanks_skipSpaces afterKey) ⟨colon, eq_of_beq isColon, rfl⟩
                (blanks_skipSpaces afterColon) (sound readsValue)

end Sound

/-- Whatever is read as a value, at any depth, is derived by the grammar. -/
theorem derives_of_readValue
    {depth : Nat}
    {text rest : Text}
    {value : Value}
    (read : readValue depth text = .ok (value, rest)) :
    Derives admittedWords .value text rest := by
  induction depth generalizing text rest value with
  | zero =>
      cases text with
      | nil => cases read
      | cons point inner =>
          rw [readValue] at read
          split at read
          · cases read
          · split at read
            · cases read
            · exact derives_of_readScalar read
  | succ depth ih =>
      cases text with
      | nil => cases read
      | cons point inner =>
          rw [readValue] at read
          split at read
          · next isOpening =>
              split at read
              · cases read
              · next itemsRead =>
                  cases read
                  exact
                    derives_of_readContainer .array ih
                      ⟨point, eq_of_beq isOpening, rfl⟩ itemsRead
          · split at read
            · next isOpening =>
                split at read
                · cases read
                · next pairsRead =>
                    cases read
                    exact
                      derives_of_readContainer .object (derives_of_readMember ih)
                        ⟨point, eq_of_beq isOpening, rfl⟩ pairsRead
            · exact derives_of_readScalar read

/-! ## Whatever is derived is read -/

namespace Container

theorem isClosing (container : Container) : IsClosing container.closing := by
  cases container
  · exact .array
  · exact .object

/-- What the entries of a container are read as. -/
def Entry : Container → Type
  | .array => Value
  | .object => Text × Value

/-- The reader of the entries of a container. -/
def readEntry (depth : Nat) : (container : Container) → Reader container.Entry
  | .array => readValue depth
  | .object => readMember (readValue depth)

/-- The value of a container with the given entries. -/
def value : (container : Container) → List container.Entry → Value
  | .array, items => .array items
  | .object, pairs => .object (Members.ofPairs pairs)

variable {container : Container} {depth : Nat} {inner : Text}

theorem readValue_of_entries
    {entries : List container.Entry}
    {rest : Text}
    (read : readContainer container.closing (container.readEntry depth) inner =
      .ok (entries, rest)) :
    readValue (depth + 1) (CodePoint.ofChar container.opening :: inner) =
      .ok (container.value entries, rest) := by
  cases container with
  | array =>
      change readContainer ']' (readValue depth) inner = .ok (entries, rest) at read
      rw [readValue, read]
      rfl
  | object =>
      change readContainer '\x7d' (readMember (readValue depth)) inner = .ok (entries, rest) at read
      rw [readValue, read]
      rfl

theorem readValue_of_stop
    {stop : Stop}
    (read : readContainer container.closing (container.readEntry depth) inner = .error stop) :
    readValue (depth + 1) (CodePoint.ofChar container.opening :: inner) = .error stop := by
  cases container with
  | array =>
      change readContainer ']' (readValue depth) inner = .error stop at read
      rw [readValue, read]
      rfl
  | object =>
      change readContainer '\x7d' (readMember (readValue depth)) inner = .error stop at read
      rw [readValue, read]
      rfl

end Container

/-! ### What stands around a part -/

/-- The text starts in a way that a part can start in. -/
def StartsPart (text : Text) : Prop :=
  ∃ first more, text = first :: more ∧ Starts first

theorem startsPart_of_value
    {text rest : Text}
    (derives : Derives admittedWords .value text rest) :
    StartsPart text := by
  cases derives with
  | word known spelled =>
      simp only [admittedWords, standardWords, numberWords, List.cons_append, List.nil_append,
        List.mem_cons, List.not_mem_nil, or_false] at known
      rcases known with rfl | rfl | rfl | rfl | rfl | rfl <;>
        exact ⟨_, _, spelled, rfl, rfl, rfl, by decide⟩
  | number spelled =>
      rcases spelled with ⟨_, _ | ⟨_, rfl, rfl⟩, unsigned⟩
      · rcases head_unsigned unsigned with ⟨first, more, rfl, isDigit⟩
        exact ⟨first, more, rfl, starts_of_isDigit isDigit⟩
      · exact ⟨_, _, rfl, rfl, rfl, rfl, by decide⟩
  | string spelled =>
      rcases spelled with ⟨_, ⟨_, rfl, rfl⟩, -⟩
      exact ⟨_, _, rfl, rfl, rfl, rfl, by decide⟩
  | @empty container _ _ _ _ opens | @full container _ _ _ _ opens =>
      rcases opens with ⟨_, rfl, rfl⟩
      cases container <;> exact ⟨_, _, rfl, rfl, rfl, rfl, by decide⟩

theorem startsPart_of_entry
    {container : Container}
    {text rest : Text}
    (derives : Derives admittedWords container.entry text rest) :
    StartsPart text := by
  cases container with
  | array => exact startsPart_of_value derives
  | object =>
      cases derives with
      | member key =>
          rcases key with ⟨_, ⟨_, rfl, rfl⟩, -⟩
          exact ⟨_, _, rfl, rfl, rfl, rfl, by decide⟩

theorem skipSpaces_of_starts
    {text part : Text}
    (blank : blanks text part)
    (starts : StartsPart part) :
    skipSpaces text = part := by
  rcases starts with ⟨first, more, rfl, starts⟩
  rw [skipSpaces_of_blanks blank]
  exact skipSpaces_of_not_isSpace starts.notSpace

/-- Blanks are skipped up to a mark that is no blank. -/
theorem skipSpaces_of_mark
    {char : Char}
    {text behind rest : Text}
    (notSpace : isSpace (CodePoint.ofChar char) = false)
    (blank : blanks text behind)
    (marked : mark char behind rest) :
    skipSpaces text = CodePoint.ofChar char :: rest := by
  rcases marked with ⟨_, rfl, rfl⟩
  rw [skipSpaces_of_blanks blank]
  exact skipSpaces_of_not_isSpace notSpace

theorem ends_of_blanks
    {text behind : Text}
    (blank : blanks text behind)
    (ends : Ends behind) :
    Ends text := by
  cases blank using Relation.ReflTransGen.head_induction_on with
  | refl => exact ends
  | head piece =>
      rcases piece with ⟨point, isBlank, rfl⟩
      exact ends_cons (continuesNumber_of_isSpace ((isSpace_iff point).mpr isBlank)) _

theorem ends_of_mark
    {char : Char}
    {text rest : Text}
    (endsNumber : continuesNumber (CodePoint.ofChar char) = false)
    (marked : mark char text rest) :
    Ends text := by
  rcases marked with ⟨_, rfl, rfl⟩
  exact ends_cons endsNumber rest

/-! ### Containers -/

section Parts

variable {α : Type} {readPart : Reader α} {closing : Char} {bound : Text}

theorem readsTo_readParts_last
    (isClosing : IsClosing closing)
    {text afterPart behind rest : Text}
    (reads : ReadsTo (readPart text) afterPart)
    (blank : blanks afterPart behind)
    (closes : mark closing behind rest)
    (bounded : 0 < bound.length)
    (reversed : List α) :
    ReadsTo (readParts closing readPart bound reversed text) rest := by
  rcases bound with _ | ⟨_, shorter⟩
  · cases bounded
  rw [readParts]
  rcases reads with ⟨part, read⟩ | ⟨stop, read, isLimit⟩
  · simp only [read, skipSpaces_of_mark isClosing.notSpace blank closes, IsClosing.is_self, if_true]
    exact Or.inl ⟨_, rfl⟩
  · simp only [read]
    exact Or.inr ⟨stop, rfl, isLimit⟩

theorem readsTo_readParts_more
    (isClosing : IsClosing closing)
    {text afterPart behind next rest : Text}
    (reads : ReadsTo (readPart text) afterPart)
    (blank : blanks afterPart behind)
    (separates : mark ',' behind next)
    {point : CodePoint}
    {reversed : List α}
    (others : ∀ reversed,
      ReadsTo (readParts closing readPart bound reversed (skipSpaces next)) rest) :
    ReadsTo (readParts closing readPart (point :: bound) reversed text) rest := by
  have isComma : (CodePoint.ofChar ',').is ',' = true := rfl
  rw [readParts]
  rcases reads with ⟨part, read⟩ | ⟨stop, read, isLimit⟩
  · simp only [read, skipSpaces_of_mark rfl blank separates, isClosing.notComma, isComma,
      Bool.false_eq_true, if_false, if_true]
    exact others _
  · simp only [read]
    exact Or.inr ⟨stop, rfl, isLimit⟩

end Parts

variable {container : Container} {text inner rest : Text} {depth : Nat}

/-- Entries are read as a container, since none of them starts with its closing mark. -/
theorem readsTo_readContainer
    (derives : Derives admittedWords (.entries container) text rest)
    {after : Text}
    (reads : ReadsTo
      (readParts container.closing (container.readEntry depth) (skipSpaces text) []
        (skipSpaces text)) after) :
    ReadsTo (readContainer container.closing (container.readEntry depth) text) after := by
  have starts : StartsPart (skipSpaces text) := by
    cases derives with
    | last before derives | more before derives =>
        have starts := startsPart_of_entry derives
        rwa [skipSpaces_of_starts before starts]
  rcases starts with ⟨first, more, skipped, starts⟩
  unfold readContainer
  rw [skipped] at reads ⊢
  simp only [container.isClosing.not_starts starts, Bool.false_eq_true, if_false]
  exact reads

theorem readsTo_readContainer_empty
    {behind : Text}
    (blank : blanks inner behind)
    (closes : mark container.closing behind rest) :
    ReadsTo (readContainer container.closing (container.readEntry depth) inner) rest := by
  unfold readContainer
  rw [skipSpaces_of_mark container.isClosing.notSpace blank closes]
  simp only [IsClosing.is_self, if_true]
  exact Or.inl ⟨_, rfl⟩

/-- A container is read as a value, unless it is nested too deeply. -/
theorem readsTo_readValue
    (opens : mark container.opening text inner)
    (reads : ∀ depth,
      ReadsTo (readContainer container.closing (container.readEntry depth) inner) rest)
    (depth : Nat) :
    ReadsTo (readValue depth text) rest := by
  rcases opens with ⟨_, rfl, rfl⟩
  cases depth with
  | zero =>
      right
      cases container <;> exact ⟨_, rfl, .nesting _⟩
  | succ depth =>
      rcases reads depth with ⟨entries, read⟩ | ⟨stop, read, isLimit⟩
      · exact Or.inl ⟨_, Container.readValue_of_entries read⟩
      · exact Or.inr ⟨stop, Container.readValue_of_stop read, isLimit⟩

theorem readsTo_readMember
    {afterKey colon afterColon value : Text}
    (key : Production.string text afterKey)
    (beforeColon : blanks afterKey colon)
    (separates : mark ':' colon afterColon)
    (beforeValue : blanks afterColon value)
    (derives : Derives admittedWords .value value rest)
    (reads : ReadsTo (readValue depth value) rest) :
    ReadsTo (readMember (readValue depth) text) rest := by
  have isQuote : (CodePoint.ofChar '"').is '"' = true := rfl
  have isColon : (CodePoint.ofChar ':').is ':' = true := rfl
  rcases key with ⟨more, ⟨_, rfl, rfl⟩, tail⟩
  rcases readString_of_stringTail tail (CodePoint.ofChar '"' :: more) ⟨[], false⟩ with
    ⟨result, readKey⟩
  have skipped := skipSpaces_of_starts beforeValue (startsPart_of_value derives)
  unfold readMember
  simp only [isQuote, if_true, readKey, skipSpaces_of_mark rfl beforeColon separates, isColon,
    skipped]
  rcases reads with ⟨value, read⟩ | ⟨stop, read, isLimit⟩
  · rw [read]
    exact Or.inl ⟨_, rfl⟩
  · rw [read]
    exact Or.inr ⟨stop, rfl, isLimit⟩

/-! ### Parts -/

/-- The decoder reads the part that stands before `rest`, at any depth. -/
def Part.IsRead (text rest : Text) : Part → Prop
  | .value => Ends rest → ∀ depth, ReadsTo (readValue depth text) rest
  | .member => Ends rest → ∀ depth, ReadsTo (readMember (readValue depth) text) rest
  | .entries container =>
    ∀ after, mark container.closing rest after →
      ∀ depth bound reversed, (skipSpaces text).length ≤ bound.length →
        ReadsTo
          (readParts container.closing (container.readEntry depth) bound reversed
            (skipSpaces text)) after

theorem Part.IsRead.entry
    (isRead : container.entry.IsRead text rest)
    (ends : Ends rest)
    (depth : Nat) :
    ReadsTo (container.readEntry depth text) rest := by
  cases container with
  | array => exact isRead ends depth
  | object => exact isRead ends depth

/-- Whatever part the grammar derives, the decoder reads. -/
theorem isRead_of_derives
    {part : Part}
    (derives : Derives admittedWords part text rest) :
    part.IsRead text rest := by
  induction derives with
  | word known spelled => exact fun _ => readsTo_of_word known spelled
  | number spelled => exact readsTo_of_number spelled
  | string spelled => exact fun _ => readsTo_of_string spelled
  | empty opens blank closes =>
      exact fun _ => readsTo_readValue opens fun _ => readsTo_readContainer_empty blank closes
  | full opens entries closes ih =>
      intro _
      apply readsTo_readValue opens
      intro depth
      exact readsTo_readContainer entries (ih _ closes depth _ _ le_rfl)
  | member key beforeColon separates beforeValue derives ih =>
      intro ends depth
      exact readsTo_readMember key beforeColon separates beforeValue derives (ih ends depth)
  | @last container text entry _ rest before derives blank ih =>
      intro after closes depth bound reversed bounded
      have ends := ends_of_blanks blank (ends_of_mark container.isClosing.endsNumber closes)
      have starts := startsPart_of_entry derives
      rw [skipSpaces_of_starts before starts] at bounded ⊢
      have positive : 0 < entry.length := by
        rcases starts with ⟨first, more, rfl, -⟩
        exact Nat.zero_lt_succ _
      exact
        readsTo_readParts_last container.isClosing (ih.entry ends depth) blank closes
          (Nat.lt_of_lt_of_le positive bounded) reversed
  | @more container text entry _ comma next rest before derives blank separates _ ih ihOthers =>
      intro after closes depth bound reversed bounded
      have ends := ends_of_blanks blank (ends_of_mark rfl separates)
      rw [skipSpaces_of_starts before (startsPart_of_entry derives)] at bounded ⊢
      -- The comma takes the code point that the round takes off the bound.
      have shorter : (skipSpaces next).length < bound.length := by
        have first := length_le_of_derives derives
        have second := takes_blanks.length_le blank
        have third := length_lt_of_mark separates
        have fourth := takes_blanks.length_le (blanks_skipSpaces next)
        omega
      rcases bound with _ | ⟨point, bound⟩
      · cases shorter
      · exact
          readsTo_readParts_more container.isClosing (ih.entry ends depth) blank separates
            fun reversed => ihOthers after closes depth bound reversed (Nat.le_of_lt_succ shorter)

/-! ## Documents -/

/-- Whatever is read as a document is one. -/
theorem isDocument_of_readDocument
    {value : Value}
    (read : readDocument text = .ok value) :
    IsDocument admittedWords text := by
  unfold readDocument at read
  split at read
  · cases read
  · split at read
    · cases read
    · next value after readsValue =>
        dsimp only at read
        split at read
        · next nothing =>
            have blank := blanks_skipSpaces after
            rw [List.isEmpty_iff.mp nothing] at blank
            exact ⟨_, after, blanks_skipSpaces text, derives_of_readValue readsValue, blank⟩
        · cases read

/-- A document does not start with a byte order mark. -/
theorem noMark_of_isDocument
    (document : IsDocument admittedWords text) :
    (text.head?.any fun point => point.value == 0xFEFF) = false := by
  rcases document with ⟨value, after, before, derives, -⟩
  cases before using Relation.ReflTransGen.head_induction_on with
  | refl =>
      rcases startsPart_of_value derives with ⟨first, more, rfl, starts⟩
      have ascii := starts.ascii
      simp only [List.head?_cons, Option.any_some, beq_eq_false_iff_ne]
      omega
  | head piece =>
      rcases piece with ⟨point, isBlank, rfl⟩
      simp only [List.head?_cons, Option.any_some, beq_eq_false_iff_ne]
      omega

/-- A document is read as a value, unless one of the limits stops the reading. -/
theorem readDocument_of_isDocument
    (document : IsDocument admittedWords text) :
    (∃ value, readDocument text = .ok value) ∨
      ∃ stop, readDocument text = .error stop ∧ stop.IsLimit := by
  have noMark := noMark_of_isDocument document
  rcases document with ⟨valueOn, after, before, derives, blank⟩
  have ends : Ends after := ends_of_blanks blank ends_nil
  have skipped := skipSpaces_of_starts before (startsPart_of_value derives)
  have nothing : skipSpaces after = [] := skipSpaces_of_blanks blank
  unfold readDocument
  simp only [noMark, Bool.false_eq_true, if_false, skipped]
  rcases isRead_of_derives derives ends nestingLimit with ⟨value, read⟩ | ⟨stop, read, isLimit⟩
  · simp only [read, nothing, List.isEmpty_nil, if_true]
    exact Or.inl ⟨value, rfl⟩
  · simp only [read]
    exact Or.inr ⟨stop, rfl, isLimit⟩

/-- A limit of the decoder stands in the way, not a fault of the text. -/
inductive DecodeError.IsLimit : DecodeError → Prop where
  | integer (error : Decimal.IntegerError) : IsLimit (.integer error)
  | nesting (container : Container) : IsLimit (.nestedTooDeeply container)

/-- As long as no limit stands in the way, the texts that hold a value are the documents. -/
theorem decode_eq_ok_iff
    (within : ∀ error, decode text = .error error → ¬error.IsLimit) :
    (∃ value, decode text = .ok value) ↔ IsDocument admittedWords text := by
  unfold decode at within ⊢
  constructor
  · rintro ⟨value, decoded⟩
    split at decoded
    · next read => exact isDocument_of_readDocument read
    · cases decoded
  · intro document
    rcases readDocument_of_isDocument document with ⟨value, read⟩ | ⟨stop, read, isLimit⟩
    · simp only [read]
      exact ⟨value, rfl⟩
    · simp only [read] at within
      cases isLimit with
      | integer error => exact absurd (.integer error) (within _ rfl)
      | nesting container => exact absurd (.nesting container) (within _ rfl)

end OpenApiGate.Json
