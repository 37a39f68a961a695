import OpenApiGate.Proofs.Grammar
import OpenApiGate.Text.Newline

/-!
# The grammar of JSON and the ends of lines

The grammar does not tell apart the ways to end a line.  Carriage returns and line
feeds are blanks, and no piece but a run of blanks holds one.
-/

namespace OpenApiGate.Json

open Production (blanks mark)

namespace Production

/-- A text meets a production exactly if the text whose lines end in a line feed does. -/
structure IgnoresLineEnds (production : Production) : Prop where
  unified :
    ∀ {text rest : Text}, production text rest →
      production text.unifyLineEnds rest.unifyLineEnds
  lifted :
    ∀ {text unifiedRest : Text}, production text.unifyLineEnds unifiedRest →
      ∃ rest : Text, rest.unifyLineEnds = unifiedRest ∧ production text rest

/-- The code point ends no line. -/
def IsInLine (point : CodePoint) : Prop :=
  point.value ≠ 0x0A ∧ point.value ≠ 0x0D

instance (point : CodePoint) : Decidable (IsInLine point) :=
  inferInstanceAs (Decidable (_ ∧ _))

theorem unifyLineEnds_cons
    {point : CodePoint}
    (noReturn : point.value ≠ 0x0D)
    (text : Text) :
    Text.unifyLineEnds (point :: text) = point :: text.unifyLineEnds := by
  have other : point.is '\r' = false := by
    rw [Bool.eq_false_iff]
    exact fun same => noReturn (CodePoint.value_eq_of_is same)
  rw [Text.unifyLineEnds.eq_def]
  simp only [other, Bool.false_eq_true, if_false]

/-- A carriage return becomes a line feed, into which a line feed behind it is taken up. -/
theorem unifyLineEnds_of_return
    {first : CodePoint}
    (isReturn : first.value = 0x0D)
    (rest : Text) :
    ∃ after : Text, (after = rest ∨ rest = CodePoint.ofChar '\n' :: after) ∧
      Text.unifyLineEnds (first :: rest) = CodePoint.ofChar '\n' :: after.unifyLineEnds := by
  have same : first = CodePoint.ofChar '\r' := CodePoint.eq_of_value_eq isReturn
  have is : (CodePoint.ofChar '\r').is '\r' = true := rfl
  subst same
  cases rest with
  | nil => exact ⟨[], Or.inl rfl, rfl⟩
  | cons second after =>
      cases isFeed : second.is '\n' with
      | false =>
          refine ⟨second :: after, Or.inl rfl, ?_⟩
          rw [Text.unifyLineEnds]
          simp only [is, isFeed, Bool.false_eq_true, if_true, if_false]
      | true =>
          have feed : second = CodePoint.ofChar '\n' := eq_of_beq isFeed
          refine ⟨after, Or.inr (by rw [feed]), ?_⟩
          rw [Text.unifyLineEnds.eq_def]
          simp only [is, isFeed, if_true]

theorem eq_nil_of_unifyLineEnds
    {text : Text}
    (nothing : text.unifyLineEnds = []) :
    text = [] := by
  cases text with
  | nil => rfl
  | cons first rest =>
      by_cases isReturn : first.value = 0x0D
      · rcases unifyLineEnds_of_return isReturn rest with ⟨after, -, unified⟩
        rw [unified] at nothing
        cases nothing
      · rw [unifyLineEnds_cons isReturn] at nothing
        cases nothing

/-- What unifies to a text that starts within a line starts with the same code point. -/
theorem exists_of_unifyLineEnds_eq_cons
    {text unifiedRest : Text}
    {point : CodePoint}
    (inLine : IsInLine point)
    (unified : text.unifyLineEnds = point :: unifiedRest) :
    ∃ rest : Text, text = point :: rest ∧ rest.unifyLineEnds = unifiedRest := by
  cases text with
  | nil => cases unified
  | cons first rest =>
      by_cases isReturn : first.value = 0x0D
      · rcases unifyLineEnds_of_return isReturn rest with ⟨after, -, broken⟩
        rw [broken, List.cons.injEq] at unified
        exact absurd (congrArg CodePoint.value unified.1).symm inLine.1
      · rw [unifyLineEnds_cons isReturn, List.cons.injEq] at unified
        rcases unified with ⟨rfl, unified⟩
        exact ⟨rest, rfl, unified⟩

theorem unifyLineEnds_append
    {taken : Text}
    (inLine : ∀ point ∈ taken, IsInLine point)
    (rest : Text) :
    Text.unifyLineEnds (taken ++ rest) = taken ++ rest.unifyLineEnds := by
  induction taken with
  | nil => rfl
  | cons point more ih =>
      rw [List.forall_mem_cons] at inLine
      rw [List.cons_append, unifyLineEnds_cons inLine.1.2, ih inLine.2, List.cons_append]

theorem exists_of_unifyLineEnds_eq_append
    {text taken unifiedRest : Text}
    (inLine : ∀ point ∈ taken, IsInLine point)
    (unified : text.unifyLineEnds = taken ++ unifiedRest) :
    ∃ rest : Text, text = taken ++ rest ∧ rest.unifyLineEnds = unifiedRest := by
  induction taken generalizing text with
  | nil => exact ⟨text, rfl, unified⟩
  | cons point more ih =>
      rw [List.forall_mem_cons] at inLine
      rcases exists_of_unifyLineEnds_eq_cons inLine.1 unified with ⟨others, rfl, unifiedOthers⟩
      rcases ih inLine.2 unifiedOthers with ⟨rest, rfl, unifiedRest⟩
      exact ⟨rest, rfl, unifiedRest⟩

/-- Pieces within a line are the same before and after. -/
theorem Takes.ignoresLineEnds
    {production : Production}
    (takes : Takes IsInLine production) :
    IgnoresLineEnds production where
  unified := by
    intro text rest piece
    rcases takes.taken piece with ⟨taken, rfl, inLine, again⟩
    rw [unifyLineEnds_append inLine]
    exact again _
  lifted := by
    intro text unifiedRest piece
    rcases takes.taken piece with ⟨taken, unified, inLine, again⟩
    rcases exists_of_unifyLineEnds_eq_append inLine unified with ⟨rest, rfl, unifiedRest⟩
    exact ⟨rest, unifiedRest, again rest⟩

theorem mark_ignoresLineEnds
    {char : Char}
    (inLine : IsInLine (CodePoint.ofChar char)) :
    IgnoresLineEnds (mark char) :=
  (Takes.mark inLine).ignoresLineEnds

theorem number_ignoresLineEnds : IgnoresLineEnds number := by
  apply (takes_number.mono _).ignoresLineEnds
  intro point numeric
  unfold IsNumeric at numeric
  unfold IsInLine
  omega

theorem string_ignoresLineEnds : IgnoresLineEnds string := by
  apply (takes_string.mono _).ignoresLineEnds
  intro point noControl
  unfold IsInLine
  omega

/-- What unifies to a blank is a blank, or a carriage return and a line feed. -/
theorem blanks_of_unifyLineEnds
    {text unifiedRest : Text}
    (unifiedPiece : blank text.unifyLineEnds unifiedRest) :
    ∃ rest : Text, rest.unifyLineEnds = unifiedRest ∧ blanks text rest := by
  rcases unifiedPiece with ⟨point, isBlank, unified⟩
  cases text with
  | nil => cases unified
  | cons first others =>
      by_cases isReturn : first.value = 0x0D
      · have firstBlank : blank (first :: others) others := ⟨first, by simp [isReturn], rfl⟩
        rcases unifyLineEnds_of_return isReturn others with ⟨after, taken, broken⟩
        rw [broken, List.cons.injEq] at unified
        refine ⟨after, unified.2, ?_⟩
        rcases taken with rfl | rfl
        · exact .single firstBlank
        · exact .tail (.single firstBlank) ⟨_, by decide, rfl⟩
      · rw [unifyLineEnds_cons isReturn, List.cons.injEq] at unified
        rcases unified with ⟨rfl, unified⟩
        exact ⟨others, unified, .single ⟨first, isBlank, rfl⟩⟩

/-- A run of blanks stays one, though two blanks may become one of them. -/
theorem blanks_ignoresLineEnds : IgnoresLineEnds blanks where
  unified := by
    intro text rest pieces
    induction pieces with
    | refl => exact .refl
    | @tail between rest before piece ih =>
        rcases piece with ⟨point, isBlank, rfl⟩
        by_cases isReturn : point.value = 0x0D
        · rcases unifyLineEnds_of_return isReturn rest with ⟨after, rfl | rfl, broken⟩
          · exact ih.tail ⟨_, by decide, broken⟩
          · rwa [broken, ← unifyLineEnds_cons (by decide)] at ih
        · exact ih.tail ⟨point, isBlank, unifyLineEnds_cons isReturn rest⟩
  lifted := by
    intro text unifiedRest pieces
    induction pieces with
    | refl => exact ⟨text, rfl, .refl⟩
    | tail _ unifiedPiece ih =>
        rcases ih with ⟨between, rfl, before⟩
        rcases blanks_of_unifyLineEnds unifiedPiece with ⟨rest, rfl, piece⟩
        exact ⟨rest, rfl, before.trans piece⟩

end Production

/-! ## Documents and the ends of lines -/

open Production (IgnoresLineEnds IsInLine Takes blanks_ignoresLineEnds mark_ignoresLineEnds
  number_ignoresLineEnds string_ignoresLineEnds)

namespace Container

theorem opening_ignoresLineEnds (container : Container) :
    IgnoresLineEnds (mark container.opening) := by
  cases container <;> exact mark_ignoresLineEnds (by decide)

theorem closing_ignoresLineEnds (container : Container) :
    IgnoresLineEnds (mark container.closing) := by
  cases container <;> exact mark_ignoresLineEnds (by decide)

end Container

variable {words : List Text}

/-- Every kind of piece ignores how lines end, as long as the words hold no ends of lines. -/
theorem derives_ignoresLineEnds
    (inLine : ∀ letters ∈ words, ∀ point ∈ letters, IsInLine point)
    (part : Part) :
    IgnoresLineEnds (Derives words part) where
  unified := by
    intro text rest derives
    have colon : IgnoresLineEnds (mark ':') := mark_ignoresLineEnds (by decide)
    have comma : IgnoresLineEnds (mark ',') := mark_ignoresLineEnds (by decide)
    induction derives with
    | word known spelled =>
        exact .word known ((Takes.word (inLine _ known)).ignoresLineEnds.unified spelled)
    | number spelled => exact .number (number_ignoresLineEnds.unified spelled)
    | string spelled => exact .string (string_ignoresLineEnds.unified spelled)
    | @empty container _ _ _ _ opens blank closes =>
        exact
          .empty (container.opening_ignoresLineEnds.unified opens)
            (blanks_ignoresLineEnds.unified blank)
            (container.closing_ignoresLineEnds.unified closes)
    | @full container _ _ _ _ opens _ closes ih =>
        exact
          .full (container.opening_ignoresLineEnds.unified opens) ih
            (container.closing_ignoresLineEnds.unified closes)
    | member key beforeColon separates beforeValue _ ih =>
        exact
          .member (string_ignoresLineEnds.unified key)
            (blanks_ignoresLineEnds.unified beforeColon) (colon.unified separates)
            (blanks_ignoresLineEnds.unified beforeValue) ih
    | last before _ after ih =>
        exact
          .last (blanks_ignoresLineEnds.unified before) ih (blanks_ignoresLineEnds.unified after)
    | more before _ after separates _ ih ihOthers =>
        exact
          .more (blanks_ignoresLineEnds.unified before) ih (blanks_ignoresLineEnds.unified after)
            (comma.unified separates) ihOthers
  lifted := by
    intro text unifiedRest derives
    have colon : IgnoresLineEnds (mark ':') := mark_ignoresLineEnds (by decide)
    have comma : IgnoresLineEnds (mark ',') := mark_ignoresLineEnds (by decide)
    generalize same : text.unifyLineEnds = unifiedText at derives
    -- Piece by piece from the left: each piece is lifted from what the one before it left behind.
    induction derives generalizing text with subst same
    | word known spelled =>
        rcases (Takes.word (inLine _ known)).ignoresLineEnds.lifted spelled with ⟨rest, rfl, found⟩
        exact ⟨rest, rfl, .word known found⟩
    | number spelled =>
        rcases number_ignoresLineEnds.lifted spelled with ⟨rest, rfl, found⟩
        exact ⟨rest, rfl, .number found⟩
    | string spelled =>
        rcases string_ignoresLineEnds.lifted spelled with ⟨rest, rfl, found⟩
        exact ⟨rest, rfl, .string found⟩
    | @empty container _ _ _ _ opens blank closes =>
        rcases container.opening_ignoresLineEnds.lifted opens with ⟨_, rfl, opensRaw⟩
        rcases blanks_ignoresLineEnds.lifted blank with ⟨_, rfl, blankRaw⟩
        rcases container.closing_ignoresLineEnds.lifted closes with ⟨rest, rfl, closesRaw⟩
        exact ⟨rest, rfl, .empty opensRaw blankRaw closesRaw⟩
    | @full container _ _ _ _ opens _ closes ih =>
        rcases container.opening_ignoresLineEnds.lifted opens with ⟨_, rfl, opensRaw⟩
        rcases ih rfl with ⟨_, rfl, entriesRaw⟩
        rcases container.closing_ignoresLineEnds.lifted closes with ⟨rest, rfl, closesRaw⟩
        exact ⟨rest, rfl, .full opensRaw entriesRaw closesRaw⟩
    | member key beforeColon separates beforeValue _ ih =>
        rcases string_ignoresLineEnds.lifted key with ⟨_, rfl, keyRaw⟩
        rcases blanks_ignoresLineEnds.lifted beforeColon with ⟨_, rfl, beforeColonRaw⟩
        rcases colon.lifted separates with ⟨_, rfl, separatesRaw⟩
        rcases blanks_ignoresLineEnds.lifted beforeValue with ⟨_, rfl, beforeValueRaw⟩
        rcases ih rfl with ⟨rest, rfl, valueRaw⟩
        exact ⟨rest, rfl, .member keyRaw beforeColonRaw separatesRaw beforeValueRaw valueRaw⟩
    | last before _ after ih =>
        rcases blanks_ignoresLineEnds.lifted before with ⟨_, rfl, beforeRaw⟩
        rcases ih rfl with ⟨_, rfl, entryRaw⟩
        rcases blanks_ignoresLineEnds.lifted after with ⟨rest, rfl, afterRaw⟩
        exact ⟨rest, rfl, .last beforeRaw entryRaw afterRaw⟩
    | more before _ after separates _ ih ihOthers =>
        rcases blanks_ignoresLineEnds.lifted before with ⟨_, rfl, beforeRaw⟩
        rcases ih rfl with ⟨_, rfl, entryRaw⟩
        rcases blanks_ignoresLineEnds.lifted after with ⟨_, rfl, afterRaw⟩
        rcases comma.lifted separates with ⟨_, rfl, separatesRaw⟩
        rcases ihOthers rfl with ⟨rest, rfl, othersRaw⟩
        exact ⟨rest, rfl, .more beforeRaw entryRaw afterRaw separatesRaw othersRaw⟩

/-- Whether a text is a document does not depend on how its lines end. -/
theorem isDocument_unifyLineEnds_iff
    (inLine : ∀ letters ∈ words, ∀ point ∈ letters, IsInLine point)
    (text : Text) :
    IsDocument words text.unifyLineEnds ↔ IsDocument words text := by
  have ignores := derives_ignoresLineEnds inLine .value
  constructor
  · rintro ⟨_, _, unifiedBefore, unifiedValue, unifiedAfter⟩
    rcases blanks_ignoresLineEnds.lifted unifiedBefore with ⟨_, rfl, before⟩
    rcases ignores.lifted unifiedValue with ⟨_, rfl, value⟩
    rcases blanks_ignoresLineEnds.lifted unifiedAfter with ⟨rest, nothing, after⟩
    rw [Production.eq_nil_of_unifyLineEnds nothing] at after
    exact ⟨_, _, before, value, after⟩
  · rintro ⟨_, _, before, value, after⟩
    exact
      ⟨_, _, blanks_ignoresLineEnds.unified before, ignores.unified value,
        blanks_ignoresLineEnds.unified after⟩

end OpenApiGate.Json
