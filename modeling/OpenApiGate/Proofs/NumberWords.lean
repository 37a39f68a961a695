import OpenApiGate.Proofs.Grammar

/-!
# Words that stand for numbers

The decoder admits three words that the standard does not have.  A document of the
decoder is one of the standard exactly if none of their capitals is found outside
of its strings, which a scan of the text from left to right can tell.
-/

namespace OpenApiGate.Json

open Production (IsNumeric Takes blanks mark takes_number)

/-! ## Scanning a text -/

/-- Where in a text a scan has come to. -/
inductive Place where
  | outside
  | inString
  /-- In a string, right behind a backslash. -/
  | escaped

namespace Place

/-- Where the scan is behind the next code point. -/
def next (point : CodePoint) : Place → Place
  | .outside => if point.is '"' then .inString else .outside
  | .inString =>
    if point.is '"' then .outside
    else if point.is '\\' then .escaped
    else .inString
  | .escaped => .inString

/-- The code point is the capital of a word for a number, and stands outside of strings. -/
def showsCapital (point : CodePoint) : Place → Bool
  | .outside => point.is 'N' || point.is 'I'
  | .inString | .escaped => false

/-- A scan from a place on finds the capital of a word for a number. -/
def findsCapital (place : Place) : Text → Bool
  | [] => false
  | point :: rest => place.showsCapital point || (place.next point).findsCapital rest

end Place

/-- A word for a number stands in the text, outside of strings. -/
def namesNumber (text : Text) : Bool :=
  Place.outside.findsCapital text

/-! ## What a scan passes by -/

/-- Outside of strings nothing happens at the code point. -/
def IsQuiet (point : CodePoint) : Prop :=
  point.value ≠ 0x22 ∧ point.value ≠ 0x4E ∧ point.value ≠ 0x49

instance (point : CodePoint) : Decidable (IsQuiet point) :=
  inferInstanceAs (Decidable (_ ∧ _))

theorem namesNumber_cons
    {point : CodePoint}
    (quiet : IsQuiet point)
    (rest : Text) :
    namesNumber (point :: rest) = namesNumber rest := by
  have noMark {char : Char} (other : point.value ≠ char.toNat) : point.is char = false :=
    Bool.eq_false_iff.mpr fun same => other (CodePoint.value_eq_of_is same)
  have noQuote : point.is '"' = false := noMark quiet.1
  have noN : point.is 'N' = false := noMark quiet.2.1
  have noI : point.is 'I' = false := noMark quiet.2.2
  simp only [namesNumber, Place.findsCapital, Place.showsCapital, Place.next, noQuote, noN, noI,
    Bool.or_self, Bool.false_or, Bool.false_eq_true, if_false]

theorem namesNumber_append
    {taken : Text}
    (quiet : ∀ point ∈ taken, IsQuiet point)
    (rest : Text) :
    namesNumber (taken ++ rest) = namesNumber rest := by
  induction taken with
  | nil => rfl
  | cons point more ih =>
      rw [List.forall_mem_cons] at quiet
      rw [List.cons_append, namesNumber_cons quiet.1, ih quiet.2]

section Pieces

variable {production : Production} {text rest : Text}

theorem namesNumber_of_takes
    {test : CodePoint → Prop}
    (takes : Takes test production)
    (quiet : ∀ point, test point → IsQuiet point)
    (piece : production text rest) :
    namesNumber text = namesNumber rest := by
  rcases takes.taken piece with ⟨taken, rfl, passes, -⟩
  exact namesNumber_append (fun point member => quiet point (passes point member)) rest

theorem namesNumber_of_number (piece : Production.number text rest) :
    namesNumber text = namesNumber rest := by
  apply namesNumber_of_takes takes_number _ piece
  intro point numeric
  unfold IsNumeric at numeric
  unfold IsQuiet
  omega

theorem namesNumber_of_blanks (blank : blanks text rest) :
    namesNumber text = namesNumber rest := by
  have takes : Takes IsQuiet blanks := by
    refine (Takes.one ?_).many
    intro point isBlank
    unfold IsQuiet
    omega
  exact namesNumber_of_takes takes (fun _ quiet => quiet) blank

theorem namesNumber_of_mark
    {char : Char}
    (quiet : IsQuiet (CodePoint.ofChar char))
    (marked : mark char text rest) :
    namesNumber text = namesNumber rest := by
  rcases marked with ⟨_, rfl, rfl⟩
  exact namesNumber_cons quiet rest

/-- In a string nothing but a quotation mark or a backslash changes the place. -/
theorem findsCapital_of_takes
    (takes : Takes (fun point => point.value ≠ 0x22 ∧ point.value ≠ 0x5C) production)
    (piece : production text rest) :
    Place.inString.findsCapital text = Place.inString.findsCapital rest := by
  rcases takes.taken piece with ⟨taken, rfl, unmarked, -⟩
  clear piece
  induction taken with
  | nil => rfl
  | cons point more ih =>
      rw [List.forall_mem_cons] at unmarked
      have noQuote : point.is '"' = false :=
        Bool.eq_false_iff.mpr fun same => unmarked.1.1 (CodePoint.value_eq_of_is same)
      have noBackslash : point.is '\\' = false :=
        Bool.eq_false_iff.mpr fun same => unmarked.1.2 (CodePoint.value_eq_of_is same)
      simp only [List.cons_append, Place.findsCapital, Place.showsCapital, Place.next, noQuote,
        noBackslash, Bool.false_or, Bool.false_eq_true, if_false]
      exact ih unmarked.2

/-- An escape leads back into its string, whatever it escapes. -/
theorem findsCapital_of_escape
    (piece : Production.escape text rest) :
    Place.inString.findsCapital text = Place.inString.findsCapital rest := by
  have range {low high : Nat} (unmarked : 0x22 < low ∧ (high < 0x5C ∨ 0x5C < low)) :
      Takes (fun point => point.value ≠ 0x22 ∧ point.value ≠ 0x5C) (Production.range low high) :=
    .one fun point bounds => by omega
  have hexDigit :
      Takes (fun point => point.value ≠ 0x22 ∧ point.value ≠ 0x5C) Production.hexDigit :=
    (range (by decide)).orElse ((range (by decide)).orElse (range (by decide)))
  rcases piece with ⟨_, ⟨_, rfl, rfl⟩, ⟨letter, -, rfl⟩ | ⟨_, ⟨_, rfl, rfl⟩, quad⟩⟩
  · rfl
  · have quadTakes := hexDigit.andThen (hexDigit.andThen (hexDigit.andThen hexDigit))
    have passed := findsCapital_of_takes quadTakes quad
    exact passed

theorem namesNumber_of_string (piece : Production.string text rest) :
    namesNumber text = namesNumber rest := by
  rcases piece with ⟨_, ⟨_, rfl, rfl⟩, last, characters, _, rfl, rfl⟩
  have opened (inner : Text) :
      namesNumber (CodePoint.ofChar '"' :: inner) = Place.inString.findsCapital inner := rfl
  have plainTakes :
      Takes (fun point => point.value ≠ 0x22 ∧ point.value ≠ 0x5C) Production.plain := by
    refine Takes.orElse (.one ?_) (.orElse (.one ?_) (.one ?_)) <;>
      (intro point bounds; omega)
  rw [opened]
  induction characters using Relation.ReflTransGen.head_induction_on with
  | refl => rfl
  | head piece _ ih =>
      rcases piece with plain | escape
      · rw [findsCapital_of_takes plainTakes plain, ih]
      · rw [findsCapital_of_escape escape, ih]

end Pieces

/-! ## Documents of the standard -/

variable {words : List Text} {part : Part} {text rest : Text}

theorem IsDocument.mono
    {others : List Text}
    (known : ∀ letters ∈ words, letters ∈ others)
    (document : IsDocument words text) :
    IsDocument others text := by
  have derives_mono {part : Part} {text rest : Text} (derives : Derives words part text rest) :
      Derives others part text rest := by
    induction derives with
    | word isWord spelled => exact .word (known _ isWord) spelled
    | number spelled => exact .number spelled
    | string spelled => exact .string spelled
    | empty opens blank closes => exact .empty opens blank closes
    | full opens _ closes ih => exact .full opens ih closes
    | member key beforeColon separates beforeValue _ ih =>
        exact .member key beforeColon separates beforeValue ih
    | last before _ after ih => exact .last before ih after
    | more before _ after separates _ ih ihOthers => exact .more before ih after separates ihOthers
  rcases document with ⟨value, after, before, derives, behind⟩
  exact ⟨value, after, before, derives_mono derives, behind⟩

theorem isQuiet_opening (container : Container) :
    IsQuiet (CodePoint.ofChar container.opening) := by
  cases container <;> decide

theorem isQuiet_closing (container : Container) :
    IsQuiet (CodePoint.ofChar container.closing) := by
  cases container <;> decide

/-- A scan finds nothing in what the standard derives. -/
theorem namesNumber_of_derives (derives : Derives standardWords part text rest) :
    namesNumber text = namesNumber rest := by
  induction derives with
  | word known spelled =>
      have quiet : ∀ letters ∈ standardWords, ∀ point ∈ letters, IsQuiet point := by decide
      rw [spelled]
      exact namesNumber_append (quiet _ known) _
  | number spelled => exact namesNumber_of_number spelled
  | string spelled => exact namesNumber_of_string spelled
  | empty opens blank closes =>
      rw [namesNumber_of_mark (isQuiet_opening _) opens, namesNumber_of_blanks blank,
        namesNumber_of_mark (isQuiet_closing _) closes]
  | full opens _ closes ih =>
      rw [namesNumber_of_mark (isQuiet_opening _) opens, ih,
        namesNumber_of_mark (isQuiet_closing _) closes]
  | member key beforeColon separates beforeValue _ ih =>
      rw [namesNumber_of_string key, namesNumber_of_blanks beforeColon,
        namesNumber_of_mark (by decide) separates, namesNumber_of_blanks beforeValue, ih]
  | last before _ after ih =>
      rw [namesNumber_of_blanks before, ih, namesNumber_of_blanks after]
  | more before _ after separates _ ih ihOthers =>
      rw [namesNumber_of_blanks before, ih, namesNumber_of_blanks after,
        namesNumber_of_mark (by decide) separates, ihOthers]

/-- What the decoder derives, the standard derives, or a scan finds a word for a number in it. -/
theorem standard_or_namesNumber (derives : Derives admittedWords part text rest) :
    Derives standardWords part text rest ∨ namesNumber text = true := by
  induction derives with
  | word known spelled =>
      rcases List.mem_append.mp known with standard | number
      · exact Or.inl (.word standard spelled)
      · right
        rw [spelled]
        simp only [numberWords, List.mem_cons, List.not_mem_nil, or_false] at number
        rcases number with rfl | rfl | rfl <;> rfl
  | number spelled => exact Or.inl (.number spelled)
  | string spelled => exact Or.inl (.string spelled)
  | empty opens blank closes => exact Or.inl (.empty opens blank closes)
  | full opens _ closes ih =>
      rw [namesNumber_of_mark (isQuiet_opening _) opens]
      exact ih.imp_left fun entries => .full opens entries closes
  | member key beforeColon separates beforeValue _ ih =>
      rw [namesNumber_of_string key, namesNumber_of_blanks beforeColon,
        namesNumber_of_mark (by decide) separates, namesNumber_of_blanks beforeValue]
      exact ih.imp_left fun value => .member key beforeColon separates beforeValue value
  | last before _ after ih =>
      rw [namesNumber_of_blanks before]
      exact ih.imp_left fun entry => .last before entry after
  | more before _ after separates _ ih ihOthers =>
      rw [namesNumber_of_blanks before]
      rcases ih with entry | found
      · rw [namesNumber_of_derives entry, namesNumber_of_blanks after,
          namesNumber_of_mark (by decide) separates]
        exact ihOthers.imp_left fun others => .more before entry after separates others
      · exact Or.inr found

/-- The documents of the standard are those of the decoder without words for numbers. -/
theorem isDocument_standardWords_iff (text : Text) :
    IsDocument standardWords text ↔
      IsDocument admittedWords text ∧ namesNumber text = false := by
  constructor
  · intro document
    refine ⟨document.mono fun _ => List.mem_append_left numberWords, ?_⟩
    rcases document with ⟨value, after, before, derives, behind⟩
    rw [namesNumber_of_blanks before, namesNumber_of_derives derives, namesNumber_of_blanks behind]
    rfl
  · rintro ⟨⟨value, after, before, derives, behind⟩, found⟩
    rw [namesNumber_of_blanks before] at found
    have standard := (standard_or_namesNumber derives).resolve_right (by simp [found])
    exact ⟨value, after, before, standard, behind⟩

example : namesNumber "[\"NaN\", \"\\\"Infinity\"]" = false := by decide

example : namesNumber "[\"NaN\", -Infinity]" = true := by decide

end OpenApiGate.Json
