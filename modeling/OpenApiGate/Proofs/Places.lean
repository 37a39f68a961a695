import Mathlib.Data.List.TakeWhile
import OpenApiGate.Reference

/-!
# Places inside a document

The keys of a reference lead from a value to a place inside it.  In an object a
key is looked up among the members; in an array it is read as an index.  Two
tests decide on an index, and they differ: a key passes for an index if all its
code points are digits of some kind, but only decimal digits spell an integer,
and only so many of them.  A key that passes the first test and fails the second
is misread, and reading it is the only way in which the walk can end in an error.
-/

namespace OpenApiGate.Reference

open Json (Value)
open Decimal (IntegerError integerDigitLimit naturalOf)

/-! ## Indices -/

/-- A key of digits of any kind, which passes for an index. -/
def LooksLikeIndex (key : Text) : Prop :=
  key ≠ [] ∧ ∀ point ∈ key, point.isAnyDigit = true

/-- A key of decimal digits, not too many of them. -/
def SpellsInteger (key : Text) : Prop :=
  key.length ≤ integerDigitLimit ∧ ∀ point ∈ key, point.decimalValue?.isSome = true

/-- A key that passes for an index and spells no integer. -/
def Misread (key : Text) : Prop :=
  LooksLikeIndex key ∧ ¬ SpellsInteger key

/-- The index that a key of decimal digits spells. -/
def indexOf (key : Text) : Nat :=
  Decimal.ofDigits (key.filterMap CodePoint.decimalValue?)

theorem looksLikeIndex_iff (key : Text) :
    LooksLikeIndex key ↔ (key.isEmpty || !key.all CodePoint.isAnyDigit) = false := by
  simp [LooksLikeIndex]

theorem naturalOf_of_spellsInteger
    {key : Text}
    (spells : SpellsInteger key) :
    naturalOf key = .ok (indexOf key) := by
  have whole := List.takeWhile_eq_self_iff.mpr spells.2
  have notTooLong : ¬ integerDigitLimit < key.length := Nat.not_lt.mpr spells.1
  simp only [naturalOf, whole, if_neg notTooLong, Nat.lt_irrefl, if_false]
  rfl

theorem naturalOf_of_not_spellsInteger
    {key : Text}
    (refused : ¬ SpellsInteger key) :
    ∃ error, naturalOf key = .error error := by
  unfold naturalOf
  by_cases tooLong :
      integerDigitLimit < (key.takeWhile fun point => point.decimalValue?.isSome).length
  · exact ⟨_, if_pos tooLong⟩
  · rw [if_neg tooLong]
    by_cases shorter :
        (key.takeWhile fun point => point.decimalValue?.isSome).length < key.length
    · exact ⟨_, if_pos shorter⟩
    · -- Otherwise the digits are the whole key, which then spells an integer.
      have whole : (key.takeWhile fun point => point.decimalValue?.isSome) = key :=
        (List.takeWhile_prefix _).eq_of_length_le (Nat.not_lt.mp shorter)
      rw [whole] at tooLong
      exact
        absurd ⟨Nat.not_lt.mp tooLong, List.takeWhile_eq_self_iff.mp whole⟩ refused

/-! ## One step -/

theorem step_array_of_spellsInteger
    {key : Text}
    (looks : LooksLikeIndex key)
    (spells : SpellsInteger key)
    (items : List Value) :
    step (.array items) key = .ok items[indexOf key]? := by
  rw [looksLikeIndex_iff] at looks
  simp only [step, looks, naturalOf_of_spellsInteger spells]
  rfl

theorem step_array_of_not_looksLikeIndex
    {key : Text}
    (plain : ¬ LooksLikeIndex key)
    (items : List Value) :
    step (.array items) key = .ok none := by
  rw [looksLikeIndex_iff, Bool.not_eq_false] at plain
  simp only [step, plain]
  rfl

theorem step_array_of_misread
    {key : Text}
    (misread : Misread key)
    (items : List Value) :
    ∃ error, step (.array items) key = .error error := by
  have looks := (looksLikeIndex_iff key).mp misread.1
  rcases naturalOf_of_not_spellsInteger misread.2 with ⟨error, reading⟩
  refine ⟨error, ?_⟩
  simp only [step, looks, reading]
  rfl

/-- A step ends in an error exactly if a misread key is applied to an array. -/
theorem step_eq_error_iff
    (value : Value)
    (key : Text) :
    (∃ error, step value key = .error error) ↔
      (∃ items, value = .array items) ∧ Misread key := by
  constructor
  · rintro ⟨error, failure⟩
    cases value with
    | array items =>
        refine ⟨⟨items, rfl⟩, ?_⟩
        by_cases looks : LooksLikeIndex key
        · refine ⟨looks, fun spells => ?_⟩
          rw [step_array_of_spellsInteger looks spells items] at failure
          cases failure
        · rw [step_array_of_not_looksLikeIndex looks items] at failure
          cases failure
    | _ => cases failure
  · rintro ⟨⟨items, rfl⟩, misread⟩
    exact step_array_of_misread misread items

/-- A step leads on along the member under the key, or to the item at the index. -/
theorem step_eq_some_iff
    (value next : Value)
    (key : Text) :
    step value key = .ok (some next) ↔
      (∃ members, value = .object members ∧ members.lookup key = some next) ∨
        ∃ items, value = .array items ∧ LooksLikeIndex key ∧ SpellsInteger key ∧
          items[indexOf key]? = some next := by
  constructor
  · intro success
    cases value with
    | object members => exact Or.inl ⟨members, rfl, Except.ok.inj success⟩
    | array items =>
        refine Or.inr ⟨items, rfl, ?_⟩
        by_cases looks : LooksLikeIndex key
        · by_cases spells : SpellsInteger key
          · rw [step_array_of_spellsInteger looks spells items] at success
            exact ⟨looks, spells, Except.ok.inj success⟩
          · rcases step_array_of_misread ⟨looks, spells⟩ items with ⟨error, failure⟩
            rw [failure] at success
            cases success
        · rw [step_array_of_not_looksLikeIndex looks items] at success
          cases success
    | _ => cases success
  · rintro (⟨members, rfl, found⟩ | ⟨items, rfl, looks, spells, found⟩)
    · exact congrArg Except.ok found
    · rw [step_array_of_spellsInteger looks spells items, found]

/-! ## The walk -/

/-- The keys lead from a value to a place inside it. -/
inductive Locates : Value → List Text → Value → Prop where
  | here (value) : Locates value [] value
  | member
      {members : Json.Members} {key : Text} {rest : List Text} {next target : Value}
      (found : members.lookup key = some next)
      (tail : Locates next rest target) :
      Locates (.object members) (key :: rest) target
  | item
      {items : List Value} {key : Text} {rest : List Text} {next target : Value}
      (looks : LooksLikeIndex key)
      (spells : SpellsInteger key)
      (found : items[indexOf key]? = some next)
      (tail : Locates next rest target) :
      Locates (.array items) (key :: rest) target

theorem locates_cons_iff
    (value target : Value)
    (key : Text)
    (rest : List Text) :
    Locates value (key :: rest) target ↔
      ∃ next, step value key = .ok (some next) ∧ Locates next rest target := by
  constructor
  · intro located
    cases located with
    | @member members _ _ next _ found tail =>
        exact ⟨next, (step_eq_some_iff _ _ _).mpr (.inl ⟨members, rfl, found⟩), tail⟩
    | @item items _ _ next _ looks spells found tail =>
        exact
          ⟨next, (step_eq_some_iff _ _ _).mpr (.inr ⟨items, rfl, looks, spells, found⟩), tail⟩
  · rintro ⟨next, success, tail⟩
    rcases (step_eq_some_iff _ _ _).mp success with
      ⟨members, rfl, found⟩ | ⟨items, rfl, looks, spells, found⟩
    · exact .member found tail
    · exact .item looks spells found tail

/-- The walk finds a place exactly if the keys lead there. -/
theorem walk_eq_some_iff
    (value target : Value)
    (keys : List Text) :
    walk value keys = .ok (some target) ↔ Locates value keys target := by
  induction keys generalizing value with
  | nil =>
      constructor
      · intro success
        cases success
        exact .here _
      · intro located
        cases located
        rfl
  | cons key rest ih =>
      rw [locates_cons_iff]
      cases stepped : step value key with
      | error error => simp [walk, stepped]
      | ok found =>
          cases found with
          | none => simp [walk, stepped]
          | some next => simp [walk, stepped, ih next]

/-- The keys lead to an array and then to a misread key. -/
def MisreadOnWay
    (value : Value)
    (keys : List Text) :
    Prop :=
  ∃ front misread rest items,
    keys = front ++ misread :: rest ∧ Locates value front (.array items) ∧ Misread misread

theorem misreadOnWay_cons_iff
    (value : Value)
    (key : Text)
    (rest : List Text) :
    MisreadOnWay value (key :: rest) ↔
      ((∃ items, value = .array items) ∧ Misread key) ∨
        ∃ next, step value key = .ok (some next) ∧ MisreadOnWay next rest := by
  constructor
  · rintro ⟨front, misread, after, items, split, located, bad⟩
    cases front with
    | nil =>
        cases split
        cases located
        exact Or.inl ⟨⟨items, rfl⟩, bad⟩
    | cons first front =>
        cases split
        rcases (locates_cons_iff _ _ _ _).mp located with ⟨next, success, tail⟩
        exact Or.inr ⟨next, success, front, misread, after, items, rfl, tail, bad⟩
  · rintro (⟨⟨items, rfl⟩, bad⟩ | ⟨next, success, front, misread, after, items, rfl, tail, bad⟩)
    · exact ⟨[], key, rest, items, rfl, .here _, bad⟩
    · exact
        ⟨key :: front, misread, after, items, rfl,
          (locates_cons_iff _ _ _ _).mpr ⟨next, success, tail⟩, bad⟩

/-- The walk ends in an error exactly if it applies a misread key to an array. -/
theorem walk_eq_error_iff
    (value : Value)
    (keys : List Text) :
    (∃ error, walk value keys = .error error) ↔ MisreadOnWay value keys := by
  induction keys generalizing value with
  | nil =>
      constructor
      · rintro ⟨error, failure⟩
        cases failure
      · rintro ⟨front, misread, rest, items, split, -, -⟩
        simp at split
  | cons key rest ih =>
      rw [misreadOnWay_cons_iff, ← step_eq_error_iff]
      cases stepped : step value key with
      | error error => simp [walk, stepped]
      | ok found =>
          cases found with
          | none => simp [walk, stepped]
          | some next => simp [walk, stepped, ih next]

/-! ## References -/

/-- The text of a reference names a place of the document. -/
def Denotes
    (document : Value)
    (text : Text)
    (target : Value) :
    Prop :=
  ∃ keys, keys? text = some keys ∧ Locates document keys target

/-- On the way along a reference an array meets a misread key. -/
def Misleads
    (document : Value)
    (text : Text) :
    Prop :=
  ∃ keys, keys? text = some keys ∧ MisreadOnWay document keys

theorem resolve_eq_some_iff
    (document target : Value)
    (text : Text) :
    resolve document (.string text) = .ok (some target) ↔ Denotes document text target := by
  cases parsed : keys? text with
  | none => simp [resolve, Denotes, parsed]
  | some keys => simp [resolve, Denotes, parsed, walk_eq_some_iff]

theorem resolve_eq_error_iff
    (document : Value)
    (text : Text) :
    (∃ error, resolve document (.string text) = .error error) ↔ Misleads document text := by
  cases parsed : keys? text with
  | none => simp [resolve, Misleads, parsed]
  | some keys => simp [resolve, Misleads, parsed, walk_eq_error_iff]

/-- A reference that names no place of the document, and misleads nowhere, leads nowhere. -/
theorem resolve_eq_none_of_not_denotes
    {document : Value}
    {text : Text}
    (elsewhere : ∀ target, ¬ Denotes document text target)
    (straight : ¬ Misleads document text) :
    resolve document (.string text) = .ok none := by
  cases resolved : resolve document (.string text) with
  | error error =>
      exact absurd ((resolve_eq_error_iff document text).mp ⟨error, resolved⟩) straight
  | ok found =>
      cases found with
      | none => rfl
      | some target =>
          exact absurd ((resolve_eq_some_iff document target text).mp resolved) (elsewhere target)

end OpenApiGate.Reference
