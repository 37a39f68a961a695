import OpenApiGate.Proofs.Decoding
import OpenApiGate.Proofs.Numerals
import OpenApiGate.Proofs.Places

/-!
# Spelling a place as a reference

Every place of a document can be spelled as a reference.  A selector goes from a
value to the member under a key, or to the item at an index.  The pointer of
selectors writes each key with its tildes and slashes escaped, and each index in
decimal digits.  Resolving a reference splits it at its slashes and undoes the
two escapes one after the other; the main statement says that this leads back to
the place, whatever tildes, slashes and digits the keys hold.
-/

namespace OpenApiGate.Reference

open Json (Value)
open Decimal (Below digitsText integerDigitLimit)

/-! ## Escapes -/

/-- A text in which every occurrence of a character is replaced by a text. -/
def replace
    (char : Char)
    (replacement : Text)
    (text : Text) :
    Text :=
  text.flatMap fun point => if point.is char then replacement else [point]

/-- A key as a reference spells it: first tildes become `~0`, then slashes become `~1`. -/
def escape (key : Text) : Text :=
  replace '/' "~1" (replace '~' "~0" key)

section Pairs

variable {second replacement : Char} {point : CodePoint}

/-- A code point that is no tilde starts no pair. -/
theorem unescapePair_of_not_tilde
    (plain : point.is '~' = false)
    (rest : Text) :
    unescapePair second replacement (point :: rest) =
      point :: unescapePair second replacement rest := by
  cases rest with
  | nil => rfl
  | cons next rest => simp [unescapePair, plain]

/-- A tilde starts no pair if another character follows it than the second one of the pair. -/
theorem unescapePair_of_not_second
    (other : point.is second = false)
    (rest : Text) :
    unescapePair second replacement (CodePoint.ofChar '~' :: point :: rest) =
      CodePoint.ofChar '~' :: unescapePair second replacement (point :: rest) := by
  simp [unescapePair, other]

theorem unescapePair_of_pair (rest : Text) :
    unescapePair second replacement (CodePoint.ofChar '~' :: CodePoint.ofChar second :: rest) =
      CodePoint.ofChar replacement :: unescapePair second replacement rest := by
  simp [unescapePair, CodePoint.is]

theorem unescapePair_of_no_tilde
    {text : Text}
    (plain : ∀ point ∈ text, point.is '~' = false) :
    unescapePair second replacement text = text := by
  induction text with
  | nil => rfl
  | cons point rest ih =>
      rw [unescapePair_of_not_tilde (plain point List.mem_cons_self)]
      have tail := ih fun later within => plain later (List.mem_cons_of_mem point within)
      rw [tail]

end Pairs

theorem escape_tilde (rest : Text) :
    escape (CodePoint.ofChar '~' :: rest) =
      CodePoint.ofChar '~' :: CodePoint.ofChar '0' :: escape rest :=
  rfl

theorem escape_slash (rest : Text) :
    escape (CodePoint.ofChar '/' :: rest) =
      CodePoint.ofChar '~' :: CodePoint.ofChar '1' :: escape rest :=
  rfl

theorem escape_of_plain
    {point : CodePoint}
    (notTilde : point.is '~' = false)
    (notSlash : point.is '/' = false)
    (rest : Text) :
    escape (point :: rest) = point :: escape rest := by
  simp [escape, replace, notTilde, notSlash]

/-- A code point is a tilde, a slash, or one that needs no escape. -/
theorem escape_cases (point : CodePoint) :
    point = CodePoint.ofChar '~' ∨ point = CodePoint.ofChar '/' ∨
      (point.is '~' = false ∧ point.is '/' = false) := by
  by_cases tilde : point = CodePoint.ofChar '~'
  · exact Or.inl tilde
  · by_cases slash : point = CodePoint.ofChar '/'
    · exact Or.inr (Or.inl slash)
    · exact Or.inr (Or.inr ⟨beq_false_of_ne tilde, beq_false_of_ne slash⟩)

/-- Undoing the second escape first leaves the tildes escaped. -/
theorem unescapePair_escape (key : Text) :
    unescapePair '1' '/' (escape key) = replace '~' "~0" key := by
  induction key with
  | nil => rfl
  | cons point rest ih =>
      rcases escape_cases point with rfl | rfl | ⟨notTilde, notSlash⟩
      · -- The zero behind the tilde keeps it from being taken for an escaped slash.
        rw [escape_tilde, unescapePair_of_not_second rfl, unescapePair_of_not_tilde rfl, ih]
        rfl
      · rw [escape_slash, unescapePair_of_pair, ih]
        rfl
      · rw [escape_of_plain notTilde notSlash, unescapePair_of_not_tilde notTilde, ih]
        simp [replace, notTilde]

theorem unescapePair_replace (key : Text) :
    unescapePair '0' '~' (replace '~' "~0" key) = key := by
  induction key with
  | nil => rfl
  | cons point rest ih =>
      rcases escape_cases point with rfl | rfl | ⟨notTilde, -⟩
      · exact (unescapePair_of_pair _).trans (congrArg _ ih)
      · exact (unescapePair_of_not_tilde rfl _).trans (congrArg _ ih)
      · have kept : replace '~' "~0" (point :: rest) = point :: replace '~' "~0" rest := by
          simp [replace, notTilde]
        rw [kept, unescapePair_of_not_tilde notTilde, ih]

/-- Undoing the escapes of a key gives the key back. -/
theorem unescape_escape (key : Text) : unescape (escape key) = key := by
  rw [unescape, unescapePair_escape, unescapePair_replace]

theorem not_slash_of_mem_escape
    {key : Text}
    {point : CodePoint}
    (within : point ∈ escape key) :
    point ≠ CodePoint.ofChar '/' := by
  rcases List.mem_flatMap.mp within with ⟨before, -, replaced⟩
  split at replaced
  · rintro rfl
    revert replaced
    decide
  · next notSlash =>
      rintro rfl
      rw [← List.mem_singleton.mp replaced] at notSlash
      exact notSlash rfl

/-! ## Digits -/

/-- The decimal digits of a number have the values that they stand for. -/
theorem decimalValue?_ofDigit :
    ∀ digit < 10, (CodePoint.ofDigit digit).decimalValue? = some digit := by
  decide

theorem filterMap_decimalValue?
    {digits : List Nat}
    (below : Below digits) :
    (digitsText digits).filterMap CodePoint.decimalValue? = digits := by
  induction digits with
  | nil => rfl
  | cons first rest ih =>
      have value := decimalValue?_ofDigit first (below first List.mem_cons_self)
      have tail := ih fun digit within => below digit (List.mem_cons_of_mem first within)
      rw [digitsText, List.map_cons, List.filterMap_cons_some value]
      exact congrArg (first :: ·) tail

/-- An index in decimal digits passes for an index. -/
theorem looksLikeIndex_ofNat (number : Nat) : LooksLikeIndex (Text.ofNat number) := by
  rw [Decimal.ofNat_eq_digitsText]
  refine ⟨?_, fun point within => ?_⟩
  · have nonempty := (Decimal.whole_digitsOf number).ne_nil
    exact List.map_eq_nil_iff.not.mpr nonempty
  · rcases List.mem_map.mp within with ⟨digit, member, rfl⟩
    have value := decimalValue?_ofDigit digit (Decimal.below_digitsOf number digit member)
    simp [CodePoint.isAnyDigit, value]

theorem spellsInteger_ofNat
    {number : Nat}
    (short : (Text.ofNat number).length ≤ integerDigitLimit) :
    SpellsInteger (Text.ofNat number) := by
  refine ⟨short, fun point within => ?_⟩
  rw [Decimal.ofNat_eq_digitsText] at within
  rcases List.mem_map.mp within with ⟨digit, member, rfl⟩
  rw [decimalValue?_ofDigit digit (Decimal.below_digitsOf number digit member)]
  rfl

/-- An index in decimal digits spells itself. -/
theorem indexOf_ofNat (number : Nat) : indexOf (Text.ofNat number) = number := by
  rw [indexOf, Decimal.ofNat_eq_digitsText,
    filterMap_decimalValue? (Decimal.below_digitsOf number), Decimal.ofDigits_digitsOf]

/-! ## Pointers -/

/-- A step into a value: to the member under a key, or to the item at an index. -/
inductive Selector where
  | key (name : Text)
  | index (number : Nat)

namespace Selector

/-- A selector as a part of a reference. -/
def part : Selector → Text
  | .key name => escape name
  | .index number => Text.ofNat number

/-- The key that a selector stands for in a walk. -/
def name : Selector → Text
  | .key name => name
  | .index number => Text.ofNat number

end Selector

/-- The reference that is spelled with the parts of selectors. -/
def pointer (selectors : List Selector) : Text :=
  "#/" ++ Text.joined "/" (selectors.map Selector.part)

/-- Selectors lead from a value to a value inside it; the digits of indices are limited. -/
inductive Selects : Value → List Selector → Value → Prop where
  | here (value) : Selects value [] value
  | key
      {members : Json.Members} {name : Text} {rest : List Selector} {next target : Value}
      (found : members.lookup name = some next)
      (tail : Selects next rest target) :
      Selects (.object members) (.key name :: rest) target
  | index
      {items : List Value} {number : Nat} {rest : List Selector} {next target : Value}
      (short : (Text.ofNat number).length ≤ integerDigitLimit)
      (found : items[number]? = some next)
      (tail : Selects next rest target) :
      Selects (.array items) (.index number :: rest) target

theorem Selects.locates
    {value target : Value}
    {selectors : List Selector}
    (selects : Selects value selectors target) :
    Locates value (selectors.map Selector.name) target := by
  induction selects with
  | here value => exact .here value
  | key found _ ih => exact .member found ih
  | @index items number rest next target short found _ ih =>
      have atIndex : items[indexOf (Text.ofNat number)]? = some next := by
        rw [indexOf_ofNat]
        exact found
      exact .item (looksLikeIndex_ofNat number) (spellsInteger_ofNat short) atIndex ih

theorem Selector.slash_not_mem_part (selector : Selector) :
    CodePoint.ofChar '/' ∉ selector.part := by
  cases selector with
  | key name =>
      intro within
      exact not_slash_of_mem_escape within rfl
  | index number =>
      intro within
      cases Decimal.isDigit_of_mem_ofNat within

theorem Selector.unescape_part (selector : Selector) : unescape selector.part = selector.name := by
  cases selector with
  | key name => exact unescape_escape name
  | index number =>
      have plain : ∀ point ∈ Text.ofNat number, point.is '~' = false := by
        intro point within
        exact CodePoint.is_eq_false_of_test (Decimal.isDigit_of_mem_ofNat within) rfl
      show unescape (Text.ofNat number) = Text.ofNat number
      rw [unescape, unescapePair_of_no_tilde plain, unescapePair_of_no_tilde plain]

/-- The keys of a pointer are the names of its selectors. -/
theorem keys?_pointer
    {selectors : List Selector}
    (nonempty : selectors ≠ []) :
    keys? (pointer selectors) = some (selectors.map Selector.name) := by
  have split :
      Text.splitOn (CodePoint.ofChar '/') (Text.joined "/" (selectors.map Selector.part)) =
        selectors.map Selector.part := by
    refine List.splitOn_intercalate (CodePoint.ofChar '/') ?_ (List.map_eq_nil_iff.not.mpr nonempty)
    intro part within
    rcases List.mem_map.mp within with ⟨selector, -, rfl⟩
    exact selector.slash_not_mem_part
  have names : (selectors.map Selector.part).map unescape = selectors.map Selector.name := by
    rw [List.map_map]
    exact List.map_congr_left fun selector _ => selector.unescape_part
  rw [← names, ← split]
  rfl

/--
The pointer of selectors that lead from a document to a value inside it resolves
to exactly this value.
-/
theorem resolve_pointer
    {document target : Value}
    {selectors : List Selector}
    (nonempty : selectors ≠ [])
    (selects : Selects document selectors target) :
    resolve document (.string (pointer selectors)) = .ok (some target) := by
  rw [resolve_eq_some_iff]
  exact ⟨selectors.map Selector.name, keys?_pointer nonempty, selects.locates⟩

/-- A document with keys that look like escapes, an empty key and a key of digits. -/
def crookedKeys : Value :=
  .object
    [("~1", .object
        [("", .array
            [.null, .object [("/~01", .object [("1", .string "here"), ("~", .null)])]])])]

theorem resolve_pointer_of_crookedKeys :
    pointer [.key "~1", .key "", .index 1, .key "/~01", .key "1"] =
        Text.ofString "#/~01//1/~1~001/1" ∧
      resolve crookedKeys
          (.string (pointer [.key "~1", .key "", .index 1, .key "/~01", .key "1"])) =
        .ok (some (.string "here")) := by
  refine ⟨by decide, resolve_pointer (List.cons_ne_nil _ _) ?_⟩
  exact .key rfl (.key rfl (.index (by decide) rfl (.key rfl (.key rfl (.here _)))))

end OpenApiGate.Reference
