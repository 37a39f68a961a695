import Mathlib.Data.List.DropRight
import OpenApiGate.Decimal.Double
import OpenApiGate.Decimal.Reading

/-!
# How numbers are written

The digits of a number spell it and start with no zero, unless they are a
single zero.  The fewest digits of a finite double are of that kind too, so
that a layout that shows fractions writes it as a literal: a whole part, and a
fraction or an exponent or both.
-/

namespace OpenApiGate

namespace Decimal

/-! ## The digits of a number -/

theorem digitsOf_of_lt {number : Nat} (small : number < 10) :
    digitsOf number = [number] := by
  rw [digitsOf, Nat.toDigits_of_lt_base small, List.map_singleton,
    Nat.toNat_digitChar_of_lt_ten small, Nat.add_sub_cancel_left]

theorem digitsOf_of_le {number : Nat} (large : 10 ≤ number) :
    digitsOf number = digitsOf (number / 10) ++ [number % 10] := by
  have small : number % 10 < 10 := Nat.mod_lt number (by decide)
  rw [digitsOf, Nat.toDigits_of_base_le (by decide) large, List.map_append, List.map_singleton,
    Nat.toNat_digitChar_of_lt_ten small, Nat.add_sub_cancel_left]
  rfl

theorem bounds_of_mem_toDigits
    {number : Nat}
    {char : Char}
    (member : char ∈ Nat.toDigits 10 number) :
    0x30 ≤ char.toNat ∧ char.toNat ≤ 0x39 :=
  Char.isDigit_iff_toNat.mp (Nat.isDigit_of_mem_toDigits (by decide) (by decide) member)

theorem lt_ten_of_mem_digitsOf
    {number digit : Nat}
    (member : digit ∈ digitsOf number) :
    digit < 10 := by
  rcases List.mem_map.mp member with ⟨char, within, rfl⟩
  have bounds := bounds_of_mem_toDigits within
  omega

/-- The digits of a positive number do not start with a zero. -/
theorem digitsOf_leads
    (number : Nat)
    (positive : 0 < number) :
    ∃ first rest, digitsOf number = first :: rest ∧ 0 < first := by
  induction number using Nat.strong_induction_on with
  | _ number ih =>
      rcases Nat.lt_or_ge number 10 with small | large
      · exact ⟨number, [], digitsOf_of_lt small, positive⟩
      · have less : number / 10 < number := Nat.div_lt_self positive (by decide)
        have left : 0 < number / 10 := Nat.div_pos large (by decide)
        rcases ih (number / 10) less left with ⟨first, rest, digits, nonzero⟩
        refine ⟨first, rest ++ [number % 10], ?_, nonzero⟩
        rw [digitsOf_of_le large, digits]
        rfl

theorem ofDigits_concat (digits : List Nat) (last : Nat) :
    ofDigits (digits ++ [last]) = ofDigits digits * 10 + last := by
  simp only [ofDigits, List.foldl_append, List.foldl_cons, List.foldl_nil]

/-- The digits of a number spell it. -/
theorem ofDigits_digitsOf (number : Nat) : ofDigits (digitsOf number) = number := by
  induction number using Nat.strong_induction_on with
  | _ number ih =>
      rcases Nat.lt_or_ge number 10 with small | large
      · rw [digitsOf_of_lt small]
        exact Nat.zero_add number
      · have less : number / 10 < number := Nat.div_lt_self (by omega) (by decide)
        rw [digitsOf_of_le large, ofDigits_concat, ih (number / 10) less]
        omega

/-! ## Texts of digits -/

/-- Each of the digits lies below ten. -/
def Below (digits : List Nat) : Prop :=
  ∀ digit ∈ digits, digit < 10

theorem Below.append
    {first second : List Nat}
    (before : Below first)
    (after : Below second) :
    Below (first ++ second) :=
  List.forall_mem_append.mpr ⟨before, after⟩

theorem Below.take {digits : List Nat} (below : Below digits) (count : Nat) :
    Below (digits.take count) :=
  fun digit member => below digit (List.mem_of_mem_take member)

theorem Below.drop {digits : List Nat} (below : Below digits) (count : Nat) :
    Below (digits.drop count) :=
  fun digit member => below digit (List.mem_of_mem_drop member)

theorem below_replicate (count : Nat) : Below (List.replicate count 0) := by
  intro digit member
  rw [List.eq_of_mem_replicate member]
  decide

theorem below_digitsOf (number : Nat) : Below (digitsOf number) :=
  fun _ member => lt_ten_of_mem_digitsOf member

theorem value_ofDigit
    {digit : Nat}
    (small : digit < 10) :
    (CodePoint.ofDigit digit).value = 0x30 + digit := by
  have valid : 0x30 + digit < 0x110000 := by omega
  rw [CodePoint.ofDigit, CodePoint.ofNat, dif_pos valid]

theorem isDigit_of_mem_digitsText
    {digits : List Nat}
    (below : Below digits) :
    ∀ point ∈ digitsText digits, point.isDigit = true := by
  intro point member
  rcases List.mem_map.mp member with ⟨digit, within, rfl⟩
  have small := below digit within
  simp only [CodePoint.isDigit, CodePoint.inRange, value_ofDigit small, Bool.and_eq_true,
    decide_eq_true_eq]
  omega

theorem digitsText_append (first second : List Nat) :
    digitsText (first ++ second) = digitsText first ++ digitsText second :=
  List.map_append

theorem digitsText_replicate (count : Nat) :
    digitsText (List.replicate count 0) = zeros count :=
  List.map_replicate

theorem length_digitsText (digits : List Nat) : (digitsText digits).length = digits.length :=
  List.length_map _

theorem isEmpty_digitsText {digits : List Nat} (nonempty : digits ≠ []) :
    (digitsText digits).isEmpty = false := by
  rw [List.isEmpty_eq_false_iff, digitsText, ne_eq, List.map_eq_nil_iff]
  exact nonempty

/-- A text of digits spells what the digits spell. -/
theorem ofDigitText_digitsText
    {digits : List Nat}
    (below : Below digits) :
    ofDigitText (digitsText digits) = ofDigits digits := by
  have same : (digitsText digits).map CodePoint.digitValue = digits := by
    rw [digitsText, List.map_map]
    conv_rhs => rw [← List.map_id digits]
    apply List.map_congr_left
    intro digit member
    rw [Function.comp_apply, CodePoint.digitValue, value_ofDigit (below digit member),
      Nat.add_sub_cancel_left]
    rfl
  rw [ofDigitText, same]

/-- A number is written in its digits. -/
theorem ofNat_eq_digitsText (number : Nat) : Text.ofNat number = digitsText (digitsOf number) := by
  rw [Text.ofNat, Text.ofString, Nat.toList_repr, digitsText, digitsOf, List.map_map]
  apply List.map_congr_left
  intro char within
  have bounds := bounds_of_mem_toDigits within
  have small : char.toNat - 0x30 < 10 := by omega
  apply CodePoint.eq_of_value_eq
  rw [Function.comp_apply, value_ofDigit small]
  show char.toNat = 0x30 + (char.toNat - 0x30)
  omega

theorem isDigit_of_mem_ofNat
    {number : Nat}
    {point : CodePoint}
    (member : point ∈ Text.ofNat number) :
    point.isDigit = true := by
  rw [ofNat_eq_digitsText] at member
  exact isDigit_of_mem_digitsText (below_digitsOf number) point member

/-- Different numbers are written differently. -/
theorem ofNat_injective : Function.Injective Text.ofNat := by
  intro number other same
  rw [ofNat_eq_digitsText, ofNat_eq_digitsText] at same
  have spelled := congrArg ofDigitText same
  rwa [ofDigitText_digitsText (below_digitsOf number),
    ofDigitText_digitsText (below_digitsOf other), ofDigits_digitsOf, ofDigits_digitsOf]
    at spelled

/-! ## Whole parts -/

/-- The digits of a whole number: one zero, or digits that start with another one. -/
structure Whole (digits : List Nat) : Prop where
  below : Below digits
  leads : digits = [0] ∨ ∃ first rest, digits = first :: rest ∧ 0 < first

theorem Whole.ne_nil {digits : List Nat} (whole : Whole digits) : digits ≠ [] := by
  rcases whole.leads with rfl | ⟨first, rest, rfl, _⟩ <;> exact List.cons_ne_nil _ _

theorem whole_zero : Whole [0] where
  below := below_replicate 1
  leads := Or.inl rfl

theorem whole_digitsOf (number : Nat) : Whole (digitsOf number) where
  below := below_digitsOf number
  leads := by
    rcases Nat.eq_zero_or_pos number with rfl | positive
    · exact Or.inl rfl
    · exact Or.inr (digitsOf_leads number positive)

/-! ## Numerals -/

/-- A numeral starts with no zero, unless it is zero. -/
structure Numeral.Proper (numeral : Numeral) : Prop where
  below : Below numeral.digits
  leads :
    numeral = ⟨[0], 0⟩ ∨ ∃ first rest, numeral.digits = first :: rest ∧ 0 < first

namespace Numeral

theorem proper_zero : Proper ⟨[0], 0⟩ where
  below := below_replicate 1
  leads := Or.inl rfl

theorem Proper.ne_nil {numeral : Numeral} (proper : numeral.Proper) : numeral.digits ≠ [] := by
  rcases proper.leads with rfl | ⟨first, rest, digits, _⟩
  · exact List.cons_ne_nil 0 []
  · rw [digits]
    exact List.cons_ne_nil first rest

theorem proper_ofScaled (coefficient : Nat) (power : Int) :
    (ofScaled coefficient power).Proper := by
  have front : (digitsOf coefficient).rdropWhile (· == 0) <+: digitsOf coefficient :=
    List.rdropWhile_prefix _ _
  unfold ofScaled
  simp only
  split
  · exact proper_zero
  · next significant =>
      change ¬((digitsOf coefficient).rdropWhile (· == 0)).isEmpty = true at significant
      rw [List.isEmpty_iff] at significant
      -- Only zeros at the end are dropped, so the first digit is that of the coefficient.
      rcases List.exists_cons_of_ne_nil significant with ⟨first, rest, digits⟩
      rw [digits] at front
      have positive : 0 < coefficient := by
        rw [Nat.pos_iff_ne_zero]
        rintro rfl
        exact significant rfl
      rcases digitsOf_leads coefficient positive with ⟨leading, others, all, nonzero⟩
      have same : first = leading := by
        rw [all] at front
        exact (List.cons_prefix_cons.mp front).1
      constructor
      · intro digit member
        apply lt_ten_of_mem_digitsOf
        exact (List.rdropWhile_prefix _ _).subset member
      · exact Or.inr ⟨first, rest, digits, same ▸ nonzero⟩

end Numeral

theorem Interval.proper_shortest
    (interval : Interval)
    (quotient : Quotient)
    (most : Nat) :
    (interval.shortest quotient most).Proper := by
  unfold shortest
  simp only
  cases found : (List.range most).findSome? _ with
  | none => exact Numeral.proper_ofScaled _ _
  | some numeral =>
      rcases List.exists_of_findSome?_eq_some found with ⟨count, _, scaled⟩
      rcases Option.map_eq_some_iff.mp scaled with ⟨coefficient, _, rfl⟩
      exact Numeral.proper_ofScaled _ _

/-- A finite double has a proper numeral for its fewest digits. -/
theorem shortestForm_of_isFinite
    {double : Float}
    (finite : double.isFinite = true) :
    ∃ negative numeral, shortestForm double = .numeral negative numeral ∧ numeral.Proper := by
  change double.toModel.unpack.isFinite = true at finite
  simp only [shortestForm, doubleForm]
  cases unpacked : double.toModel.unpack with
  | notANumber =>
      rw [unpacked] at finite
      cases finite
  | infinity sign =>
      rw [unpacked] at finite
      cases finite
  | zero sign => cases sign <;> exact ⟨_, _, rfl, Numeral.proper_zero⟩
  | finite sign mantissa exponent _ =>
      cases sign <;> exact ⟨_, _, rfl, Interval.proper_shortest _ _ 17⟩

/-- Infinity and what is no number have no digits. -/
theorem shortestForm_of_not_isFinite
    {double : Float}
    (infinite : double.isFinite = false) :
    ∃ text, shortestForm double = .word text := by
  change double.toModel.unpack.isFinite = false at infinite
  simp only [shortestForm, doubleForm]
  cases unpacked : double.toModel.unpack with
  | notANumber => exact ⟨_, rfl⟩
  | infinity sign => cases sign <;> exact ⟨_, rfl⟩
  | zero sign =>
      rw [unpacked] at infinite
      cases infinite
  | finite sign mantissa exponent _ =>
      rw [unpacked] at infinite
      cases infinite

/-! ## Literals -/

/-- The sign in front of a number. -/
def signText (negative : Bool) : Text :=
  if negative then "-" else ""

/-- A number with a whole part, the digits of a fraction, and the sign and digits of an exponent. -/
structure Literal where
  whole : List Nat
  fraction : List Nat
  exponent : Option (Bool × List Nat)

namespace Literal

/-- The text of a fraction, unless it has no digits. -/
def fractionText (fraction : List Nat) : Text :=
  if fraction.isEmpty then [] else "." ++ digitsText fraction

/-- The text of an exponent. -/
def exponentText : Option (Bool × List Nat) → Text
  | none => []
  | some (negative, digits) =>
    let mark : Text := if negative then "e-" else "e+"
    mark ++ digitsText digits

/-- The text of a literal. -/
def text (literal : Literal) : Text :=
  digitsText literal.whole ++ fractionText literal.fraction ++ exponentText literal.exponent

/-- The power of ten that an exponent stands for. -/
def power : Option (Bool × List Nat) → Int
  | none => 0
  | some (negative, digits) => if negative then -(ofDigits digits : Int) else ofDigits digits

/-- The double nearest to what a literal stands for. -/
def double (literal : Literal) (negative : Bool) : Float :=
  toDouble negative (ofDigits (literal.whole ++ literal.fraction))
    (power literal.exponent - literal.fraction.length)

/-- A literal of a double: it has a fraction or an exponent. -/
structure Proper (literal : Literal) : Prop where
  whole : Whole literal.whole
  fraction : Below literal.fraction
  exponent : ∀ mark ∈ literal.exponent, mark.2 ≠ [] ∧ Below mark.2
  isDouble : literal.fraction ≠ [] ∨ literal.exponent ≠ none

end Literal

namespace Numeral

/-- The literal of a numeral without an exponent; it has a fraction in any case. -/
def positional (numeral : Numeral) : Literal :=
  match numeral.scale with
  | .ofNat whole =>
    let digits := numeral.digits.take (whole + 1)
    let fraction := numeral.digits.drop (whole + 1)
    { whole := digits ++ List.replicate (whole + 1 - digits.length) 0
      fraction := if fraction.isEmpty then [0] else fraction
      exponent := none }
  | .negSucc leading =>
    { whole := [0]
      fraction := List.replicate leading 0 ++ numeral.digits
      exponent := none }

/-- The literal of a numeral with an exponent of at least `width` digits. -/
def exponential (numeral : Numeral) (width : Nat) : Literal :=
  let digits := digitsOf numeral.scale.natAbs
  { whole := numeral.digits.take 1
    fraction := numeral.digits.drop 1
    exponent :=
      some (numeral.scale < 0, List.replicate (width - digits.length) 0 ++ digits) }

variable {numeral : Numeral}

/-- The digits in front of the point start with no zero, unless the numeral is zero. -/
theorem whole_positional
    {digits : List Nat}
    {whole : Nat}
    (proper : Proper ⟨digits, .ofNat whole⟩) :
    Whole
      (digits.take (whole + 1) ++
        List.replicate (whole + 1 - (digits.take (whole + 1)).length) 0) where
  below := (proper.below.take (whole + 1)).append (below_replicate _)
  leads := by
    rcases proper.leads with zero | ⟨first, rest, leading, nonzero⟩
    · rw [Numeral.mk.injEq, Int.ofNat_eq_natCast, Int.natCast_eq_zero] at zero
      rcases zero with ⟨rfl, rfl⟩
      exact Or.inl rfl
    · change digits = first :: rest at leading
      rw [leading]
      exact Or.inr ⟨first, _, rfl, nonzero⟩

theorem proper_positional (proper : numeral.Proper) : numeral.positional.Proper := by
  rcases numeral with ⟨digits, scale⟩
  cases scale with
  | ofNat whole =>
      constructor
      · exact whole_positional proper
      · simp only [positional]
        split
        · exact below_replicate 1
        · exact proper.below.drop (whole + 1)
      · intro mark absent
        cases absent
      · left
        simp only [positional]
        split
        · exact List.cons_ne_nil 0 []
        · next nonempty => exact fun empty => nonempty (List.isEmpty_iff.mpr empty)
  | negSucc leading =>
      constructor
      · exact whole_zero
      · exact (below_replicate leading).append proper.below
      · intro mark absent
        cases absent
      · exact Or.inl (List.append_ne_nil_of_right_ne_nil _ proper.ne_nil)

theorem proper_exponential
    (proper : numeral.Proper)
    (width : Nat) :
    (numeral.exponential width).Proper where
  whole := by
    refine ⟨proper.below.take 1, ?_⟩
    rcases proper.leads with rfl | ⟨first, rest, leading, nonzero⟩
    · exact Or.inl rfl
    · right
      rw [exponential, leading]
      exact ⟨first, [], rfl, nonzero⟩
  fraction := proper.below.drop 1
  exponent := by
    rintro mark present
    rw [← Option.some.inj present]
    exact
      ⟨List.append_ne_nil_of_right_ne_nil _ (whole_digitsOf _).ne_nil,
        (below_replicate _).append (below_digitsOf _)⟩
  isDouble := Or.inr (Option.some_ne_none _)

end Numeral

namespace Layout

/-- The literal that a layout writes for a numeral if it shows fractions. -/
def literal (layout : Layout) (numeral : Numeral) : Literal :=
  if layout.leastPositional ≤ numeral.scale && numeral.scale < layout.leastExponential then
    numeral.positional
  else numeral.exponential layout.exponentWidth

variable {layout : Layout} {numeral : Numeral}

theorem positional_eq_text
    (shows : layout.showsFraction = true)
    (proper : numeral.Proper) :
    layout.positional numeral = numeral.positional.text := by
  rcases numeral with ⟨digits, scale⟩
  cases scale with
  | ofNat whole =>
      simp only [Layout.positional, Numeral.positional, Literal.text, Literal.exponentText, shows,
        digitsText_append, digitsText_replicate, List.append_nil, if_true]
      cases digits.drop (whole + 1) with
      | nil => rfl
      | cons first rest => exact List.append_assoc _ _ _
  | negSucc leading =>
      have nonempty : (List.replicate leading 0 ++ digits).isEmpty = false := by
        rw [List.isEmpty_eq_false_iff]
        exact List.append_ne_nil_of_right_ne_nil _ proper.ne_nil
      simp only [Layout.positional, Numeral.positional, Literal.text, Literal.exponentText,
        Literal.fractionText, nonempty, digitsText_append, digitsText_replicate, List.append_nil,
        Bool.false_eq_true, if_false]
      rfl

theorem exponential_eq_text (layout : Layout) (numeral : Numeral) :
    layout.exponential numeral = (numeral.exponential layout.exponentWidth).text := by
  simp only [Layout.exponential, Numeral.exponential, Literal.text, Literal.exponentText,
    Literal.fractionText, ofNat_eq_digitsText, length_digitsText, digitsText_append,
    digitsText_replicate]
  have short : numeral.digits.length ≤ 1 ↔ (numeral.digits.drop 1).isEmpty = true := by
    rw [List.isEmpty_iff, List.drop_eq_nil_iff]
  by_cases negative : numeral.scale < 0 <;> simp [negative, short]

/-- A layout that shows fractions writes a numeral as a literal. -/
theorem render_eq_text
    (shows : layout.showsFraction = true)
    (proper : numeral.Proper) :
    layout.render numeral = (layout.literal numeral).text := by
  unfold render literal
  split
  · exact positional_eq_text shows proper
  · exact exponential_eq_text layout numeral

theorem proper_literal
    (layout : Layout)
    (proper : numeral.Proper) :
    (layout.literal numeral).Proper := by
  unfold literal
  split
  · exact Numeral.proper_positional proper
  · exact Numeral.proper_exponential proper layout.exponentWidth

end Layout

end Decimal

end OpenApiGate
