import Mathlib

/-!
# Doubles as numbers

A finite double is a mantissa times a power of two.  The mantissa has 53 binary
digits, or fewer if the exponent is the least one.  Doubles are compared by their
exponents first and by their mantissas next, which is the order of the numbers that
they stand for; the two infinities lie at its ends, and what is no number is outside.
-/

namespace OpenApiGate.Double

open Float.Model (UnpackedFloat Format)
open Float.Model.UnpackedFloat (Sign)

/-! ## Mantissas and exponents -/

/-- The mantissa and the exponent of a finite double that is not zero. -/
structure Canonical (mantissa : Nat) (exponent : Int) : Prop where
  short : mantissa < 2 ^ 53
  full : 2 ^ 52 ≤ mantissa ∨ exponent = -1074
  least : -1074 ≤ exponent
  most : exponent ≤ 971

/-- An unpacked double whose mantissa and exponent are those of a double. -/
def IsCanonical : UnpackedFloat → Prop
  | .finite _ mantissa exponent _ => Canonical mantissa exponent
  | _ => True

theorem toNat_leading (digits : BitVec 52) :
    (1#1 ++ digits).toNat = 2 ^ 52 + digits.toNat := by
  rw [BitVec.toNat_append, ← Nat.shiftLeft_add_eq_or_of_lt digits.isLt]
  rfl

theorem isCanonical_unpack (double : Float) : IsCanonical double.toModel.unpack := by
  unfold Float.Model.unpack UnpackedFloat.unpack
  have mantissaShort :
      (@UnpackedFloat.unpackMantissa .binary64 double.toModel.toBits.toBitVec).toNat < 2 ^ 52 :=
    BitVec.isLt _
  have exponentShort :
      (@UnpackedFloat.unpackExponent .binary64 double.toModel.toBits.toBitVec).toNat < 2 ^ 11 :=
    BitVec.isLt _
  have bias : Format.binary64.exponentBias = 1023 := rfl
  simp only [bias]
  split
  · split <;> trivial
  · next notLast =>
      split
      · next isFirst =>
          split
          · trivial
          · refine ⟨by omega, Or.inr ?_, ?_, ?_⟩ <;> simp [isFirst]
      · next notFirst =>
          have positive := mt BitVec.eq_of_toNat_eq notFirst
          have notMost := mt BitVec.eq_of_toNat_eq notLast
          simp at positive notMost
          refine ⟨?_, Or.inl ?_, ?_, ?_⟩
          · rw [toNat_leading]; omega
          · rw [toNat_leading]; omega
          · omega
          · omega

/-- The leading digit of a full mantissa is not written down. -/
theorem unpack_packComponents_of_full
    {sign : Sign}
    {mantissa biased : Nat}
    (positive : 0 < mantissa)
    (isFull : 2 ^ 52 ≤ mantissa)
    (short : mantissa < 2 ^ 53)
    (biasedPositive : 0 < biased)
    (notLast : biased < 2047) :
    UnpackedFloat.unpack .binary64
        (UnpackedFloat.packComponents .binary64 sign (BitVec.ofNat 11 biased)
          (BitVec.ofNat 52 mantissa)) =
      .finite sign mantissa (biased - 1075) positive := by
  have kept : (BitVec.ofNat 11 biased).toNat = biased := by
    rw [BitVec.toNat_ofNat, Nat.mod_eq_of_lt (by omega)]
  have isLast : BitVec.ofNat 11 biased ≠ -1#11 :=
    ne_of_apply_ne BitVec.toNat (kept.trans_ne notLast.ne)
  have isFirst : BitVec.ofNat 11 biased ≠ 0#11 :=
    ne_of_apply_ne BitVec.toNat (kept.trans_ne biasedPositive.ne')
  have digits : (1#1 ++ BitVec.ofNat 52 mantissa).toNat = mantissa := by
    rw [toNat_leading, BitVec.toNat_ofNat]
    omega
  simp only [UnpackedFloat.unpack, UnpackedFloat.unpackMantissa_packComponents,
    UnpackedFloat.unpackExponent_packComponents, UnpackedFloat.unpackSign_packComponents,
    Sign.ofBitVec_toBitVec, if_neg isLast, if_neg isFirst, kept, digits]
  rfl

/-- A mantissa that is not full is written as it is. -/
theorem unpack_packComponents_of_not_full
    {sign : Sign}
    {mantissa : Nat}
    (positive : 0 < mantissa)
    (notFull : mantissa < 2 ^ 52) :
    UnpackedFloat.unpack .binary64
        (UnpackedFloat.packComponents .binary64 sign 0#11 (BitVec.ofNat 52 mantissa)) =
      .finite sign mantissa (-1074) positive := by
  have kept : (BitVec.ofNat 52 mantissa).toNat = mantissa := by
    rw [BitVec.toNat_ofNat, Nat.mod_eq_of_lt notFull]
  have isZero : BitVec.ofNat 52 mantissa ≠ 0#52 :=
    ne_of_apply_ne BitVec.toNat (kept.trans_ne positive.ne')
  have isLast : (0#11 : BitVec 11) ≠ -1#11 := by decide
  simp only [UnpackedFloat.unpack, UnpackedFloat.unpackMantissa_packComponents,
    UnpackedFloat.unpackExponent_packComponents, UnpackedFloat.unpackSign_packComponents,
    Sign.ofBitVec_toBitVec, if_neg isLast, if_true, dif_neg isZero, kept]
  rfl

/-- A mantissa and an exponent are kept as they are. -/
theorem unpack_pack
    {sign : Sign}
    {mantissa : Nat}
    {exponent : Int}
    (positive : 0 < mantissa)
    (canonical : Canonical mantissa exponent) :
    (Float.Model.pack (.finite sign mantissa exponent positive)).unpack =
      .finite sign mantissa exponent positive := by
  have bias : Format.binary64.exponentBias = 1023 := rfl
  rcases canonical with ⟨short, full, least, most⟩
  have inRange : ¬ 2 ^ 11 ≤ (exponent + (1023 : Nat) + (52 : Nat)).toNat + 1 := by omega
  show UnpackedFloat.unpack .binary64
    (UnpackedFloat.pack .binary64 (.finite sign mantissa exponent positive)) = _
  simp only [UnpackedFloat.pack, bias, if_neg inRange]
  by_cases isFull : 2 ^ 52 ≤ mantissa
  · have digits : mantissa.log2 + 1 = Format.binary64.mantissaBits := by
      rw [(Nat.log2_eq_iff positive.ne').mpr ⟨isFull, short⟩]
      rfl
    rw [if_pos digits, unpack_packComponents_of_full positive isFull short (by omega) (by omega)]
    congr 1
    omega
  · have notFull := Nat.lt_of_not_le isFull
    have digits : mantissa.log2 + 1 ≠ Format.binary64.mantissaBits := by
      have fewer := (Nat.log2_lt positive.ne').mpr notFull
      show mantissa.log2 + 1 ≠ 53
      omega
    rw [if_neg digits, unpack_packComponents_of_not_full positive notFull,
      full.resolve_left isFull]

/-! ## The numbers that doubles stand for -/

/-- The number that a finite double stands for. -/
def value? (double : Float) : Option ℚ :=
  match double.toModel.unpack with
  | .zero _ => some 0
  | .finite .negative mantissa exponent _ => some (-(mantissa * 2 ^ exponent))
  | .finite .positive mantissa exponent _ => some (mantissa * 2 ^ exponent)
  | _ => none

/-- Places among all numbers, below them and above them. -/
abbrev Place :=
  WithBot (WithTop ℚ)

/-- The place of a number. -/
def placeOf (number : ℚ) : Place :=
  ((number : WithTop ℚ) : WithBot (WithTop ℚ))

theorem placeOf_lt_placeOf {number other : ℚ} :
    placeOf number < placeOf other ↔ number < other :=
  WithBot.coe_lt_coe.trans WithTop.coe_lt_coe

theorem placeOf_le_placeOf {number other : ℚ} :
    placeOf number ≤ placeOf other ↔ number ≤ other :=
  WithBot.coe_le_coe.trans WithTop.coe_le_coe

/-- Where a double lies; what is no number lies nowhere. -/
def place? (double : Float) : Option Place :=
  match double.toModel.unpack with
  | .infinity .negative => some ⊥
  | .infinity .positive => some ⊤
  | _ => (value? double).map placeOf

/-- The forms of finite doubles and the numbers that they stand for. -/
inductive Form : UnpackedFloat → ℚ → Prop where
  | zero (sign : Sign) : Form (.zero sign) 0
  | negative
      {mantissa : Nat}
      {exponent : Int}
      (positive : 0 < mantissa)
      (canonical : Canonical mantissa exponent) :
      Form (.finite .negative mantissa exponent positive) (-(mantissa * 2 ^ exponent))
  | positive
      {mantissa : Nat}
      {exponent : Int}
      (positive : 0 < mantissa)
      (canonical : Canonical mantissa exponent) :
      Form (.finite .positive mantissa exponent positive) (mantissa * 2 ^ exponent)

/-- The forms of all doubles and where they lie. -/
inductive Lies : UnpackedFloat → Option Place → Prop where
  | nowhere : Lies .notANumber none
  | below : Lies (.infinity .negative) (some ⊥)
  | above : Lies (.infinity .positive) (some ⊤)
  | among
      {unpacked : UnpackedFloat}
      {number : ℚ}
      (form : Form unpacked number) :
      Lies unpacked (some (placeOf number))

theorem form_of_value?
    {double : Float}
    {number : ℚ}
    (value : value? double = some number) :
    Form double.toModel.unpack number := by
  have canonical := isCanonical_unpack double
  unfold value? at value
  cases unpacked : double.toModel.unpack with
  | notANumber => rw [unpacked] at value; cases value
  | infinity sign => rw [unpacked] at value; cases value
  | zero sign =>
      rw [unpacked] at value
      cases value
      exact .zero sign
  | finite sign mantissa exponent positive =>
      rw [unpacked] at value canonical
      cases sign with
      | negative => cases value; exact .negative positive canonical
      | positive => cases value; exact .positive positive canonical

theorem value?_of_form
    {double : Float}
    {number : ℚ}
    (form : Form double.toModel.unpack number) :
    value? double = some number := by
  unfold value?
  generalize double.toModel.unpack = unpacked at form
  cases form <;> rfl

theorem isFinite_of_value?
    {double : Float}
    {number : ℚ}
    (value : value? double = some number) :
    double.isFinite = true := by
  have form := form_of_value? value
  show double.toModel.unpack.isFinite = true
  generalize double.toModel.unpack = unpacked at form
  cases form <;> rfl

theorem place?_of_value?
    {double : Float}
    {number : ℚ}
    (value : value? double = some number) :
    place? double = some (placeOf number) := by
  have form := form_of_value? value
  unfold place?
  rw [value]
  generalize double.toModel.unpack = unpacked at form
  cases form <;> rfl

theorem lies (double : Float) : Lies double.toModel.unpack (place? double) := by
  cases value : value? double with
  | some number =>
      rw [place?_of_value? value]
      exact .among (form_of_value? value)
  | none =>
      unfold place?
      rw [value]
      unfold value? at value
      cases unpacked : double.toModel.unpack with
      | notANumber => exact .nowhere
      | infinity sign =>
          cases sign with
          | negative => exact .below
          | positive => exact .above
      | zero sign => rw [unpacked] at value; cases value
      | finite sign mantissa exponent positive =>
          rw [unpacked] at value
          cases sign <;> cases value

/-! ## The order of doubles -/

/-- A mantissa with a lesser exponent stands for a lesser number. -/
theorem Canonical.lt_of_exponent_lt
    {mantissa other : Nat}
    {exponent otherExponent : Int}
    (canonical : Canonical mantissa exponent)
    (otherCanonical : Canonical other otherExponent)
    (less : exponent < otherExponent) :
    (mantissa * 2 ^ exponent : ℚ) < other * 2 ^ otherExponent := by
  have isFull : 2 ^ 52 ≤ other :=
    otherCanonical.full.resolve_right (by have := canonical.least; omega)
  have short : (mantissa : ℚ) < 2 ^ (53 : ℤ) := by exact_mod_cast canonical.short
  have isFull : (2 ^ (52 : ℤ) : ℚ) ≤ other := by exact_mod_cast isFull
  calc
    (mantissa * 2 ^ exponent : ℚ)
      < 2 ^ (53 : ℤ) * 2 ^ exponent := by gcongr
    _ = 2 ^ (53 + exponent) := (zpow_add₀ two_ne_zero _ _).symm
    _ ≤ 2 ^ (52 + otherExponent) := zpow_le_zpow_right₀ one_le_two (by omega)
    _ = 2 ^ (52 : ℤ) * 2 ^ otherExponent := zpow_add₀ two_ne_zero _ _
    _ ≤ other * 2 ^ otherExponent := by gcongr

/-- Exponents first and mantissas next: this is the order of the numbers. -/
theorem Canonical.compare_eq
    {mantissa other : Nat}
    {exponent otherExponent : Int}
    (canonical : Canonical mantissa exponent)
    (otherCanonical : Canonical other otherExponent) :
    (compare exponent otherExponent).then (compare mantissa other) =
      compare (mantissa * 2 ^ exponent : ℚ) (other * 2 ^ otherExponent) := by
  rcases lt_trichotomy exponent otherExponent with less | rfl | more
  · rw [compare_lt_iff_lt.mpr less,
      compare_lt_iff_lt.mpr (canonical.lt_of_exponent_lt otherCanonical less)]
    rfl
  · rw [compare_eq_iff_eq.mpr rfl]
    have unit : (0 : ℚ) < 2 ^ exponent := by positivity
    show compare mantissa other = _
    rcases lt_trichotomy mantissa other with less | rfl | more
    · rw [compare_lt_iff_lt.mpr less]
      exact (compare_lt_iff_lt.mpr (by gcongr)).symm
    · rw [compare_eq_iff_eq.mpr rfl, compare_eq_iff_eq.mpr rfl]
    · rw [compare_gt_iff_gt.mpr more]
      exact (compare_gt_iff_gt.mpr (by gcongr)).symm
  · rw [compare_gt_iff_gt.mpr more,
      compare_gt_iff_gt.mpr (otherCanonical.lt_of_exponent_lt canonical more)]
    rfl

theorem compare_swap_neg (number other : ℚ) :
    compare (-number) (-other) = (compare number other).swap := by
  rcases lt_trichotomy number other with less | rfl | more
  · rw [compare_lt_iff_lt.mpr less, compare_gt_iff_gt.mpr (neg_lt_neg less)]
    rfl
  · rw [compare_eq_iff_eq.mpr rfl, compare_eq_iff_eq.mpr rfl]
    rfl
  · rw [compare_gt_iff_gt.mpr more, compare_lt_iff_lt.mpr (neg_lt_neg more)]
    rfl

/-- Finite doubles are compared as the numbers that they stand for. -/
theorem Form.compare_eq
    {first second : UnpackedFloat}
    {number other : ℚ}
    (form : Form first number)
    (otherForm : Form second other) :
    first.compare second = some (compare number other) := by
  have size {mantissa : Nat} (positive : 0 < mantissa) (exponent : Int) :
      (0 : ℚ) < mantissa * 2 ^ exponent := by positivity
  have less {number other : ℚ} (isLess : number < other) :
      some Ordering.lt = some (compare number other) :=
    congrArg some (compare_lt_iff_lt.mpr isLess).symm
  have more {number other : ℚ} (isMore : other < number) :
      some Ordering.gt = some (compare number other) :=
    congrArg some (compare_gt_iff_gt.mpr isMore).symm
  cases form with
  | zero sign =>
      cases otherForm with
      | zero otherSign => exact congrArg some (compare_eq_iff_eq.mpr rfl).symm
      | negative positive canonical => exact more (neg_lt_zero.mpr (size positive _))
      | positive positive canonical => exact less (size positive _)
  | @negative mantissa exponent positive canonical =>
      have isNegative := neg_lt_zero.mpr (size positive exponent)
      cases otherForm with
      | zero otherSign => exact less isNegative
      | negative otherPositive otherCanonical =>
          -- The comparison is turned round, and so are the numbers.
          show some (Ordering.swap _) = _
          rw [canonical.compare_eq otherCanonical, ← compare_swap_neg]
      | positive otherPositive otherCanonical =>
          exact less (isNegative.trans (size otherPositive _))
  | @positive mantissa exponent positive canonical =>
      have isPositive := size positive exponent
      cases otherForm with
      | zero otherSign => exact more isPositive
      | negative otherPositive otherCanonical =>
          exact more ((neg_lt_zero.mpr (size otherPositive _)).trans isPositive)
      | positive otherPositive otherCanonical =>
          exact congrArg some (canonical.compare_eq otherCanonical)

theorem compare_placeOf (number other : ℚ) :
    compare (placeOf number) (placeOf other) = compare number other := by
  rcases lt_trichotomy number other with less | rfl | more
  · rw [compare_lt_iff_lt.mpr less, compare_lt_iff_lt.mpr (placeOf_lt_placeOf.mpr less)]
  · rw [compare_eq_iff_eq.mpr rfl, compare_eq_iff_eq.mpr rfl]
  · rw [compare_gt_iff_gt.mpr more, compare_gt_iff_gt.mpr (placeOf_lt_placeOf.mpr more)]

/-- Doubles are compared by where they lie. -/
theorem compare_eq (first second : Float) :
    first.toModel.unpack.compare second.toModel.unpack =
      (place? first).bind fun place => (place? second).map fun other => compare place other := by
  have isLess {place other : Place} (less : place < other) :
      some Ordering.lt = some (compare place other) :=
    congrArg some (compare_lt_iff_lt.mpr less).symm
  have isMore {place other : Place} (more : other < place) :
      some Ordering.gt = some (compare place other) :=
    congrArg some (compare_gt_iff_gt.mpr more).symm
  have isEqual (place : Place) :
      some Ordering.eq = some (compare place place) :=
    congrArg some (compare_eq_iff_eq.mpr rfl).symm
  have bottomLess (number : ℚ) : ⊥ < placeOf number := WithBot.bot_lt_coe _
  have lessTop (number : ℚ) : placeOf number < ⊤ :=
    WithBot.coe_lt_coe.mpr (WithTop.coe_lt_top number)
  have firstLies := lies first
  have secondLies := lies second
  generalize first.toModel.unpack = first, place? first = place at firstLies ⊢
  generalize second.toModel.unpack = second, place? second = other at secondLies ⊢
  cases firstLies with
  | nowhere => rfl
  | below =>
      cases secondLies with
      | nowhere => rfl
      | below => exact isEqual ⊥
      | above => exact isLess bot_lt_top
      | among form => cases form <;> exact isLess (bottomLess _)
  | above =>
      cases secondLies with
      | nowhere => rfl
      | below => exact isMore bot_lt_top
      | above => exact isEqual ⊤
      | among form => cases form <;> exact isMore (lessTop _)
  | among form =>
      cases secondLies with
      | nowhere => cases form <;> rfl
      | below => cases form <;> exact isMore (bottomLess _)
      | above => cases form <;> exact isLess (lessTop _)
      | among otherForm =>
          rw [form.compare_eq otherForm]
          exact congrArg some (compare_placeOf _ _).symm

theorem lt_iff_compare {first second : Float} :
    first < second ↔ first.toModel.unpack.compare second.toModel.unpack = some .lt :=
  decide_eq_true_iff.trans beq_iff_eq

theorem lt_iff {first second : Float} :
    first < second ↔
      ∃ place, place? first = some place ∧ ∃ other, place? second = some other ∧ place < other := by
  rw [lt_iff_compare, compare_eq]
  simp [Option.bind_eq_some_iff, compare_lt_iff_lt]

theorem le_iff {first second : Float} :
    first ≤ second ↔
      ∃ place, place? first = some place ∧ ∃ other, place? second = some other ∧ place ≤ other := by
  have unpacked :
      first ≤ second ↔
        (first.toModel.unpack.compare second.toModel.unpack).any Ordering.isLE = true :=
    decide_eq_true_iff
  rw [unpacked, compare_eq]
  simp [Option.any_eq_true, Option.bind_eq_some_iff, Ordering.isLE_iff_ne_gt, compare_le_iff_le]

theorem not_lt_of_beq
    {first second : Float}
    (equal : (first == second) = true) :
    ¬ first < second := by
  intro less
  have compared : first.toModel.unpack.compare second.toModel.unpack = some .eq :=
    beq_iff_eq.mp equal
  cases compared.symm.trans (lt_iff_compare.mp less)

theorem lt_of_le_of_lt
    {first second third : Float}
    (notMore : first ≤ second)
    (less : second < third) :
    first < third := by
  obtain ⟨place, placed, middle, middlePlaced, notMore⟩ := le_iff.mp notMore
  obtain ⟨place', placed', other, otherPlaced, less⟩ := lt_iff.mp less
  have same : middle = place' := Option.some.inj (middlePlaced.symm.trans placed')
  exact lt_iff.mpr ⟨place, placed, other, otherPlaced, notMore.trans_lt (same ▸ less)⟩

theorem lt_of_lt_of_le
    {first second third : Float}
    (less : first < second)
    (notMore : second ≤ third) :
    first < third := by
  obtain ⟨place, placed, middle, middlePlaced, less⟩ := lt_iff.mp less
  obtain ⟨place', placed', other, otherPlaced, notMore⟩ := le_iff.mp notMore
  have same : middle = place' := Option.some.inj (middlePlaced.symm.trans placed')
  exact lt_iff.mpr ⟨place, placed, other, otherPlaced, less.trans_le (same ▸ notMore)⟩

/-- No double is more or less than what is no number. -/
theorem not_lt_of_isNaN
    {double : Float}
    (isNaN : double.isNaN = true)
    (other : Float) :
    ¬ double < other := by
  intro less
  obtain ⟨place, placed, -⟩ := lt_iff.mp less
  change double.toModel.unpack.isNaN = true at isNaN
  have lies := lies double
  rw [placed] at lies
  generalize double.toModel.unpack = unpacked at isNaN lies
  cases lies with
  | below => cases isNaN
  | above => cases isNaN
  | among form => cases form <;> cases isNaN

end OpenApiGate.Double
