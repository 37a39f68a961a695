import OpenApiGate.Proofs.Doubles

/-!
# Rounding to the nearest double

The product, the sum and the quotient of two doubles are computed in full and then
cut down to 53 digits.  Two marks keep what the digits that are cut off amount to:
whether it is a half or more, and whether it is anything besides nothing or a half.
They decide between the double below and the one above, so that the result is the
double nearest to the exact number, and the even one of two that are as near.
-/

namespace OpenApiGate.Double

open Float.Model (UnpackedFloat Format totalExponent)
open Float.Model.UnpackedFloat
  (Accuracy ExtendedMantissa accuracyOfFraction roundWithAccuracy shiftToTargetExponent)

/-! ## The nearest double -/

/-- The mantissa is even, if there is one. -/
def HasEvenMantissa : UnpackedFloat → Prop
  | .finite _ mantissa _ _ => mantissa % 2 = 0
  | _ => True

/-- A finite double than which no other is nearer to a number; of two as near, the even one. -/
def IsNearest (number : ℚ) (double : Float) : Prop :=
  ∃ value, value? double = some value ∧
    ∀ other otherValue, value? other = some otherValue →
      |number - value| ≤ |number - otherValue| ∧
        (|number - otherValue| = |number - value| →
          otherValue = value ∨ HasEvenMantissa double.toModel.unpack)

/-- A number that a double stands for. -/
def IsDouble (number : ℚ) : Prop :=
  ∃ double, value? double = some number

/-- The double nearest to the number of a double stands for that number. -/
theorem IsNearest.value?_eq
    {number : ℚ}
    {double : Float}
    (nearest : IsNearest number double)
    (isDouble : IsDouble number) :
    value? double = some number := by
  rcases nearest with ⟨value, stands, nearest⟩
  rcases isDouble with ⟨other, otherStands⟩
  have noDistance := (nearest other number otherStands).1
  rw [sub_self, abs_zero, abs_nonpos_iff, sub_eq_zero] at noDistance
  rw [stands, noDistance]

theorem IsNearest.of_value?
    {double : Float}
    {number : ℚ}
    (stands : value? double = some number) :
    IsNearest number double := by
  refine ⟨number, stands, fun other otherValue otherStands => ?_⟩
  rw [sub_self, abs_zero]
  exact ⟨abs_nonneg _, fun equal => Or.inl (sub_eq_zero.mp (abs_eq_zero.mp equal)).symm⟩

/-- Rounding keeps the order. -/
theorem IsNearest.value_le_of_lt
    {number larger value otherValue : ℚ}
    {double other : Float}
    (nearest : IsNearest number double)
    (otherNearest : IsNearest larger other)
    (stands : value? double = some value)
    (otherStands : value? other = some otherValue)
    (less : number < larger) :
    value ≤ otherValue := by
  rcases nearest with ⟨_, same, nearest⟩
  cases stands.symm.trans same
  rcases otherNearest with ⟨_, same, otherNearest⟩
  cases otherStands.symm.trans same
  by_contra more
  -- Both numbers would lie on the wrong side of the middle between the two doubles.
  have firstSide := sq_le_sq.mpr (nearest other otherValue otherStands).1
  have secondSide := sq_le_sq.mpr (otherNearest double value stands).1
  have apart : 0 < value - otherValue := sub_pos.mpr (not_le.mp more)
  nlinarith

theorem IsNearest.value_le
    {number bound value : ℚ}
    {double : Float}
    (nearest : IsNearest number double)
    (stands : value? double = some value)
    (isDouble : IsDouble bound)
    (notMore : number ≤ bound) :
    value ≤ bound := by
  rcases notMore.eq_or_lt with rfl | less
  · cases stands.symm.trans (nearest.value?_eq isDouble)
    exact le_rfl
  · rcases isDouble with ⟨other, otherStands⟩
    exact nearest.value_le_of_lt (.of_value? otherStands) stands otherStands less

theorem IsNearest.le_value
    {number bound value : ℚ}
    {double : Float}
    (nearest : IsNearest number double)
    (stands : value? double = some value)
    (isDouble : IsDouble bound)
    (notLess : bound ≤ number) :
    bound ≤ value := by
  rcases notLess.eq_or_lt with rfl | less
  · cases stands.symm.trans (nearest.value?_eq isDouble)
    exact le_rfl
  · rcases isDouble with ⟨other, otherStands⟩
    exact IsNearest.value_le_of_lt (.of_value? otherStands) nearest otherStands stands less

/-! ## What is cut off -/

/-- A mantissa and two marks for what comes after it. -/
structure Represents
    (extended : ExtendedMantissa)
    (number : ℚ) :
    Prop where
  below : extended.mantissa ≤ number
  above : number < extended.mantissa + 1
  roundBit : extended.roundBit = true ↔ extended.mantissa + 1 / 2 ≤ number
  stickyBit :
    extended.stickyBit = true ↔
      number ≠ extended.mantissa ∧ number ≠ extended.mantissa + 1 / 2

theorem represents_exact (mantissa : Nat) :
    Represents (.ofMantissaAndAccuracy mantissa .exact) mantissa where
  below := le_rfl
  above := lt_add_one _
  roundBit := by simp [ExtendedMantissa.ofMantissaAndAccuracy]
  stickyBit := by simp [ExtendedMantissa.ofMantissaAndAccuracy]

/-- The marks for a fraction of the last digit. -/
theorem represents_fraction
    {numerator denominator : Nat}
    (proper : numerator < denominator)
    (mantissa : Nat) :
    Represents (.ofMantissaAndAccuracy mantissa (accuracyOfFraction numerator denominator))
      (mantissa + numerator / denominator) := by
  have positive : (0 : ℚ) < denominator := by exact_mod_cast Nat.zero_lt_of_lt proper
  rcases Nat.eq_zero_or_pos numerator with rfl | notZero
  · rw [Nat.cast_zero, zero_div, add_zero]
    exact represents_exact mantissa
  have isMore : (mantissa : ℚ) < mantissa + numerator / denominator :=
    lt_add_of_pos_right _ (by positivity)
  have above : (mantissa + numerator / denominator : ℚ) < mantissa + 1 := by
    gcongr
    rw [div_lt_one positive]
    exact_mod_cast proper
  rw [accuracyOfFraction, if_neg notZero.ne']
  rcases lt_trichotomy (2 * numerator) denominator with less | half | more
  · rw [compare_lt_iff_lt.mpr less]
    have isLess : (mantissa + numerator / denominator : ℚ) < mantissa + 1 / 2 := by
      gcongr 1
      rw [div_lt_div_iff₀ positive two_pos]
      exact_mod_cast (by omega : numerator * 2 < 1 * denominator)
    exact
      ⟨isMore.le, above, iff_of_false nofun isLess.not_ge,
        iff_of_true rfl ⟨isMore.ne', isLess.ne⟩⟩
  · rw [compare_eq_iff_eq.mpr half]
    have isHalf : (mantissa + numerator / denominator : ℚ) = mantissa + 1 / 2 := by
      congr 1
      rw [div_eq_div_iff positive.ne' two_ne_zero]
      exact_mod_cast (by omega : numerator * 2 = 1 * denominator)
    exact ⟨isMore.le, above, iff_of_true rfl isHalf.ge, iff_of_false nofun fun no => no.2 isHalf⟩
  · rw [compare_gt_iff_gt.mpr more]
    have isMoreThanHalf : (mantissa + 1 / 2 : ℚ) < mantissa + numerator / denominator := by
      gcongr 1
      rw [div_lt_div_iff₀ two_pos positive]
      exact_mod_cast (by omega : 1 * denominator < numerator * 2)
    exact
      ⟨isMore.le, above, iff_of_true rfl isMoreThanHalf.le,
        iff_of_true rfl ⟨isMore.ne', isMoreThanHalf.ne'⟩⟩

/-- One of the marks is set if anything comes after the mantissa. -/
theorem Represents.marked_iff
    {extended : ExtendedMantissa}
    {number : ℚ}
    (represents : Represents extended number) :
    (extended.roundBit || extended.stickyBit) = true ↔ number ≠ extended.mantissa := by
  rw [Bool.or_eq_true, represents.roundBit, represents.stickyBit]
  constructor
  · rintro (isHalf | ⟨isMore, -⟩) equal
    · linarith
    · exact isMore equal
  · intro isMore
    by_cases isHalf : number = extended.mantissa + 1 / 2
    · exact Or.inl isHalf.ge
    · exact Or.inr ⟨isMore, isHalf⟩

/-- The last digit becomes the first mark, and both marks become the second. -/
theorem Represents.shiftRightOne
    {extended : ExtendedMantissa}
    {number : ℚ}
    (represents : Represents extended number) :
    Represents extended.shiftRightOne (number / 2) := by
  have marked := represents.marked_iff
  have below := represents.below
  have above := represents.above
  have parts :
      (extended.mantissa : ℚ) =
        2 * (extended.mantissa / 2 : ℕ) + (extended.mantissa % 2 : ℕ) := by
    exact_mod_cast (Nat.div_add_mod extended.mantissa 2).symm
  have last := Nat.mod_two_eq_zero_or_one extended.mantissa
  constructor
  · show ((extended.mantissa / 2 : ℕ) : ℚ) ≤ number / 2
    rcases last with even | odd
    · rw [even, Nat.cast_zero] at parts
      linarith
    · rw [odd, Nat.cast_one] at parts
      linarith
  · show number / 2 < ((extended.mantissa / 2 : ℕ) : ℚ) + 1
    rcases last with even | odd
    · rw [even, Nat.cast_zero] at parts
      linarith
    · rw [odd, Nat.cast_one] at parts
      linarith
  · show (extended.mantissa % 2 != 0) = true ↔
      ((extended.mantissa / 2 : ℕ) : ℚ) + 1 / 2 ≤ number / 2
    rcases last with even | odd
    · rw [even, Nat.cast_zero] at parts
      rw [even]
      exact iff_of_false nofun (by linarith)
    · rw [odd, Nat.cast_one] at parts
      rw [odd]
      exact iff_of_true rfl (by linarith)
  · show (extended.roundBit || extended.stickyBit) = true ↔
      number / 2 ≠ (extended.mantissa / 2 : ℕ) ∧
        number / 2 ≠ (extended.mantissa / 2 : ℕ) + 1 / 2
    rw [marked]
    rcases last with even | odd
    · rw [even, Nat.cast_zero] at parts
      constructor
      · intro isMore
        exact ⟨fun equal => isMore (by linarith), fun equal => by linarith⟩
      · rintro ⟨isMore, -⟩ equal
        exact isMore (by linarith)
    · rw [odd, Nat.cast_one] at parts
      constructor
      · intro isMore
        exact ⟨fun equal => by linarith, fun equal => isMore (by linarith)⟩
      · rintro ⟨-, isMore⟩ equal
        exact isMore (by linarith)

/-- Any number of digits can be cut off. -/
theorem Represents.shiftRight
    {extended : ExtendedMantissa}
    {number : ℚ}
    (represents : Represents extended number)
    (count : Nat) :
    Represents (extended >>> count) (number / 2 ^ count) := by
  show Represents (count.repeat ExtendedMantissa.shiftRightOne extended) _
  induction count with
  | zero => simpa [Nat.repeat] using represents
  | succ count ih =>
      rw [Nat.repeat, pow_succ, ← div_div]
      exact ih.shiftRightOne

theorem mantissa_ofMantissaAndAccuracy (mantissa : Nat) (accuracy : Accuracy) :
    (ExtendedMantissa.ofMantissaAndAccuracy mantissa accuracy).mantissa = mantissa := by
  rcases accuracy with _ | (_ | _ | _) <;> rfl

theorem mantissa_shiftRight
    (extended : ExtendedMantissa)
    (count : Nat) :
    (extended >>> count).mantissa = extended.mantissa / 2 ^ count := by
  show (count.repeat ExtendedMantissa.shiftRightOne extended).mantissa = _
  induction count with
  | zero => simp [Nat.repeat]
  | succ count ih =>
      rw [Nat.repeat, pow_succ, ← Nat.div_div_eq_div_mul, ← ih]
      rfl

/-- A natural number within a half of a number; it is even if it is a half away. -/
structure RoundsTo
    (number : ℚ)
    (rounded : Nat) :
    Prop where
  near : |number - rounded| ≤ 1 / 2
  even : |number - rounded| = 1 / 2 → rounded % 2 = 0

/-- The marks tell whether to round up. -/
theorem Represents.roundsTo
    {extended : ExtendedMantissa}
    {number : ℚ}
    (represents : Represents extended number) :
    RoundsTo number extended.roundedMantissa ∧
      (extended.roundedMantissa = extended.mantissa ∨
        extended.roundedMantissa = extended.mantissa + 1) := by
  rcases extended with ⟨mantissa, roundBit, stickyBit⟩
  rcases represents with ⟨below, above, roundBit_iff, stickyBit_iff⟩
  dsimp only at below above roundBit_iff stickyBit_iff
  cases roundBit with
  | false =>
      have rounded : (ExtendedMantissa.mk mantissa false stickyBit).roundedMantissa = mantissa := by
        cases stickyBit <;> rfl
      have isLess : number < mantissa + 1 / 2 := not_le.mp (mt roundBit_iff.mpr nofun)
      have distance : |number - mantissa| = number - mantissa := abs_of_nonneg (by linarith)
      rw [rounded]
      refine ⟨⟨?_, fun isHalf => ?_⟩, Or.inl rfl⟩
      · linarith
      · linarith
  | true =>
      have isMore := roundBit_iff.mp rfl
      cases stickyBit with
      | false =>
          have isHalf : number = mantissa + 1 / 2 := by
            by_contra notHalf
            exact absurd (stickyBit_iff.mpr ⟨fun equal => by linarith, notHalf⟩) nofun
          show RoundsTo number (mantissa + mantissa % 2) ∧
            (mantissa + mantissa % 2 = mantissa ∨ mantissa + mantissa % 2 = mantissa + 1)
          rcases Nat.mod_two_eq_zero_or_one mantissa with even | odd
          · rw [even]
            refine ⟨⟨?_, fun _ => even⟩, Or.inl rfl⟩
            rw [isHalf]
            norm_num
          · rw [odd]
            refine ⟨⟨?_, fun _ => by omega⟩, Or.inr rfl⟩
            rw [isHalf]
            norm_num
      | true =>
          have notHalf := (stickyBit_iff.mp rfl).2
          have isMore : mantissa + 1 / 2 < number := lt_of_le_of_ne isMore notHalf.symm
          have distance : |number - (mantissa + 1 : ℕ)| = mantissa + 1 - number := by
            rw [Nat.cast_add_one, abs_of_nonpos (by linarith)]
            ring
          show RoundsTo number (mantissa + 1) ∧ _
          refine ⟨⟨?_, fun isHalf => ?_⟩, Or.inr rfl⟩
          · linarith
          · linarith

/-! ## No double in between -/

/-- No double lies between a mantissa and the next one. -/
theorem Canonical.gap
    {mantissa : Nat}
    {exponent : Int}
    (canonical : Canonical mantissa exponent)
    {other : UnpackedFloat}
    {number : ℚ}
    (form : Form other number) :
    number ≤ mantissa * 2 ^ exponent ∨ (mantissa + 1) * 2 ^ exponent ≤ number := by
  have notNegative : (0 : ℚ) ≤ mantissa * 2 ^ exponent := by positivity
  cases form with
  | zero sign => exact Or.inl notNegative
  | @negative other otherExponent positive otherCanonical =>
      have isNegative : -(other * 2 ^ otherExponent : ℚ) ≤ 0 := by
        rw [neg_nonpos]
        positivity
      exact Or.inl (isNegative.trans notNegative)
  | @positive other otherExponent positive otherCanonical =>
      rcases lt_trichotomy otherExponent exponent with less | rfl | more
      · exact Or.inl (otherCanonical.lt_of_exponent_lt canonical less).le
      · rcases Nat.lt_or_ge mantissa other with more | notMore
        · refine Or.inr ?_
          have more : (mantissa + 1 : ℚ) ≤ other := by exact_mod_cast more
          gcongr
        · refine Or.inl ?_
          gcongr
      · have isFull : 2 ^ 52 ≤ other :=
          otherCanonical.full.resolve_right (by have := canonical.least; omega)
        have isFull : (2 ^ (52 : ℤ) : ℚ) ≤ other := by exact_mod_cast isFull
        have short : (mantissa + 1 : ℚ) ≤ 2 ^ (53 : ℤ) := by exact_mod_cast canonical.short
        refine Or.inr ?_
        calc
          (mantissa + 1 : ℚ) * 2 ^ exponent
            ≤ 2 ^ (53 : ℤ) * 2 ^ exponent := by gcongr
          _ = 2 ^ (53 + exponent) := (zpow_add₀ two_ne_zero _ _).symm
          _ ≤ 2 ^ (52 + otherExponent) := zpow_le_zpow_right₀ one_le_two (by omega)
          _ = 2 ^ (52 : ℤ) * 2 ^ otherExponent := zpow_add₀ two_ne_zero _ _
          _ ≤ other * 2 ^ otherExponent := by gcongr

/-- A rounded number is nearer than any number beyond its two neighbours. -/
theorem RoundsTo.nearest
    {number other : ℚ}
    {rounded low : Nat}
    (roundsTo : RoundsTo number rounded)
    (below : low ≤ number)
    (above : number ≤ low + 1)
    (between : rounded = low ∨ rounded = low + 1)
    (gap : other ≤ low ∨ low + 1 ≤ other) :
    |number - rounded| ≤ |number - other| ∧
      (|number - other| = |number - rounded| → other = rounded ∨ rounded % 2 = 0) := by
  rcases roundsTo with ⟨near, even⟩
  rcases between with rfl | rfl
  · have distance : |number - rounded| = number - rounded := abs_of_nonneg (by linarith)
    rcases gap with beneath | beyond
    · have otherDistance : |number - other| = number - other := abs_of_nonneg (by linarith)
      exact ⟨by linarith, fun equal => Or.inl (by linarith)⟩
    · have otherDistance : |number - other| = -(number - other) := abs_of_nonpos (by linarith)
      exact ⟨by linarith, fun equal => Or.inr (even (by linarith))⟩
  · rw [Nat.cast_add_one] at near even ⊢
    have distance : |number - (low + 1)| = -(number - (low + 1)) := abs_of_nonpos (by linarith)
    rcases gap with beneath | beyond
    · have otherDistance : |number - other| = number - other := abs_of_nonneg (by linarith)
      exact ⟨by linarith, fun equal => Or.inr (even (by linarith))⟩
    · have otherDistance : |number - other| = -(number - other) := abs_of_nonpos (by linarith)
      exact ⟨by linarith, fun equal => Or.inl (by linarith)⟩

/-- The double for a rounded mantissa is the nearest one. -/
theorem isNearest_of_roundsTo
    {number : ℚ}
    {rounded mantissa : Nat}
    {exponent : Int}
    {double : Float}
    (canonical : Canonical mantissa exponent)
    (roundsTo : RoundsTo number rounded)
    (below : mantissa ≤ number)
    (above : number ≤ mantissa + 1)
    (between : rounded = mantissa ∨ rounded = mantissa + 1)
    (stands : value? double = some ((rounded : ℚ) * 2 ^ exponent))
    (even : rounded % 2 = 0 → HasEvenMantissa double.toModel.unpack) :
    IsNearest (number * 2 ^ exponent) double := by
  refine ⟨_, stands, fun other otherValue otherStands => ?_⟩
  have unit : (0 : ℚ) < 2 ^ exponent := by positivity
  obtain ⟨scaled, rfl⟩ : ∃ scaled, otherValue = scaled * 2 ^ exponent :=
    ⟨otherValue / 2 ^ exponent, (div_mul_cancel₀ _ unit.ne').symm⟩
  have gap : scaled ≤ mantissa ∨ (mantissa + 1 : ℚ) ≤ scaled :=
    (canonical.gap (form_of_value? otherStands)).imp
      (le_of_mul_le_mul_right · unit) (le_of_mul_le_mul_right · unit)
  have nearest := roundsTo.nearest below above between gap
  simp only [← sub_mul, abs_mul, abs_of_pos unit]
  refine ⟨mul_le_mul_of_nonneg_right nearest.1 unit.le, fun equal => ?_⟩
  rcases nearest.2 (mul_right_cancel₀ unit.ne' equal) with same | isEven
  · exact Or.inl (by rw [same])
  · exact Or.inr (even isEven)

/-! ## Cutting down to 53 digits -/

/-- The double that keeps what an unpacked one says. -/
def packed (unpacked : UnpackedFloat) : Float :=
  Float.ofModel (Float.Model.pack unpacked)

theorem Form.unpack_packed
    {unpacked : UnpackedFloat}
    {number : ℚ}
    (form : Form unpacked number) :
    (packed unpacked).toModel.unpack = unpacked := by
  cases form with
  | zero sign => cases sign <;> rfl
  | negative positive canonical => exact unpack_pack positive canonical
  | positive positive canonical => exact unpack_pack positive canonical

theorem Form.value?_packed
    {unpacked : UnpackedFloat}
    {number : ℚ}
    (form : Form unpacked number) :
    value? (packed unpacked) = some number :=
  value?_of_form (by rwa [form.unpack_packed])

/-- An unpacked double that is not negative; the mantissa may be zero. -/
def assembled (mantissa : Nat) (exponent : Int) : UnpackedFloat :=
  if isZero : mantissa = 0 then .zero .positive
  else .finite .positive mantissa exponent (Nat.pos_of_ne_zero isZero)

theorem Canonical.form_assembled
    {mantissa : Nat}
    {exponent : Int}
    (canonical : Canonical mantissa exponent) :
    Form (assembled mantissa exponent) (mantissa * 2 ^ exponent) := by
  unfold assembled
  split
  · next isZero =>
      rw [isZero, Nat.cast_zero, zero_mul]
      exact .zero .positive
  · exact .positive _ canonical

theorem hasEvenMantissa_assembled
    {mantissa : Nat}
    (even : mantissa % 2 = 0)
    (exponent : Int) :
    HasEvenMantissa (assembled mantissa exponent) := by
  unfold assembled
  split
  · trivial
  · exact even

/-- A rounded mantissa, cut down once more if it has become too long. -/
def carried (rounded : Nat) (exponent : Int) : UnpackedFloat :=
  let cut := shiftToTargetExponent .binary64 rounded exponent .exact
  assembled cut.1.mantissa cut.2

/-- A mantissa is cut down, what is left is rounded, and a digit too many is carried. -/
theorem roundWithAccuracy_eq
    (mantissa : Nat)
    (exponent : Int)
    (accuracy : Accuracy) :
    roundWithAccuracy .binary64 .positive mantissa exponent accuracy =
      let cut := shiftToTargetExponent .binary64 mantissa exponent accuracy
      carried cut.1.roundedMantissa cut.2 :=
  rfl

/-- The exponent that leaves 53 digits of a mantissa, or the least one. -/
def cutExponent (mantissa : Nat) (exponent : Int) : Int :=
  Format.binary64.targetExponent (totalExponent mantissa exponent)

theorem cutExponent_eq (mantissa : Nat) (exponent : Int) :
    cutExponent mantissa exponent = max (mantissa.log2 + exponent - 52) (-1074) := by
  have least : Format.binary64.minExponent = -1074 := rfl
  have digits : Format.binary64.mantissaBits = 53 := rfl
  rw [cutExponent, Format.targetExponent, totalExponent, least, digits]
  omega

/-- The number of digits that are cut off. -/
def cutDigits (mantissa : Nat) (exponent : Int) : Nat :=
  (cutExponent mantissa exponent - exponent).toNat

theorem shiftToTargetExponent_eq
    {mantissa : Nat}
    {exponent : Int}
    (isLow : exponent ≤ cutExponent mantissa exponent)
    (accuracy : Accuracy) :
    shiftToTargetExponent .binary64 mantissa exponent accuracy =
      (ExtendedMantissa.ofMantissaAndAccuracy mantissa accuracy >>> cutDigits mantissa exponent,
        cutExponent mantissa exponent) := by
  refine Prod.ext rfl ?_
  show exponent + ((cutExponent mantissa exponent - exponent).toNat : Int) = _
  omega

theorem cut_short (mantissa : Nat) (exponent : Int) :
    mantissa / 2 ^ cutDigits mantissa exponent < 2 ^ 53 := by
  have isCut := cutExponent_eq mantissa exponent
  rw [Nat.div_lt_iff_lt_mul (by positivity), ← pow_add]
  refine Nat.lt_log2_self.trans_le (Nat.pow_le_pow_right two_pos ?_)
  unfold cutDigits
  omega

theorem cut_full
    {mantissa : Nat}
    {exponent : Int}
    (isLow : exponent ≤ cutExponent mantissa exponent) :
    2 ^ 52 ≤ mantissa / 2 ^ cutDigits mantissa exponent ∨
      cutExponent mantissa exponent = -1074 := by
  have isCut := cutExponent_eq mantissa exponent
  refine or_iff_not_imp_right.mpr fun notLeast => ?_
  have digits : mantissa.log2 = 52 + cutDigits mantissa exponent := by
    unfold cutDigits
    omega
  have notZero : mantissa ≠ 0 := by
    rintro rfl
    rw [Nat.log2_zero] at digits
    omega
  rw [Nat.le_div_iff_mul_le (by positivity), ← pow_add, ← digits]
  exact Nat.log2_self_le notZero

/-- There is nothing left to cut off from 53 digits. -/
theorem carried_of_short
    {rounded : Nat}
    {exponent : Int}
    (short : rounded < 2 ^ 53)
    (full : 2 ^ 52 ≤ rounded ∨ exponent = -1074)
    (least : -1074 ≤ exponent) :
    carried rounded exponent = assembled rounded exponent := by
  have digits : rounded.log2 ≤ 52 := by
    rcases Nat.eq_zero_or_pos rounded with rfl | positive
    · exact Nat.zero_le _
    · exact Nat.le_of_lt_succ ((Nat.log2_lt positive.ne').mpr short)
  have isCut := cutExponent_eq rounded exponent
  have isSame : cutExponent rounded exponent = exponent := by
    rcases full with isFull | isLeast
    · have notZero : rounded ≠ 0 := by omega
      have := (Nat.le_log2 notZero).mpr isFull
      omega
    · omega
  have shifted := shiftToTargetExponent_eq isSame.ge .exact
  rw [cutDigits, isSame, sub_self] at shifted
  rw [carried, shifted]
  rfl

/-- A mantissa that has become too long is a power of two, and its last digit is zero. -/
theorem carried_of_tooLong
    {exponent : Int}
    (least : -1074 ≤ exponent) :
    carried (2 ^ 53) exponent = assembled (2 ^ 52) (exponent + 1) := by
  have isCut := cutExponent_eq (2 ^ 53) exponent
  have isNext : cutExponent (2 ^ 53) exponent = exponent + 1 := by
    rw [Nat.log2_two_pow] at isCut
    omega
  have isLow : exponent ≤ cutExponent (2 ^ 53) exponent := by omega
  have shifted := shiftToTargetExponent_eq isLow .exact
  rw [cutDigits, isNext, add_sub_cancel_left] at shifted
  rw [carried, shifted]
  rfl

/-- A carried mantissa stands for the same number, and it is even if it was. -/
theorem form_carried
    {rounded : Nat}
    {exponent : Int}
    (short : rounded ≤ 2 ^ 53)
    (full : 2 ^ 52 ≤ rounded ∨ exponent = -1074)
    (least : -1074 ≤ exponent)
    (most : exponent < 971) :
    Form (carried rounded exponent) (rounded * 2 ^ exponent) ∧
      (rounded % 2 = 0 → HasEvenMantissa (carried rounded exponent)) := by
  rcases short.lt_or_eq with short | rfl
  · have canonical : Canonical rounded exponent := ⟨short, full, least, most.le⟩
    rw [carried_of_short short full least]
    exact ⟨canonical.form_assembled, fun even => hasEvenMantissa_assembled even _⟩
  · have canonical : Canonical (2 ^ 52) (exponent + 1) :=
      ⟨by norm_num, Or.inl le_rfl, by omega, by omega⟩
    have same : ((2 ^ 53 : ℕ) * 2 ^ exponent : ℚ) = (2 ^ 52 : ℕ) * 2 ^ (exponent + 1) := by
      rw [zpow_add_one₀ two_ne_zero]
      push_cast
      ring
    rw [carried_of_tooLong least, same]
    exact ⟨canonical.form_assembled, fun _ => hasEvenMantissa_assembled (by norm_num) _⟩

/-- What is rounded up or down and carried is the nearest double. -/
theorem Represents.isNearest_carried
    {extended : ExtendedMantissa}
    {number : ℚ}
    {exponent : Int}
    (represents : Represents extended number)
    (canonical : Canonical extended.mantissa exponent)
    (most : exponent < 971) :
    IsNearest (number * 2 ^ exponent) (packed (carried extended.roundedMantissa exponent)) := by
  rcases represents.roundsTo with ⟨roundsTo, between⟩
  rcases canonical with ⟨short, full, least, -⟩
  have roundedFull : 2 ^ 52 ≤ extended.roundedMantissa ∨ exponent = -1074 := by omega
  rcases form_carried (by omega) roundedFull least most with ⟨form, even⟩
  refine
    isNearest_of_roundsTo ⟨short, full, least, most.le⟩ roundsTo represents.below
      represents.above.le between form.value?_packed ?_
  rwa [form.unpack_packed]

/-- A number that does not come near to the largest double has a small exponent. -/
theorem Represents.exponent_lt
    {extended : ExtendedMantissa}
    {number : ℚ}
    {exponent : Int}
    (represents : Represents extended number)
    (full : 2 ^ 52 ≤ extended.mantissa ∨ exponent = -1074)
    (bounded : number * 2 ^ exponent < 2 ^ (1023 : ℤ)) :
    exponent < 971 := by
  rcases full with isFull | rfl
  · by_contra tooMuch
    have isFull : (2 ^ (52 : ℤ) : ℚ) ≤ extended.mantissa := by exact_mod_cast isFull
    have isMore : (2 : ℚ) ^ (971 : ℤ) ≤ 2 ^ exponent :=
      zpow_le_zpow_right₀ one_le_two (by omega)
    have tooLarge : (2 : ℚ) ^ (1023 : ℤ) ≤ number * 2 ^ exponent :=
      calc
        (2 : ℚ) ^ (1023 : ℤ) = 2 ^ (52 : ℤ) * 2 ^ (971 : ℤ) := zpow_add₀ two_ne_zero 52 971
        _ ≤ extended.mantissa * 2 ^ exponent := by gcongr
        _ ≤ number * 2 ^ exponent := by gcongr; exact represents.below
    exact absurd bounded (not_lt.mpr tooLarge)
  · norm_num

/--
What is left of a mantissa is rounded to the nearest double, if the number does not
come near to the largest double.
-/
theorem isNearest_roundWithAccuracy
    {mantissa : Nat}
    {exponent : Int}
    {accuracy : Accuracy}
    {number : ℚ}
    (represents : Represents (.ofMantissaAndAccuracy mantissa accuracy) number)
    (isLow : exponent ≤ cutExponent mantissa exponent)
    (bounded : number * 2 ^ exponent < 2 ^ (1023 : ℤ)) :
    IsNearest (number * 2 ^ exponent)
      (packed (roundWithAccuracy .binary64 .positive mantissa exponent accuracy)) := by
  have cutRepresents := represents.shiftRight (cutDigits mantissa exponent)
  have kept :=
    mantissa_shiftRight (.ofMantissaAndAccuracy mantissa accuracy) (cutDigits mantissa exponent)
  rw [mantissa_ofMantissaAndAccuracy] at kept
  have scale :
      number * 2 ^ exponent =
        number / 2 ^ cutDigits mantissa exponent * 2 ^ cutExponent mantissa exponent := by
    have target : cutExponent mantissa exponent = exponent + cutDigits mantissa exponent := by
      unfold cutDigits
      omega
    rw [target, zpow_add₀ two_ne_zero, zpow_natCast, mul_comm (2 ^ exponent), ← mul_assoc,
      div_mul_cancel₀ _ (by positivity)]
  rw [scale] at bounded ⊢
  rw [roundWithAccuracy_eq, shiftToTargetExponent_eq isLow]
  have isCut := cutExponent_eq mantissa exponent
  have most := cutRepresents.exponent_lt (kept ▸ cut_full isLow) bounded
  have canonical :
      Canonical (mantissa / 2 ^ cutDigits mantissa exponent) (cutExponent mantissa exponent) :=
    ⟨cut_short mantissa exponent, cut_full isLow, by omega, most.le⟩
  exact cutRepresents.isNearest_carried (kept ▸ canonical) most

end OpenApiGate.Double
