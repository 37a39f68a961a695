import OpenApiGate.Proofs.NearestDoubles

/-!
# Rounded operations

Products, sums and quotients of doubles that are not negative are the doubles nearest
to the exact results, and so are whole numbers that are taken for doubles.  A result
that is a double itself is not rounded, and whatever is rounded keeps its order.
-/

namespace OpenApiGate.Double

open Float.Model (UnpackedFloat Format totalExponent)
open Float.Model.UnpackedFloat (accuracyOfFraction roundWithAccuracy)

/-! ## The operations -/

theorem unpack_of_zero
    {double : Float}
    (stands : value? double = some 0) :
    ∃ sign, double.toModel.unpack = .zero sign := by
  have form := form_of_value? stands
  generalize double.toModel.unpack = unpacked at form
  generalize isZero : (0 : ℚ) = number at form
  cases form with
  | zero sign => exact ⟨sign, rfl⟩
  | @negative mantissa exponent positive canonical =>
      have : (0 : ℚ) < mantissa * 2 ^ exponent := by positivity
      linarith
  | @positive mantissa exponent positive canonical =>
      have : (0 : ℚ) < mantissa * 2 ^ exponent := by positivity
      linarith

theorem unpack_of_pos
    {double : Float}
    {number : ℚ}
    (stands : value? double = some number)
    (isPositive : 0 < number) :
    ∃ mantissa exponent, ∃ positive : 0 < mantissa,
      double.toModel.unpack = .finite .positive mantissa exponent positive ∧
        Canonical mantissa exponent ∧ number = mantissa * 2 ^ exponent := by
  have form := form_of_value? stands
  generalize double.toModel.unpack = unpacked at form
  cases form with
  | zero sign => exact absurd isPositive (lt_irrefl 0)
  | @negative mantissa exponent positive canonical =>
      have : (0 : ℚ) < mantissa * 2 ^ exponent := by positivity
      linarith
  | @positive mantissa exponent positive canonical =>
      exact ⟨mantissa, exponent, positive, rfl, canonical, rfl⟩

/-- A double for a positive number is the only one. -/
theorem eq_of_value?
    {first second : Float}
    {number : ℚ}
    (stands : value? first = some number)
    (otherStands : value? second = some number)
    (isPositive : 0 < number) :
    first = second := by
  obtain ⟨_, _, _, unpacked, canonical, isNumber⟩ := unpack_of_pos stands isPositive
  obtain ⟨_, _, _, otherUnpacked, otherCanonical, same⟩ := unpack_of_pos otherStands isPositive
  have sameParts := canonical.compare_eq otherCanonical
  rw [← isNumber, ← same, compare_eq_iff_eq.mpr rfl, Ordering.then_eq_eq, compare_eq_iff_eq,
    compare_eq_iff_eq] at sameParts
  obtain ⟨rfl, rfl⟩ := sameParts
  have sameUnpacked : first.toModel.unpack = second.toModel.unpack :=
    unpacked.trans otherUnpacked.symm
  have sameBits :=
    (UnpackedFloat.unpack_inj_of_valid first.toModel.valid second.toModel.valid).mp sameUnpacked
  exact Float.toBits_inj.mp (UInt64.toBitVec_inj.mp sameBits)

/-- An operation is rounded if it is on finite doubles, and if zero is its first operand. -/
theorem isNearest_of_unpacked
    {operation : UnpackedFloat → UnpackedFloat → UnpackedFloat}
    {exactly : ℚ → ℚ → ℚ}
    {first second : Float}
    {number other : ℚ}
    (stands : value? first = some number)
    (otherStands : value? second = some other)
    (notNegative : 0 ≤ number)
    (otherPositive : 0 < other)
    (ofZero :
      ∀ sign mantissa exponent positive, Canonical mantissa exponent →
        Form (operation (.zero sign) (.finite .positive mantissa exponent positive))
          (exactly 0 (mantissa * 2 ^ exponent)))
    (ofFinite :
      ∀ mantissa exponent positive otherMantissa otherExponent otherPositive,
        Canonical mantissa exponent → Canonical otherMantissa otherExponent →
          number = mantissa * 2 ^ exponent → other = otherMantissa * 2 ^ otherExponent →
          IsNearest (exactly number other)
            (packed
              (operation (.finite .positive mantissa exponent positive)
                (.finite .positive otherMantissa otherExponent otherPositive)))) :
    IsNearest (exactly number other)
      (packed (operation first.toModel.unpack second.toModel.unpack)) := by
  obtain ⟨_, _, _, otherUnpacked, otherCanonical, isOther⟩ :=
    unpack_of_pos otherStands otherPositive
  rw [otherUnpacked]
  rcases notNegative.eq_or_lt with rfl | isPositive
  · obtain ⟨sign, unpacked⟩ := unpack_of_zero stands
    rw [unpacked, isOther]
    exact .of_value? (ofZero _ _ _ _ otherCanonical).value?_packed
  · obtain ⟨_, _, _, unpacked, canonical, isNumber⟩ := unpack_of_pos stands isPositive
    rw [unpacked]
    exact ofFinite _ _ _ _ _ _ canonical otherCanonical isNumber isOther

theorem le_cutExponent
    {mantissa : Nat}
    {exponent : Int}
    (enough : 2 ^ 52 ≤ mantissa ∨ exponent ≤ -1074) :
    exponent ≤ cutExponent mantissa exponent := by
  rw [cutExponent_eq]
  rcases enough with isFull | isLeast
  · have positive : mantissa ≠ 0 := by omega
    have := (Nat.le_log2 positive).mpr isFull
    omega
  · omega

/-! ## Products -/

/-- A product has 53 digits, unless both factors are too small to have them. -/
theorem Canonical.mul_full
    {mantissa other : Nat}
    {exponent otherExponent : Int}
    (canonical : Canonical mantissa exponent)
    (otherCanonical : Canonical other otherExponent)
    (positive : 0 < mantissa)
    (otherPositive : 0 < other) :
    2 ^ 52 ≤ mantissa * other ∨ exponent + otherExponent ≤ -1074 := by
  rcases canonical.full with isFull | isLeast
  · exact Or.inl (isFull.trans (Nat.le_mul_of_pos_right mantissa otherPositive))
  · rcases otherCanonical.full with isFull | isLeastToo
    · exact Or.inl (isFull.trans (Nat.le_mul_of_pos_left other positive))
    · exact Or.inr (by omega)

theorem isNearest_mul
    {first second : Float}
    {number other : ℚ}
    (stands : value? first = some number)
    (otherStands : value? second = some other)
    (notNegative : 0 ≤ number)
    (otherPositive : 0 < other)
    (bounded : number * other < 2 ^ (1023 : ℤ)) :
    IsNearest (number * other) (first * second) := by
  apply isNearest_of_unpacked stands otherStands notNegative otherPositive
  · intro sign mantissa exponent positive canonical
    rw [zero_mul]
    exact .zero _
  · rintro mantissa exponent positive otherMantissa otherExponent positiveToo canonical
      otherCanonical rfl rfl
    have product :
        (mantissa * 2 ^ exponent * (otherMantissa * 2 ^ otherExponent) : ℚ) =
          (mantissa * otherMantissa : ℕ) * 2 ^ (exponent + otherExponent) := by
      rw [zpow_add₀ two_ne_zero, Nat.cast_mul]
      ring
    rw [product] at bounded ⊢
    have full := canonical.mul_full otherCanonical positive positiveToo
    exact isNearest_roundWithAccuracy (represents_exact _) (le_cutExponent full) bounded

/-! ## Sums -/

theorem log2_shiftLeft
    {mantissa : Nat}
    (positive : 0 < mantissa)
    (added : Nat) :
    (mantissa <<< added).log2 = mantissa.log2 + added := by
  have lower := Nat.log2_self_le positive.ne'
  have upper := mantissa.lt_log2_self
  rw [Nat.shiftLeft_eq, Nat.log2_eq_iff (by positivity), add_right_comm, pow_add, pow_add]
  exact ⟨by gcongr, by gcongr⟩

/-- Zeros at the end are made up for by the exponent. -/
theorem shiftLeft_mul_zpow
    (mantissa added : Nat)
    (exponent : Int) :
    ((mantissa <<< added : ℕ) : ℚ) * 2 ^ (exponent - added) = mantissa * 2 ^ exponent := by
  have split : (2 : ℚ) ^ exponent = 2 ^ added * 2 ^ (exponent - added) := by
    rw [← zpow_natCast, ← zpow_add₀ two_ne_zero, add_sub_cancel]
  rw [split, ← mul_assoc, Nat.shiftLeft_eq, Nat.cast_mul, Nat.cast_pow, Nat.cast_two]

/-- A mantissa of any length is rounded to the nearest double. -/
theorem isNearest_round
    {mantissa : Nat}
    {exponent : Int}
    (positive : 0 < mantissa)
    (bounded : (mantissa * 2 ^ exponent : ℚ) < 2 ^ (1023 : ℤ)) :
    IsNearest (mantissa * 2 ^ exponent)
      (packed (UnpackedFloat.round .binary64 .positive mantissa exponent)) := by
  let added := (exponent - cutExponent mantissa exponent).toNat
  have rounded :
      UnpackedFloat.round .binary64 .positive mantissa exponent =
        roundWithAccuracy .binary64 .positive (mantissa <<< added) (exponent - added) .exact := rfl
  have isLow : exponent - added ≤ cutExponent (mantissa <<< added) (exponent - added) := by
    have before := cutExponent_eq mantissa exponent
    rw [cutExponent_eq, log2_shiftLeft positive]
    omega
  rw [← shiftLeft_mul_zpow mantissa added] at bounded ⊢
  rw [rounded]
  exact isNearest_roundWithAccuracy (represents_exact _) isLow bounded

/-- A mantissa with zeros at the end, so that it belongs to a lesser exponent. -/
def alignedTo (least : Int) (mantissa : Nat) (exponent : Int) : Nat :=
  mantissa <<< (exponent - least).toNat

theorem alignedTo_mul_zpow
    {exponent least : Int}
    (mantissa : Nat)
    (notMore : least ≤ exponent) :
    (alignedTo least mantissa exponent : ℚ) * 2 ^ least = mantissa * 2 ^ exponent := by
  rw [alignedTo, ← shiftLeft_mul_zpow mantissa (exponent - least).toNat exponent]
  congr 2
  omega

theorem normalize_of_pos
    {mantissa : Nat}
    (positive : 0 < mantissa)
    (exponent : Int) :
    UnpackedFloat.normalize .binary64 mantissa exponent .positive =
      UnpackedFloat.round .binary64 .positive mantissa exponent := by
  have isMore : compare (mantissa : Int) 0 = .gt :=
    compare_gt_iff_gt.mpr (by exact_mod_cast positive)
  rw [UnpackedFloat.normalize, isMore]
  rfl

/-- The mantissas are aligned at the lesser exponent and added. -/
theorem add_eq_round
    {mantissa other : Nat}
    {exponent otherExponent : Int}
    (positive : 0 < mantissa)
    (otherPositive : 0 < other) :
    UnpackedFloat.add .binary64 (.finite .positive mantissa exponent positive)
        (.finite .positive other otherExponent otherPositive) =
      UnpackedFloat.round .binary64 .positive
        (alignedTo (min exponent otherExponent) mantissa exponent +
          alignedTo (min exponent otherExponent) other otherExponent)
        (min exponent otherExponent) := by
  have notZero :
      0 < alignedTo (min exponent otherExponent) mantissa exponent +
        alignedTo (min exponent otherExponent) other otherExponent := by
    apply Nat.add_pos_left
    rw [alignedTo, Nat.shiftLeft_eq]
    positivity
  rw [← normalize_of_pos notZero]
  rfl

theorem isNearest_add
    {first second : Float}
    {number other : ℚ}
    (stands : value? first = some number)
    (otherStands : value? second = some other)
    (notNegative : 0 ≤ number)
    (otherPositive : 0 < other)
    (bounded : number + other < 2 ^ (1023 : ℤ)) :
    IsNearest (number + other) (first + second) := by
  apply isNearest_of_unpacked stands otherStands notNegative otherPositive
  · intro sign mantissa exponent positive canonical
    rw [zero_add]
    exact .positive positive canonical
  · rintro mantissa exponent positive otherMantissa otherExponent positiveToo - - rfl rfl
    rw [add_eq_round positive positiveToo]
    rw [← alignedTo_mul_zpow mantissa (min_le_left exponent otherExponent),
      ← alignedTo_mul_zpow otherMantissa (min_le_right exponent otherExponent), ← add_mul,
      ← Nat.cast_add] at bounded ⊢
    apply isNearest_round _ bounded
    apply Nat.add_pos_left
    rw [alignedTo, Nat.shiftLeft_eq]
    positivity

/-! ## Quotients -/

section Quotient

variable (mantissa : Nat) (exponent : Int) (other : Nat) (otherExponent : Int)

/-- The exponent of a quotient before it is rounded. -/
def quotientExponent : Int :=
  min (exponent - otherExponent)
    (Format.binary64.targetExponent
      (totalExponent mantissa exponent - totalExponent other otherExponent))

/-- A dividend with enough zeros at its end. -/
def paddedDividend : Nat :=
  alignedTo (quotientExponent mantissa exponent other otherExponent) mantissa
    (exponent - otherExponent)

theorem quotientExponent_eq :
    quotientExponent mantissa exponent other otherExponent =
      min (exponent - otherExponent)
        (max (mantissa.log2 + exponent - (other.log2 + otherExponent) - 53) (-1074)) := by
  have least : Format.binary64.minExponent = -1074 := rfl
  have digits : Format.binary64.mantissaBits = 53 := rfl
  rw [quotientExponent, Format.targetExponent, totalExponent, totalExponent, least, digits]
  omega

variable {mantissa other}

/-- The zeros at the end of a dividend give the quotient 53 digits. -/
theorem quotient_full
    (positive : 0 < mantissa)
    (otherPositive : 0 < other) :
    2 ^ 52 ≤ paddedDividend mantissa exponent other otherExponent / other ∨
      quotientExponent mantissa exponent other otherExponent ≤ -1074 := by
  have isExponent := quotientExponent_eq mantissa exponent other otherExponent
  refine or_iff_not_imp_right.mpr fun notLeast => ?_
  rw [Nat.le_div_iff_mul_le otherPositive, paddedDividend, alignedTo, Nat.shiftLeft_eq]
  generalize quotientExponent mantissa exponent other otherExponent = cut at *
  calc
    2 ^ 52 * other
      ≤ 2 ^ 52 * 2 ^ (other.log2 + 1) := by gcongr; exact other.lt_log2_self.le
    _ = 2 ^ (52 + (other.log2 + 1)) := (pow_add ..).symm
    _ ≤ 2 ^ (mantissa.log2 + (exponent - otherExponent - cut).toNat) :=
        Nat.pow_le_pow_right two_pos (by omega)
    _ = 2 ^ mantissa.log2 * 2 ^ (exponent - otherExponent - cut).toNat := pow_add ..
    _ ≤ mantissa * 2 ^ (exponent - otherExponent - cut).toNat := by
        gcongr
        exact Nat.log2_self_le positive.ne'

/-- A quotient is what the division gives and the remainder over the divisor. -/
theorem quotient_eq
    (otherPositive : 0 < other) :
    (mantissa * 2 ^ exponent / (other * 2 ^ otherExponent) : ℚ) =
      ((paddedDividend mantissa exponent other otherExponent / other : ℕ) +
          (paddedDividend mantissa exponent other otherExponent % other : ℕ) / other) *
        2 ^ quotientExponent mantissa exponent other otherExponent := by
  have notMore :
      quotientExponent mantissa exponent other otherExponent ≤ exponent - otherExponent :=
    min_le_left _ _
  have aligned := alignedTo_mul_zpow mantissa notMore
  rw [← paddedDividend] at aligned
  generalize paddedDividend mantissa exponent other otherExponent = dividend at *
  have notZero : (other : ℚ) ≠ 0 := by exact_mod_cast otherPositive.ne'
  have whole : (dividend : ℚ) = other * (dividend / other : ℕ) + (dividend % other : ℕ) := by
    exact_mod_cast (Nat.div_add_mod dividend other).symm
  have parts : (dividend : ℚ) / other = (dividend / other : ℕ) + (dividend % other : ℕ) / other := by
    rw [whole, add_div, mul_div_cancel_left₀ _ notZero]
  rw [← parts, div_mul_eq_mul_div, aligned, zpow_sub₀ two_ne_zero, mul_div_assoc', div_div,
    mul_comm (2 ^ otherExponent)]

end Quotient

theorem isNearest_div
    {first second : Float}
    {number other : ℚ}
    (stands : value? first = some number)
    (otherStands : value? second = some other)
    (notNegative : 0 ≤ number)
    (otherPositive : 0 < other)
    (bounded : number / other < 2 ^ (1023 : ℤ)) :
    IsNearest (number / other) (first / second) := by
  apply isNearest_of_unpacked stands otherStands notNegative otherPositive
  · intro sign mantissa exponent positive canonical
    rw [zero_div]
    exact .zero _
  · rintro mantissa exponent positive otherMantissa otherExponent positiveToo - - rfl rfl
    rw [quotient_eq exponent otherExponent positiveToo] at bounded ⊢
    have full := quotient_full exponent otherExponent positive positiveToo
    have proper :=
      Nat.mod_lt (paddedDividend mantissa exponent otherMantissa otherExponent) positiveToo
    exact
      isNearest_roundWithAccuracy (represents_fraction proper _) (le_cutExponent full) bounded

/-! ## Numbers that doubles stand for -/

theorem isDouble_zero : IsDouble 0 :=
  ⟨_, (Form.zero .positive).value?_packed⟩

theorem isDouble_two_zpow
    {exponent : Int}
    (least : -1022 ≤ exponent)
    (most : exponent ≤ 1023) :
    IsDouble (2 ^ exponent) := by
  have canonical : Canonical (2 ^ 52) (exponent - 52) :=
    ⟨by norm_num, Or.inl le_rfl, by omega, by omega⟩
  have same : (2 ^ exponent : ℚ) = (2 ^ 52 : ℕ) * 2 ^ (exponent - 52) := by
    rw [Nat.cast_pow, Nat.cast_two, ← zpow_natCast, ← zpow_add₀ two_ne_zero]
    congr 1
    omega
  rw [same]
  exact ⟨_, (Form.positive (by norm_num) canonical).value?_packed⟩

/-- A whole number of 53 digits, or the next one, times a power of two is a double. -/
theorem isDouble_of_short
    {digits : Nat}
    {exponent : Int}
    (short : digits ≤ 2 ^ 53)
    (least : -1022 ≤ exponent)
    (most : exponent ≤ 970) :
    IsDouble (digits * 2 ^ exponent) := by
  rcases Nat.eq_zero_or_pos digits with rfl | positive
  · rw [Nat.cast_zero, zero_mul]
    exact isDouble_zero
  rcases short.lt_or_eq with short | rfl
  · let added := 52 - digits.log2
    have isShort : digits.log2 < 53 := (Nat.log2_lt positive.ne').mpr short
    have paddedPositive : 0 < digits <<< added := by
      rw [Nat.shiftLeft_eq]
      positivity
    have padded : 2 ^ 52 ≤ digits <<< added ∧ digits <<< added < 2 ^ 53 := by
      rw [← Nat.log2_eq_iff paddedPositive.ne', log2_shiftLeft positive]
      omega
    have canonical : Canonical (digits <<< added) (exponent - added) :=
      ⟨padded.2, Or.inl padded.1, by omega, by omega⟩
    rw [← shiftLeft_mul_zpow digits added]
    exact ⟨_, (Form.positive paddedPositive canonical).value?_packed⟩
  · rw [Nat.cast_pow, Nat.cast_two, ← zpow_natCast, ← zpow_add₀ two_ne_zero]
    exact isDouble_two_zpow (by omega) (by omega)

theorem mul_two_zpow_le
    {factor : ℚ}
    {digits : Int}
    (few : factor ≤ 2 ^ digits)
    (exponent : Int) :
    factor * 2 ^ exponent ≤ 2 ^ (digits + exponent) := by
  rw [zpow_add₀ two_ne_zero]
  gcongr

theorem two_zpow_lt
    {exponent : Int}
    (less : exponent < 1023) :
    (2 ^ exponent : ℚ) < 2 ^ (1023 : ℤ) :=
  zpow_lt_zpow_right₀ one_lt_two less

/-- What is not beyond 53 digits is far from the largest double. -/
theorem lt_of_le_digits
    {number : ℚ}
    (short : number ≤ 2 ^ (53 : ℤ)) :
    number < 2 ^ (1023 : ℤ) :=
  short.trans_lt (two_zpow_lt (by norm_num))

theorem isDouble_natCast
    {number : Nat}
    (short : number ≤ 2 ^ 53) :
    IsDouble number := by
  have isDouble := isDouble_of_short short (by norm_num : -1022 ≤ (0 : ℤ)) (by norm_num)
  rwa [zpow_zero, mul_one] at isDouble

theorem value?_toFloat
    {number : Nat}
    (short : number < 2 ^ 53) :
    value? number.toUInt64.toFloat = some (number : ℚ) := by
  have kept : number.toUInt64.toNat = number := by
    rw [Nat.toUInt64_eq, UInt64.toNat_ofNat']
    omega
  show value? (packed (UnpackedFloat.normalize .binary64 number.toUInt64.toNat 0 .positive)) = _
  rw [kept]
  rcases Nat.eq_zero_or_pos number with rfl | positive
  · exact (Form.zero .positive).value?_packed
  · have bounded : (number * 2 ^ (0 : ℤ) : ℚ) < 2 ^ (1023 : ℤ) := by
      rw [zpow_zero, mul_one]
      exact lt_of_le_digits (by exact_mod_cast short.le)
    have nearest := isNearest_round positive bounded
    rw [zpow_zero, mul_one, ← normalize_of_pos positive] at nearest
    exact nearest.value?_eq (isDouble_natCast short.le)

/-- A whole number of 53 digits is taken for a double as it is. -/
theorem value?_ofNat
    {number : Nat}
    (short : number < 2 ^ 53) :
    value? (Float.ofNat number) = some (number : ℚ) := by
  -- It is multiplied by a power of ten, which is one.
  have split :
      Float.ofNat number = number.toUInt64.toFloat * Float.ofBits 0x3FF0000000000000 := by
    show Float.ofScientific number false 0 = _
    rw [Float.ofScientific, dif_pos ⟨short, by decide⟩]
    rfl
  have one : value? (Float.ofBits 0x3FF0000000000000) = some 1 := by decide +kernel
  have bounded : (number * 1 : ℚ) < 2 ^ (1023 : ℤ) := by
    rw [mul_one]
    exact lt_of_le_digits (by exact_mod_cast short.le)
  have nearest := isNearest_mul (value?_toFloat short) one (Nat.cast_nonneg number) one_pos bounded
  rw [mul_one, ← split] at nearest
  exact nearest.value?_eq (isDouble_natCast short.le)

/-- A whole number is rounded to the nearest double. -/
theorem isNearest_ofNat
    {number : Nat}
    (bounded : (number : ℚ) < 2 ^ (1023 : ℤ)) :
    IsNearest number (Float.ofNat number) := by
  rcases Nat.lt_or_ge number (2 ^ 53) with short | long
  · exact .of_value? (value?_ofNat short)
  have notShort : ¬ (number < 2 ^ 53 ∧ 0 ≤ 22) := fun short => absurd short.1 (not_lt.mpr long)
  have notZero : number ≠ 0 := by omega
  have notTiny : ¬ (0 : ℤ) < -((2 ^ Format.binary64.exponentBits : ℤ) + number.log2) := by
    rw [not_lt, neg_nonpos]
    positivity
  have product :
      Float.ofNat number =
        packed (roundWithAccuracy .binary64 .positive (number <<< 53) (-53) .exact) := by
    show Float.ofScientific number false 0 = _
    rw [Float.ofScientific, dif_neg notShort]
    show packed (UnpackedFloat.ofScientific .binary64 number 0) = _
    rw [UnpackedFloat.ofScientific, dif_neg notZero, if_neg (by decide), if_neg notTiny,
      if_pos le_rfl]
    show packed (roundWithAccuracy .binary64 .positive (number <<< 53 * 1) (-53 + 0) .exact) = _
    rw [mul_one, add_zero]
  have number_eq := shiftLeft_mul_zpow number 53 0
  rw [zpow_zero, mul_one] at number_eq
  rw [← number_eq] at bounded ⊢
  rw [product]
  have enough : 2 ^ 52 ≤ number <<< 53 := by omega
  exact isNearest_roundWithAccuracy (represents_exact _) (le_cutExponent (Or.inl enough)) bounded

/-! ## Rounded results in order -/

/-- Doubles in order that are not negative and not beyond a bound. -/
def InOrder
    (bound : ℚ)
    (first second : Float) :
    Prop :=
  ∃ number other, value? first = some number ∧ value? second = some other ∧
    0 ≤ number ∧ number ≤ other ∧ other ≤ bound

theorem InOrder.le
    {bound : ℚ}
    {first second : Float}
    (inOrder : InOrder bound first second) :
    first ≤ second := by
  rcases inOrder with ⟨number, other, stands, otherStands, -, notMore, -⟩
  exact le_iff.mpr
    ⟨_, place?_of_value? stands, _, place?_of_value? otherStands, placeOf_le_placeOf.mpr notMore⟩

/-- An increasing operation keeps the order, although its results are rounded. -/
theorem InOrder.map
    {bound newBound : ℚ}
    {first second : Float}
    (inOrder : InOrder bound first second)
    (operation : Float → Float)
    (exactly : ℚ → ℚ)
    (rounds :
      ∀ double number, value? double = some number → 0 ≤ number → exactly number ≤ newBound →
        IsNearest (exactly number) (operation double))
    (increasing : StrictMono exactly)
    (isDouble : IsDouble (exactly 0))
    (notNegative : 0 ≤ exactly 0)
    (isBound : IsDouble newBound)
    (within : exactly bound ≤ newBound) :
    InOrder newBound (operation first) (operation second) := by
  rcases inOrder with ⟨number, other, stands, otherStands, isNatural, notMore, notBeyond⟩
  have notBeyond : exactly other ≤ newBound := (increasing.monotone notBeyond).trans within
  have inReach : exactly number ≤ newBound := (increasing.monotone notMore).trans notBeyond
  have nearest := rounds first number stands isNatural inReach
  have otherNearest := rounds second other otherStands (isNatural.trans notMore) notBeyond
  obtain ⟨value, resultStands, -⟩ := id nearest
  obtain ⟨otherValue, otherResultStands, -⟩ := id otherNearest
  refine ⟨value, otherValue, resultStands, otherResultStands, ?_, ?_, ?_⟩
  · have notLess : 0 ≤ exactly number := notNegative.trans (increasing.monotone isNatural)
    exact nearest.le_value resultStands isDouble_zero notLess
  · rcases notMore.eq_or_lt with rfl | less
    · rcases isNatural.eq_or_lt with rfl | isPositive
      · have same :=
          (nearest.value?_eq isDouble).trans (otherNearest.value?_eq isDouble).symm
        rw [resultStands, otherResultStands] at same
        exact (Option.some.inj same).le
      · cases eq_of_value? stands otherStands isPositive
        exact (Option.some.inj (resultStands.symm.trans otherResultStands)).le
    · exact nearest.value_le_of_lt otherNearest resultStands otherResultStands (increasing less)
  · exact otherNearest.value_le otherResultStands isBound notBeyond

section Constant

variable {bound newBound number : ℚ} {first second constant : Float}
  (inOrder : InOrder bound first second)
  (stands : value? constant = some number)
  (isPositive : 0 < number)
  (isBound : IsDouble newBound)
  (inReach : newBound < 2 ^ (1023 : ℤ))

include inOrder stands isPositive isBound inReach

theorem InOrder.mul
    (within : bound * number ≤ newBound) :
    InOrder newBound (first * constant) (second * constant) := by
  have isDouble : IsDouble (0 * number) := by
    rw [zero_mul]
    exact isDouble_zero
  refine inOrder.map (· * constant) (· * number) ?_ ?_ isDouble (zero_mul number).ge isBound within
  · intro double factor factorStands notNegative notBeyond
    exact isNearest_mul factorStands stands notNegative isPositive (notBeyond.trans_lt inReach)
  · exact fun factor other less => mul_lt_mul_of_pos_right less isPositive

theorem InOrder.div
    (within : bound / number ≤ newBound) :
    InOrder newBound (first / constant) (second / constant) := by
  have isDouble : IsDouble (0 / number) := by
    rw [zero_div]
    exact isDouble_zero
  refine inOrder.map (· / constant) (· / number) ?_ ?_ isDouble (zero_div number).ge isBound within
  · intro double dividend dividendStands notNegative notBeyond
    exact isNearest_div dividendStands stands notNegative isPositive (notBeyond.trans_lt inReach)
  · exact fun dividend other less => div_lt_div_of_pos_right less isPositive

theorem InOrder.add
    (within : bound + number ≤ newBound) :
    InOrder newBound (first + constant) (second + constant) := by
  have isDouble : IsDouble (0 + number) := by
    rw [zero_add]
    exact ⟨constant, stands⟩
  have notNegative : 0 ≤ 0 + number := by
    rw [zero_add]
    exact isPositive.le
  refine inOrder.map (· + constant) (· + number) ?_ ?_ isDouble notNegative isBound within
  · intro double term termStands notNegative notBeyond
    exact isNearest_add termStands stands notNegative isPositive (notBeyond.trans_lt inReach)
  · exact fun term other less => add_lt_add_left less number

end Constant

theorem inOrder_ofNat
    {number other : Nat}
    (notMore : number ≤ other)
    (bounded : (other : ℚ) < 2 ^ (1023 : ℤ)) :
    InOrder (2 ^ (1023 : ℤ)) (Float.ofNat number) (Float.ofNat other) := by
  have notMore' : (number : ℚ) ≤ other := by exact_mod_cast notMore
  have nearest := isNearest_ofNat (notMore'.trans_lt bounded)
  have otherNearest := isNearest_ofNat bounded
  obtain ⟨value, stands, -⟩ := id nearest
  obtain ⟨otherValue, otherStands, -⟩ := id otherNearest
  refine ⟨value, otherValue, stands, otherStands, ?_, ?_, ?_⟩
  · exact nearest.le_value stands isDouble_zero (Nat.cast_nonneg number)
  · rcases notMore'.eq_or_lt with same | less
    · cases Nat.cast_injective same
      exact (Option.some.inj (stands.symm.trans otherStands)).le
    · exact nearest.value_le_of_lt otherNearest stands otherStands less
  · exact otherNearest.value_le otherStands
      (isDouble_two_zpow (by norm_num) le_rfl) bounded.le

end OpenApiGate.Double
