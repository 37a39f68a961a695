import OpenApiGate.Files.Kilobytes
import OpenApiGate.Proofs.RoundedOperations
import OpenApiGate.Quantity

/-!
# Sizes are rounded exactly

A size in tenths of a kilobyte is computed in doubles: the bytes over 1024, times ten,
plus a half, without what is left of a whole.  Up to the whole part no digit is lost,
since each of these numbers is a whole number of 1024ths of at most 53 digits.  Only
the last step, a whole number of tenths over ten, is rounded, and that keeps the order.
-/

namespace OpenApiGate

open Double

/-- The whole part of a double is that of the number that it stands for. -/
theorem Decimal.wholePart_eq_floor
    {double : Float}
    {number : ℚ}
    (stands : value? double = some number) :
    Decimal.wholePart double = ⌊number⌋₊ := by
  have form := form_of_value? stands
  unfold Decimal.wholePart
  generalize double.toModel.unpack = unpacked at form
  cases form with
  | zero sign => exact (Nat.floor_zero).symm
  | @negative mantissa exponent positive canonical =>
      have notPositive : -(mantissa * 2 ^ exponent : ℚ) ≤ 0 := by
        rw [neg_nonpos]
        positivity
      exact (Nat.floor_of_nonpos notPositive).symm
  | @positive mantissa exponent positive canonical =>
      cases exponent with
      | ofNat power =>
          have whole : (mantissa * 2 ^ Int.ofNat power : ℚ) = (mantissa * 2 ^ power : ℕ) := by
            push_cast
            rfl
          rw [whole, Nat.floor_natCast]
          rfl
      | negSucc power =>
          have fraction :
              (mantissa * 2 ^ Int.negSucc power : ℚ) = mantissa / (2 ^ (power + 1) : ℕ) := by
            rw [zpow_negSucc, div_eq_mul_inv]
            push_cast
            rfl
          rw [fraction, Nat.floor_div_eq_div]
          rfl

/-! ## The steps in doubles -/

theorem value?_kilo : value? 1024 = some 1024 := by
  decide +kernel

theorem value?_ten : value? 10 = some 10 := by
  decide +kernel

theorem value?_half : value? 0.5 = some (1 / 2) := by
  decide +kernel

/-- A whole number of 1024ths that is not too large is a double. -/
theorem isDouble_over_kilo
    {parts : Nat}
    (short : parts ≤ 2 ^ 53) :
    IsDouble (parts / 1024) := by
  have isDouble := isDouble_of_short short (by norm_num : -1022 ≤ (-10 : ℤ)) (by norm_num)
  have same : (parts * 2 ^ (-10 : ℤ) : ℚ) = parts / 1024 := by norm_num [zpow_neg, div_eq_mul_inv]
  rwa [same] at isDouble

/-- So few parts of a kilobyte are far below the largest double. -/
theorem over_kilo_lt
    {parts : Nat}
    (short : parts ≤ 2 ^ 53) :
    (parts / 1024 : ℚ) < 2 ^ (1023 : ℤ) := by
  apply lt_of_le_digits
  calc
    (parts / 1024 : ℚ) ≤ parts := div_le_self (Nat.cast_nonneg parts) (by norm_num)
    _ ≤ 2 ^ (53 : ℤ) := by exact_mod_cast short

variable {bytes : Nat}

/-- Few bytes are divided without rounding. -/
theorem value?_bytesOverKilo
    (within : 10 * bytes + 512 ≤ 2 ^ 53) :
    value? (bytesOverKilo bytes) = some (bytes / 1024 : ℚ) := by
  have converted : value? (Float.ofNat bytes) = some (bytes : ℚ) := value?_ofNat (by omega)
  have short : bytes ≤ 2 ^ 53 := by omega
  have nearest :=
    isNearest_div converted value?_kilo (Nat.cast_nonneg bytes) (by norm_num) (over_kilo_lt short)
  rw [bytesOverKilo, if_pos (isFinite_of_value? converted)]
  exact nearest.value?_eq (isDouble_over_kilo short)

theorem value?_tenths
    (within : 10 * bytes + 512 ≤ 2 ^ 53) :
    value? (bytesOverKilo bytes * 10) = some (10 * bytes / 1024 : ℚ) := by
  have short : 10 * bytes ≤ 2 ^ 53 := by omega
  have product : (bytes / 1024 * 10 : ℚ) = (10 * bytes : ℕ) / 1024 := by
    push_cast
    ring
  have nearest :=
    isNearest_mul (value?_bytesOverKilo within) value?_ten (by positivity) (by norm_num)
      (product ▸ over_kilo_lt short)
  rw [product] at nearest
  have stands := nearest.value?_eq (isDouble_over_kilo short)
  rwa [Nat.cast_mul, Nat.cast_ofNat] at stands

theorem value?_tenths_and_half
    (within : 10 * bytes + 512 ≤ 2 ^ 53) :
    value? (bytesOverKilo bytes * 10 + 0.5) = some (10 * bytes / 1024 + 1 / 2 : ℚ) := by
  have sum : (10 * bytes / 1024 + 1 / 2 : ℚ) = (10 * bytes + 512 : ℕ) / 1024 := by
    push_cast
    ring
  have nearest :=
    isNearest_add (value?_tenths within) value?_half (by positivity) (by norm_num)
      (sum ▸ over_kilo_lt within)
  rw [sum] at nearest ⊢
  exact nearest.value?_eq (isDouble_over_kilo within)

/-! ## The rounded size -/

/-- The tenths are those of a kilobyte, and a half of one is rounded up. -/
theorem kilobyteTenths_eq
    (within : 10 * bytes + 512 ≤ 2 ^ 53) :
    kilobyteTenths bytes = (10 * bytes + 512) / 1024 := by
  have sum : (10 * bytes / 1024 + 1 / 2 : ℚ) = (10 * bytes + 512 : ℕ) / (1024 : ℕ) := by
    push_cast
    ring
  rw [kilobyteTenths, Decimal.wholePart_eq_floor (value?_tenths_and_half within), sum,
    Nat.floor_div_eq_div]

theorem isNearest_kilobytes
    (within : 10 * bytes + 512 ≤ 2 ^ 53) :
    IsNearest (kilobyteTenths bytes / 10) (kilobytes bytes) := by
  have tenths := kilobyteTenths_eq within
  have converted : value? (Float.ofNat (kilobyteTenths bytes)) = some (kilobyteTenths bytes : ℚ) :=
    value?_ofNat (by omega)
  have notMore : (kilobyteTenths bytes / 10 : ℚ) ≤ 2 ^ (53 : ℤ) :=
    calc
      (kilobyteTenths bytes / 10 : ℚ) ≤ kilobyteTenths bytes :=
        div_le_self (Nat.cast_nonneg _) (by norm_num)
      _ ≤ 2 ^ (53 : ℤ) := by exact_mod_cast (by omega : kilobyteTenths bytes ≤ 2 ^ 53)
  exact
    isNearest_div converted value?_ten (Nat.cast_nonneg _) (by norm_num) (lt_of_le_digits notMore)

/-- What it means that a size is rounded exactly, with a half rounded up. -/
structure IsRoundedHalfUp (bytes : Nat) : Prop where
  /-- The division loses nothing. -/
  quotient : value? (bytesOverKilo bytes) = some (bytes / 1024 : ℚ)
  /-- The multiplication loses nothing. -/
  product : value? (bytesOverKilo bytes * 10) = some (10 * bytes / 1024 : ℚ)
  /-- The addition loses nothing. -/
  sum : value? (bytesOverKilo bytes * 10 + 0.5) = some (10 * bytes / 1024 + 1 / 2 : ℚ)
  tenths : kilobyteTenths bytes = (10 * bytes + 512) / 1024
  halfUp : kilobyteTenths bytes = ⌊(10 * bytes / 1024 + 1 / 2 : ℚ)⌋₊
  /-- The last division is the only step that is rounded. -/
  nearest : IsNearest (kilobyteTenths bytes / 10) (kilobytes bytes)

/-- No operation but the last one rounds. -/
theorem isRoundedHalfUp
    (within : 10 * bytes + 512 ≤ 2 ^ 53) :
    IsRoundedHalfUp bytes where
  quotient := value?_bytesOverKilo within
  product := value?_tenths within
  sum := value?_tenths_and_half within
  tenths := kilobyteTenths_eq within
  halfUp := Decimal.wholePart_eq_floor (value?_tenths_and_half within)
  nearest := isNearest_kilobytes within

/-! ## The order of sizes -/

section Order

variable {fewer : Nat} (notMore : fewer ≤ bytes) (bounded : (bytes : ℚ) < 2 ^ (1023 : ℤ))

include notMore bounded

theorem inOrder_bytesOverKilo :
    InOrder (2 ^ (1013 : ℤ)) (bytesOverKilo fewer) (bytesOverKilo bytes) := by
  have converted := inOrder_ofNat notMore bounded
  have within : (2 ^ (1023 : ℤ) / 1024 : ℚ) ≤ 2 ^ (1013 : ℤ) := by
    rw [div_eq_inv_mul]
    exact mul_two_zpow_le (by norm_num : (1024⁻¹ : ℚ) ≤ 2 ^ (-10 : ℤ)) 1023
  have quotients :=
    converted.div value?_kilo (by norm_num) (isDouble_two_zpow (by norm_num) (by norm_num))
      (two_zpow_lt (by norm_num)) within
  obtain ⟨_, _, stands, otherStands, -⟩ := converted
  rwa [bytesOverKilo, bytesOverKilo, if_pos (isFinite_of_value? stands),
    if_pos (isFinite_of_value? otherStands)]

theorem inOrder_tenths :
    InOrder (2 ^ (1017 : ℤ)) (bytesOverKilo fewer * 10) (bytesOverKilo bytes * 10) := by
  have within : (2 ^ (1013 : ℤ) * 10 : ℚ) ≤ 2 ^ (1017 : ℤ) := by
    rw [mul_comm]
    exact mul_two_zpow_le (by norm_num : (10 : ℚ) ≤ 2 ^ (4 : ℤ)) 1013
  exact
    (inOrder_bytesOverKilo notMore bounded).mul value?_ten (by norm_num)
      (isDouble_two_zpow (by norm_num) (by norm_num)) (two_zpow_lt (by norm_num)) within

theorem inOrder_tenths_and_half :
    InOrder (2 ^ (1018 : ℤ)) (bytesOverKilo fewer * 10 + 0.5) (bytesOverKilo bytes * 10 + 0.5) := by
  have few : (1 / 2 : ℚ) ≤ 2 ^ (1017 : ℤ) :=
    (by norm_num : (1 / 2 : ℚ) ≤ 1).trans (one_le_zpow₀ one_le_two (by norm_num))
  have within : (2 ^ (1017 : ℤ) + 1 / 2 : ℚ) ≤ 2 ^ (1018 : ℤ) :=
    calc
      (2 ^ (1017 : ℤ) + 1 / 2 : ℚ)
        ≤ 2 ^ (1017 : ℤ) + 2 ^ (1017 : ℤ) := by gcongr
      _ = 2 * 2 ^ (1017 : ℤ) := (two_mul _).symm
      _ ≤ 2 ^ (1018 : ℤ) := mul_two_zpow_le (by norm_num : (2 : ℚ) ≤ 2 ^ (1 : ℤ)) 1017
  exact
    (inOrder_tenths notMore bounded).add value?_half (by norm_num)
      (isDouble_two_zpow (by norm_num) (by norm_num)) (two_zpow_lt (by norm_num)) within

/-- Each operation keeps the order, and so do all of them together. -/
theorem kilobyteTenths_le :
    kilobyteTenths fewer ≤ kilobyteTenths bytes ∧
      (kilobyteTenths bytes : ℚ) < 2 ^ (1023 : ℤ) := by
  obtain ⟨_, other, stands, otherStands, isNatural, inOrder, notBeyond⟩ :=
    inOrder_tenths_and_half notMore bounded
  rw [kilobyteTenths, kilobyteTenths, Decimal.wholePart_eq_floor stands,
    Decimal.wholePart_eq_floor otherStands]
  refine ⟨Nat.floor_mono inOrder, ?_⟩
  exact (Nat.floor_le (isNatural.trans inOrder)).trans_lt
    (notBeyond.trans_lt (two_zpow_lt (by norm_num)))

/-- A larger file has no smaller size. -/
theorem kilobytes_le : kilobytes fewer ≤ kilobytes bytes := by
  have tenths := kilobyteTenths_le notMore bounded
  have within : (2 ^ (1023 : ℤ) / 10 : ℚ) ≤ 2 ^ (1020 : ℤ) := by
    rw [div_eq_inv_mul]
    exact mul_two_zpow_le (by norm_num : (10⁻¹ : ℚ) ≤ 2 ^ (-3 : ℤ)) 1023
  have sizes :=
    (inOrder_ofNat tenths.1 tenths.2).div value?_ten (by norm_num)
      (isDouble_two_zpow (by norm_num) (by norm_num)) (two_zpow_lt (by norm_num)) within
  exact sizes.le

end Order

/-- A size that is not near to the largest double can be told. -/
theorem kilobytesOf_eq_ok
    (bounded : (bytes : ℚ) < 2 ^ (1023 : ℤ)) :
    kilobytesOf bytes = .ok (kilobytes bytes) := by
  obtain ⟨_, _, quotientStands, -⟩ := inOrder_bytesOverKilo (Nat.le_refl bytes) bounded
  obtain ⟨_, _, productStands, -⟩ := inOrder_tenths (Nat.le_refl bytes) bounded
  have quotient := isFinite_of_value? quotientStands
  have product := isFinite_of_value? productStands
  simp [kilobytesOf, quotient, product]

/--
A size is rounded exactly, with a half rounded up, as long as its tenths have at most 53
digits.  Whether or not it is, a larger file has no smaller size, and every limit that
refuses a file refuses a larger one.
-/
theorem kilobytes_are_rounded_half_up_in_order (bytes : Nat) :
    (10 * bytes + 512 ≤ 2 ^ 53 → IsRoundedHalfUp bytes) ∧
      (bytes < 2 ^ 1023 →
        kilobytesOf bytes = .ok (kilobytes bytes) ∧
          ∀ fewer ≤ bytes,
            kilobytes fewer ≤ kilobytes bytes ∧
              ∀ limit : Quantity,
                limit.isExceededBy (kilobytes fewer) = true →
                  limit.isExceededBy (kilobytes bytes) = true) := by
  refine ⟨isRoundedHalfUp, fun isFar => ?_⟩
  have bounded : (bytes : ℚ) < 2 ^ (1023 : ℤ) := by exact_mod_cast isFar
  refine ⟨kilobytesOf_eq_ok bounded, fun fewer notMore => ?_⟩
  have inOrder := kilobytes_le notMore bounded
  refine ⟨inOrder, fun limit exceeded => ?_⟩
  rw [Quantity.isExceededBy, decide_eq_true_eq] at exceeded ⊢
  exact Double.lt_of_lt_of_le exceeded inOrder

/-- A quarter of a kilobyte lies in the middle between two tenths and three. -/
theorem quarter_is_rounded_up :
    10 * 256 + 512 ≤ 2 ^ 53 ∧
      kilobyteTenths 256 = 3 ∧
      value? (bytesOverKilo 256 * 10) = some (5 / 2 : ℚ) ∧
      IsNearest (3 / 10) (kilobytes 256) ∧
      kilobytes 255 ≤ kilobytes 256 := by
  have within : 10 * 256 + 512 ≤ 2 ^ 53 := by norm_num
  rcases kilobytes_are_rounded_half_up_in_order 256 with ⟨exact', inOrder⟩
  rcases exact' within with ⟨-, product, -, tenths, -, nearest⟩
  have three : kilobyteTenths 256 = 3 := tenths
  rw [three] at nearest
  norm_num at product nearest
  have isFar : 256 < 2 ^ 1023 :=
    calc
      256 < 2 ^ 9 := by norm_num
      _ ≤ 2 ^ 1023 := by gcongr <;> norm_num
  exact ⟨within, three, product, nearest, ((inOrder isFar).2 255 (by norm_num)).1⟩

end OpenApiGate
