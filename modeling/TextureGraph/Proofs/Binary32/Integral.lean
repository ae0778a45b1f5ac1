import TextureGraph.Proofs.Binary32.Arithmetic

/-!
# Integral parts and exact remainders

Floor and remainder lose nothing: the rational that is meant is the value of a number. Only the
sum that lifts a negative remainder is rounded, so that a lifted remainder lies between zero
and the divisor, both included.
-/

namespace TextureGraph

namespace Binary32

variable {x y : Binary32}

/-! ## Sizes -/

theorem modulus_lt (finite : x.isFinite) : x.modulus < 2 ^ 128 := by
  have below := isFinite_iff.mp finite
  have stands := x.placed
  have exponent_le : x.exponent ≤ 104 := by
    unfold exponent
    unfold infinityMagnitude at below
    split <;> omega
  have significand_lt : (x.significand : ℚ) < 2 ^ 24 := by exact_mod_cast stands.significand_lt
  calc x.modulus
    _ < 2 ^ 24 * 2 ^ x.exponent := by
        unfold modulus
        gcongr
    _ ≤ 2 ^ 24 * 2 ^ (104 : ℤ) := by
        gcongr
        exact one_le_two
    _ = 2 ^ 128 := by norm_num

/-! ## Integral parts -/

theorem unitScale_cast (binary : x.exponent < 0) : (x.unitScale : ℚ) = 2 ^ (-x.exponent) := by
  unfold unitScale
  rw [Nat.pow_eq, Nat.cast_pow, Nat.cast_ofNat, ← zpow_natCast, Int.toNat_of_nonneg (by omega)]

theorem isWhole_iff : x.isWhole ↔ 0 ≤ x.exponent := by
  simp [isWhole]

/-- Size in units of the last place, for a number with binary places. -/
theorem modulus_eq_div (binary : x.exponent < 0) :
    x.modulus = (x.significand : ℚ) / x.unitScale := by
  rw [unitScale_cast binary, zpow_neg, div_inv_eq_mul, modulus]

theorem modulus_eq_wholePart (whole : 0 ≤ x.exponent) : x.modulus = x.wholePart := by
  rw [wholePart, if_pos (isWhole_iff.mpr whole), modulus, ← Int.toNat_of_nonneg whole,
    zpow_natCast, Int.toNat_natCast]
  exact_mod_cast rfl

theorem wholePart_eq (x : Binary32) : x.wholePart = ⌊x.modulus⌋₊ := by
  by_cases whole : 0 ≤ x.exponent
  · rw [modulus_eq_wholePart whole, Nat.floor_natCast]
  · rw [modulus_eq_div (not_le.mp whole), Nat.floor_div_eq_div, wholePart,
      if_neg (mt isWhole_iff.mp whole)]

theorem unitScale_pos (x : Binary32) : 0 < x.unitScale :=
  Nat.two_pow_pos _

theorem two_le_unitScale (binary : x.exponent < 0) : 2 ≤ x.unitScale := by
  have one_le : 1 ≤ (-x.exponent).toNat := by omega
  exact Nat.pow_le_pow_right two_pos one_le

/-- The integer that rounding away from zero gives for a negative ratio. -/
theorem floor_neg_ratio (num : ℕ) {den : ℕ} (den_pos : 0 < den) :
    ⌊-((num : ℚ) / den)⌋ = -(((num + (den - 1)) / den : ℕ) : ℤ) := by
  have den_cast_pos : (0 : ℚ) < den := by exact_mod_cast den_pos
  set n := (num + (den - 1)) / den with n_def
  have le : n * den ≤ num + (den - 1) := Nat.div_mul_le_self _ _
  have lt : num + (den - 1) < (n + 1) * den := Nat.lt_mul_of_div_lt (Nat.lt_succ_self _) den_pos
  have above : num ≤ n * den := by
    rw [Nat.add_mul] at lt
    omega
  have below : n * den < num + den := by omega
  rw [Int.floor_eq_iff]
  push_cast
  constructor
  · rw [neg_le_neg_iff, div_le_iff₀ den_cast_pos]
    exact_mod_cast above
  · have ratio_gt : (n : ℚ) < num / den + 1 := by
      rw [← div_self den_cast_pos.ne', ← add_div, lt_div_iff₀ den_cast_pos]
      exact_mod_cast below
    linarith

/-- Rounding down to an integer is exact. -/
theorem floor_exact (finite : x.isFinite) : x.floor.isFinite ∧ x.floor.value = ⌊x.value⌋ := by
  unfold floor
  by_cases whole : 0 ≤ x.exponent
  · have value_eq : x.value = (if x.isNegative then -(x.wholePart : ℤ) else x.wholePart : ℤ) := by
      rw [value, modulus_eq_wholePart whole]
      cases x.isNegative <;> simp [signed]
    rw [if_pos (isWhole_iff.mpr whole)]
    refine ⟨finite, ?_⟩
    rw [value_eq, Int.floor_intCast]
  · have binary := not_le.mp whole
    have significand_lt := x.placed.significand_lt
    have value_eq : x.value = signed x.isNegative (x.significand / x.unitScale) := by
      rw [value, modulus_eq_div binary]
    rw [if_neg (mt isWhole_iff.mp whole), value_eq]
    cases x.isNegative with
    | true =>
      have n_lt : (x.significand + (x.unitScale - 1)) / x.unitScale < 2 ^ 24 := by
        have two_le := two_le_unitScale binary
        rw [Nat.div_lt_iff_lt_mul x.unitScale_pos]
        omega
      obtain ⟨exactFinite, exactValue⟩ := ofSigned_exact n_lt true
      refine ⟨exactFinite, exactValue.trans ?_⟩
      rw [signed, signed, if_pos rfl, if_pos rfl, floor_neg_ratio _ x.unitScale_pos]
      push_cast
      rfl
    | false =>
      have n_lt : x.significand / x.unitScale < 2 ^ 24 :=
        (Nat.div_le_self _ _).trans_lt significand_lt
      obtain ⟨exactFinite, exactValue⟩ := ofSigned_exact n_lt false
      refine ⟨exactFinite, exactValue.trans ?_⟩
      rw [signed, signed, if_neg Bool.false_ne_true, if_neg Bool.false_ne_true,
        Rat.floor_natCast_div_natCast]
      exact_mod_cast rfl

/-- Truncation of a number that is not negative. A negative zero counts as zero. -/
theorem toIntClamped_of_nonneg (number : x.isNaN = false) (nonneg : 0 ≤ x.value) {low high : ℤ}
    (low_le : low ≤ 0) (le_high : 0 ≤ high) :
    x.toIntClamped low high = min high ⌊x.value⌋₊ := by
  have signed_eq : (if x.isNegative then -(x.wholePart : ℤ) else x.wholePart) = ⌊x.value⌋₊ := by
    rw [value] at nonneg ⊢
    rw [wholePart_eq]
    cases negative : x.isNegative with
    | true =>
      have modulus_eq : x.modulus = 0 := by
        rw [negative, signed, if_pos rfl] at nonneg
        linarith [x.modulus_nonneg]
      simp [signed, modulus_eq]
    | false => rfl
  rw [toIntClamped, if_neg (by rw [number]; exact Bool.false_ne_true), signed_eq]
  omega

/-- Rounding down and truncation agree on what is not negative. -/
theorem toNat32_floor (finite : x.isFinite) (nonneg : 0 ≤ x.value) (lt : x.value < 2 ^ 32) :
    x.floor.toNat32 = ⌊x.value⌋₊ := by
  obtain ⟨floorFinite, floor_value⟩ := floor_exact finite
  have floor_eq : (⌊x.value⌋ : ℚ) = (⌊x.value⌋₊ : ℕ) := by
    rw [← Int.natCast_floor_eq_floor nonneg]
    exact_mod_cast rfl
  rw [floor_eq] at floor_value
  have floor_lt : ⌊x.value⌋₊ < 2 ^ 32 := (Nat.floor_lt nonneg).mpr (by exact_mod_cast lt)
  have clamped : x.floor.toIntClamped 0 0xffffffff = min 0xffffffff (⌊x.floor.value⌋₊ : ℤ) :=
    toIntClamped_of_nonneg (isNaN_eq_false_of_isFinite floorFinite)
      (by rw [floor_value]; positivity) le_rfl (by norm_num)
  rw [toNat32, clamped, floor_value, Nat.floor_natCast]
  omega

/-! ## Remainders -/

theorem remainder_of_not_isFinite (infinite : ¬ x.isFinite) (y : Binary32) :
    x.remainder y = nan := by
  unfold remainder
  rw [if_pos (by simp [infinite])]

/-- The remainder of finite numbers is exact, and it is smaller than the divisor. -/
theorem remainder_exact (xFinite : x.isFinite) (yFinite : y.isFinite)
    (nonzero : y.magnitude ≠ 0) :
    ∃ (quotient : ℕ) (rest : ℚ), x.modulus = quotient * y.modulus + rest ∧ 0 ≤ rest ∧
      rest < y.modulus ∧ (x.remainder y).isFinite ∧
      (x.remainder y).value = signed x.isNegative rest := by
  set place := min x.exponent y.exponent with place_def
  set dividend := x.significand * 2 ^ (x.exponent - place).toNat with dividend_def
  set divisor := y.significand * 2 ^ (y.exponent - place).toNat with divisor_def
  have remainder_eq : x.remainder y = ofScaled x.isNegative (dividend % divisor) place := by
    have operands : ¬ (x.isNaN || y.isNaN || !x.isFinite || y.magnitude == 0) := by
      simp [isNaN_eq_false_of_isFinite, xFinite, yFinite, nonzero]
    rw [remainder, if_neg operands, if_neg (by simp [yFinite])]
    rfl
  have aligned (s : ℕ) {e : ℤ} (le : place ≤ e) :
      ((s * 2 ^ (e - place).toNat : ℕ) : ℚ) * 2 ^ place = s * 2 ^ e := by
    rw [Nat.cast_mul, Nat.cast_pow, Nat.cast_ofNat, ← zpow_natCast,
      Int.toNat_of_nonneg (by omega), mul_assoc, ← zpow_add₀ two_ne_zero, sub_add_cancel]
  have dividend_eq : (dividend : ℚ) * 2 ^ place = x.modulus := aligned _ (min_le_left _ _)
  have divisor_eq : (divisor : ℚ) * 2 ^ place = y.modulus := aligned _ (min_le_right _ _)
  have divisor_pos : 0 < divisor :=
    Nat.mul_pos (significand_pos nonzero) (Nat.two_pow_pos _)
  have rest_lt : dividend % divisor < divisor := Nat.mod_lt _ divisor_pos
  have rest_fits : dividend % divisor < 2 ^ 24 := by
    -- At the smaller exponent one of the two is a significand.
    rcases le_total x.exponent y.exponent with le | le
    · have dividend_fits : dividend < 2 ^ 24 := by
        simpa [dividend_def, place_def, min_eq_left le] using x.placed.significand_lt
      exact (Nat.mod_le _ _).trans_lt dividend_fits
    · have divisor_fits : divisor < 2 ^ 24 := by
        simpa [divisor_def, place_def, min_eq_right le] using y.placed.significand_lt
      exact rest_lt.trans divisor_fits
  have rest_lt_modulus : ((dividend % divisor : ℕ) : ℚ) * 2 ^ place < y.modulus := by
    rw [← divisor_eq]
    gcongr
  have abs_eq : |signed x.isNegative ((dividend % divisor : ℕ) * 2 ^ place)| =
      (dividend % divisor : ℕ) * 2 ^ place := by
    rw [abs_signed, abs_of_nonneg (by positivity)]
  refine ⟨dividend / divisor, (dividend % divisor : ℕ) * 2 ^ place, ?_, by positivity,
    rest_lt_modulus, ?_⟩
  · have split : ((divisor * (dividend / divisor) + dividend % divisor : ℕ) : ℚ) = dividend := by
      rw [Nat.div_add_mod]
    rw [← dividend_eq, ← divisor_eq, ← split]
    push_cast
    ring
  · rw [remainder_eq]
    refine (isNearest_ofScaled _ _ _).eq_of_exact abs_eq rest_fits
      (le_min x.placed.least_le y.placed.least_le) ?_
    rw [abs_eq]
    exact rest_lt_modulus.trans (modulus_lt yFinite)

theorem abs_remainder_lt (xFinite : x.isFinite) (yFinite : y.isFinite)
    (nonzero : y.magnitude ≠ 0) :
    (x.remainder y).isFinite ∧ |(x.remainder y).value| < y.modulus := by
  obtain ⟨-, rest, -, rest_nonneg, rest_lt, finite, value_eq⟩ :=
    remainder_exact xFinite yFinite nonzero
  refine ⟨finite, ?_⟩
  rwa [value_eq, abs_signed, abs_of_nonneg rest_nonneg]

/-! ## Lifted remainders -/

theorem toNat_abs (x : Binary32) : x.abs.bits.toNat = x.magnitude := by
  have mask : (0x7fffffff : UInt32).toNat = 2 ^ 31 - 1 := rfl
  rw [abs, UInt32.toNat_and, mask, Nat.and_two_pow_sub_one_eq_mod, magnitude]

theorem magnitude_abs (x : Binary32) : x.abs.magnitude = x.magnitude := by
  rw [magnitude, toNat_abs, Nat.mod_eq_of_lt x.magnitude_lt]

theorem isFinite_abs (finite : x.isFinite) : x.abs.isFinite := by
  rwa [isFinite_iff, magnitude_abs, ← isFinite_iff]

theorem value_abs (x : Binary32) : x.abs.value = x.modulus := by
  have positive : x.abs.isNegative = false := by
    rw [isNegative, toNat_abs, decide_eq_false_iff_not, not_le]
    exact x.magnitude_lt
  rw [value, positive, signed, if_neg Bool.false_ne_true,
    modulus_eq_of_magnitude_eq x.magnitude_abs]

theorem remEuclid_of_not_isFinite (infinite : ¬ x.isFinite) (y : Binary32) :
    x.remEuclid y = nan := by
  have not_lt : ¬ nan < 0 := by decide
  rw [remEuclid, remainder_of_not_isFinite infinite, if_neg not_lt]

/-- The lifting sum is rounded, so that a lifted remainder may be as large as the divisor. -/
theorem remEuclid_bounds (xFinite : x.isFinite) (yFinite : y.isFinite)
    (nonzero : y.magnitude ≠ 0) : 0 ≤ x.remEuclid y ∧ x.remEuclid y ≤ y.abs := by
  obtain ⟨finite, size_lt⟩ := abs_remainder_lt xFinite yFinite nonzero
  have absFinite := isFinite_abs yFinite
  rw [abs_lt] at size_lt
  rw [remEuclid]
  simp only [lt_zero_iff finite]
  split_ifs with negative
  · have nearest := isNearest_add finite absFinite
    rw [value_abs] at nearest
    exact ⟨nearest.le_of_value_le isFinite_zero (by rw [value_zero]; linarith),
      nearest.le_of_le_value absFinite (by rw [value_abs]; linarith)⟩
  · rw [zero_le_iff finite, le_iff_value_le finite absFinite, value_abs]
    exact ⟨not_lt.mp negative, size_lt.2.le⟩

end Binary32

end TextureGraph
