import TextureGraph.Proofs.Binary32.Value

/-!
# Rounded ratios

The library rounds a ratio of naturals by its own integer arithmetic. What comes out is the
nearest number to the ratio, and it is exact for naturals that fit into a significand.
-/

namespace TextureGraph

variable {num den : ℕ}

/-- A power of two as a quotient of naturals. -/
theorem two_zpow_eq (e : ℤ) : (2 : ℚ) ^ e = 2 ^ e.toNat / 2 ^ (-e).toNat := by
  rw [← zpow_natCast, ← zpow_natCast, ← zpow_sub₀ two_ne_zero]
  congr 1
  omega

/-- The binary logarithm of a ratio is the difference of the logarithms, or one less. -/
theorem log_ratio_bounds (num_pos : 0 < num) (den_pos : 0 < den) :
    (num.log2 : ℤ) - den.log2 - 1 ≤ Int.log 2 ((num : ℚ) / den) ∧
      Int.log 2 ((num : ℚ) / den) < (num.log2 : ℤ) - den.log2 + 1 := by
  have den_cast_pos : (0 : ℚ) < den := by exact_mod_cast den_pos
  have ratio_pos : (0 : ℚ) < num / den := div_pos (by exact_mod_cast num_pos) den_cast_pos
  have num_ge : (2 : ℚ) ^ num.log2 ≤ num := by exact_mod_cast Nat.log2_self_le num_pos.ne'
  have num_lt : (num : ℚ) < 2 ^ (num.log2 + 1) := by exact_mod_cast Nat.lt_log2_self
  have den_ge : (2 : ℚ) ^ den.log2 ≤ den := by exact_mod_cast Nat.log2_self_le den_pos.ne'
  have den_lt : (den : ℚ) < 2 ^ (den.log2 + 1) := by exact_mod_cast Nat.lt_log2_self
  constructor
  · rw [← Int.zpow_le_iff_le_log one_lt_two ratio_pos, Nat.cast_ofNat, le_div_iff₀ den_cast_pos]
    calc (2 : ℚ) ^ ((num.log2 : ℤ) - den.log2 - 1) * den
      _ ≤ 2 ^ ((num.log2 : ℤ) - den.log2 - 1) * 2 ^ (den.log2 + 1) := by gcongr
      _ = 2 ^ num.log2 := by
          rw [← zpow_natCast, ← zpow_natCast, ← zpow_add₀ two_ne_zero]
          congr 1
          push_cast
          ring
      _ ≤ num := num_ge
  · rw [← Int.lt_zpow_iff_log_lt one_lt_two ratio_pos, Nat.cast_ofNat, div_lt_iff₀ den_cast_pos]
    calc (num : ℚ)
      _ < 2 ^ (num.log2 + 1) := num_lt
      _ = 2 ^ ((num.log2 : ℤ) - den.log2 + 1) * 2 ^ den.log2 := by
          rw [← zpow_natCast, ← zpow_natCast, ← zpow_add₀ two_ne_zero]
          congr 1
          push_cast
          ring
      _ ≤ 2 ^ ((num.log2 : ℤ) - den.log2 + 1) * den := by gcongr

theorem floorLog2_eq_log (num_pos : 0 < num) (den_pos : 0 < den) :
    floorLog2 num den = Int.log 2 ((num : ℚ) / den) := by
  have den_cast_pos : (0 : ℚ) < den := by exact_mod_cast den_pos
  have ratio_pos : (0 : ℚ) < num / den := div_pos (by exact_mod_cast num_pos) den_cast_pos
  obtain ⟨lower, upper⟩ := log_ratio_bounds num_pos den_pos
  set guess : ℤ := (num.log2 : ℤ) - den.log2 with guess_def
  have reached_iff : den * Nat.pow 2 guess.toNat ≤ num * Nat.pow 2 (-guess).toNat ↔
      guess ≤ Int.log 2 ((num : ℚ) / den) := by
    rw [← Int.zpow_le_iff_le_log one_lt_two ratio_pos, Nat.cast_ofNat, two_zpow_eq,
      div_le_div_iff₀ (by positivity) den_cast_pos, mul_comm ((2 : ℚ) ^ guess.toNat)]
    exact_mod_cast Iff.rfl
  unfold floorLog2
  simp only [← guess_def, reached_iff]
  split <;> omega

namespace Binary32

theorem round_eq (num_pos : 0 < num) (den_pos : 0 < den) :
    FloatFormat.binary32.round num den =
      (roundEven ((num : ℚ) / den / 2 ^ lastPlace ((num : ℚ) / den)),
        lastPlace ((num : ℚ) / den)) := by
  have place_eq : max (floorLog2 num den + 1 - FloatFormat.binary32.precision)
      FloatFormat.binary32.minExponent = lastPlace ((num : ℚ) / den) := by
    rw [floorLog2_eq_log num_pos den_pos]
    simp only [lastPlace, FloatFormat.binary32]
    omega
  have significand_eq (e : ℤ) :
      roundQuotient (num * Nat.pow 2 (-e).toNat) (den * Nat.pow 2 e.toNat) =
        roundEven ((num : ℚ) / den / 2 ^ e) := by
    rw [Nat.pow_eq, Nat.pow_eq, two_zpow_eq,
      roundQuotient_eq_roundEven _ (Nat.mul_pos den_pos (Nat.two_pow_pos _))]
    congr 1
    push_cast
    field_simp
  simp only [FloatFormat.round, if_neg num_pos.ne', place_eq, significand_eq]

theorem magnitude_ofSignificand (negative : Bool) (significand : ℕ) (exponent : ℤ) :
    (ofSignificand negative (significand, exponent)).magnitude =
      min (code significand exponent) infinityMagnitude := by
  rw [ofSignificand, magnitude_ofMagnitude ((min_le_right _ _).trans_lt (by decide)), code]

theorem magnitude_ofRatio (negative : Bool) (num : ℕ) (den_pos : 0 < den) :
    (ofRatio negative num den).magnitude = nearestMagnitude (num / den) := by
  rcases Nat.eq_zero_or_pos num with rfl | num_pos
  · rw [Nat.cast_zero, zero_div, nearestMagnitude_of_nonpos le_rfl, ofRatio, FloatFormat.round,
      if_pos rfl, magnitude_ofSignificand]
    simp [code, FloatFormat.binary32]
  · have ratio_pos : (0 : ℚ) < num / den :=
      div_pos (by exact_mod_cast num_pos) (by exact_mod_cast den_pos)
    rw [ofRatio, round_eq num_pos den_pos, magnitude_ofSignificand, nearestMagnitude,
      if_pos ratio_pos]

theorem isNegative_ofRatio (negative : Bool) (num den : ℕ) :
    (ofRatio negative num den).isNegative = negative :=
  isNegative_ofMagnitude ((min_le_right _ _).trans_lt (by decide)) negative

theorem isNearest_ofRatio (negative : Bool) (num : ℕ) (den_pos : 0 < den) :
    (ofRatio negative num den).IsNearest (signed negative (num / den)) := by
  have nearest := isNearest_of_magnitude_eq (by positivity) (magnitude_ofRatio negative num den_pos)
  rwa [isNegative_ofRatio] at nearest

theorem ofScaled_eq_ofRatio (negative : Bool) (n : ℕ) (e : ℤ) :
    ofScaled negative n e = ofRatio negative (n * 2 ^ e.toNat) (2 ^ (-e).toNat) := by
  unfold ofScaled ofRatio FloatFormat.roundScaled
  rw [Nat.one_mul]
  rfl

theorem isNearest_ofScaled (negative : Bool) (n : ℕ) (e : ℤ) :
    (ofScaled negative n e).IsNearest (signed negative (n * 2 ^ e)) := by
  have nearest :=
    isNearest_ofRatio negative (n * 2 ^ e.toNat) (Nat.two_pow_pos (-e).toNat)
  rw [← ofScaled_eq_ofRatio] at nearest
  rw [two_zpow_eq, ← mul_div_assoc]
  exact_mod_cast nearest

theorem isNearest_ofNat (n : ℕ) : (Binary32.ofNat n).IsNearest n := by
  have nearest := isNearest_ofRatio false n one_pos
  rwa [Nat.cast_one, div_one] at nearest

/-- Integers that fit into a significand are numbers. -/
theorem ofSigned_exact {n : ℕ} (n_lt : n < 2 ^ 24) (negative : Bool) :
    (ofSigned negative n).isFinite ∧ (ofSigned negative n).value = signed negative n := by
  have cast_lt : (n : ℚ) < 2 ^ 24 := by exact_mod_cast n_lt
  have nearest := isNearest_ofRatio negative n one_pos
  rw [Nat.cast_one, div_one] at nearest
  refine nearest.eq_of_exact (e := 0) ?_ n_lt (by norm_num) ?_
  · rw [abs_signed, Nat.abs_cast, zpow_zero, mul_one]
  · rw [abs_signed, Nat.abs_cast]
    exact cast_lt.trans (by norm_num)

theorem ofNat_exact {n : ℕ} (n_lt : n < 2 ^ 24) :
    (Binary32.ofNat n).isFinite ∧ (Binary32.ofNat n).value = n :=
  ofSigned_exact n_lt false

/-! ## Zero and one -/

variable {x : Binary32}

theorem isFinite_zero : (0 : Binary32).isFinite :=
  (ofNat_exact (n := 0) (by norm_num)).1

theorem value_zero : (0 : Binary32).value = 0 :=
  (ofNat_exact (n := 0) (by norm_num)).2.trans Nat.cast_zero

theorem isFinite_one : (1 : Binary32).isFinite :=
  (ofNat_exact (n := 1) (by norm_num)).1

theorem value_one : (1 : Binary32).value = 1 :=
  (ofNat_exact (n := 1) (by norm_num)).2.trans Nat.cast_one

theorem lt_zero_iff (finite : x.isFinite) : x < 0 ↔ x.value < 0 := by
  rw [lt_iff_value_lt finite isFinite_zero, value_zero]

theorem zero_le_iff (finite : x.isFinite) : 0 ≤ x ↔ 0 ≤ x.value := by
  rw [le_iff_value_le isFinite_zero finite, value_zero]

end Binary32

end TextureGraph
