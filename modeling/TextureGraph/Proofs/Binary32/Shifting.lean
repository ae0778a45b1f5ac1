import TextureGraph.Proofs.Binary32.Datum

/-!
# Rounding by residual bits

The machine's arithmetic rounds a significand after shifting it to the right. Of the places
that fall off it keeps two bits: the first one, and whether any of the others was set. They
say where the exact number lies between two significands, which is all that rounding to the
nearest asks for.
-/

namespace TextureGraph

namespace Binary32

open Float.Model (Format UnpackedFloat totalExponent)
open Float.Model.UnpackedFloat

/-! ## Residual bits -/

/-- A significand with its residual bits says where a rational lies. -/
structure Describes (em : ExtendedMantissa) (q : ℚ) : Prop where
  le : em.mantissa ≤ q
  lt : q < em.mantissa + 1
  roundBit_iff : em.roundBit ↔ em.mantissa + 1 / 2 ≤ q
  stickyBit_iff : em.stickyBit ↔ q ≠ em.mantissa ∧ q ≠ em.mantissa + 1 / 2

namespace Describes

variable {em : ExtendedMantissa} {q : ℚ}

theorem floor_eq (describes : Describes em q) : ⌊q⌋₊ = em.mantissa :=
  (Nat.floor_eq_iff ((Nat.cast_nonneg _).trans describes.le)).mpr ⟨describes.le, describes.lt⟩

/-- The residual bits are enough to round to the nearest. -/
theorem roundedMantissa_eq (describes : Describes em q) : em.roundedMantissa = roundEven q := by
  have floor_eq := describes.floor_eq
  obtain ⟨le, lt, roundBit_iff, stickyBit_iff⟩ := describes
  obtain ⟨m, roundBit, stickyBit⟩ := em
  simp only at le lt roundBit_iff stickyBit_iff floor_eq
  rw [roundEven, floor_eq]
  cases roundBit with
  | false =>
    have below : q < m + 1 / 2 := not_le.mp (by simpa using roundBit_iff)
    rw [if_pos (by linarith)]
    cases stickyBit <;> rfl
  | true =>
    have above : m + 1 / 2 ≤ q := by simpa using roundBit_iff
    rw [if_neg (by linarith)]
    cases stickyBit with
    | false =>
      have tie : q = m + 1 / 2 := by
        by_contra apart
        have off : q ≠ m := by linarith
        exact Bool.false_ne_true (stickyBit_iff.mpr ⟨off, apart⟩)
      rw [if_neg (by linarith)]
      rfl
    | true =>
      have apart : q ≠ m + 1 / 2 := (stickyBit_iff.mp rfl).2
      have past := lt_of_le_of_ne above apart.symm
      rw [if_pos (by linarith)]
      rfl

theorem residue_iff (describes : Describes em q) :
    (em.roundBit || em.stickyBit) ↔ q ≠ em.mantissa := by
  rw [Bool.or_eq_true, describes.roundBit_iff, describes.stickyBit_iff]
  constructor
  · rintro (above | ⟨off, -⟩)
    · linarith
    · exact off
  · intro off
    by_cases tie : q = em.mantissa + 1 / 2
    · exact .inl tie.ge
    · exact .inr ⟨off, tie⟩

/-- One more place falls off. -/
theorem shiftRightOne (describes : Describes em q) : Describes em.shiftRightOne (q / 2) := by
  have residue_iff := describes.residue_iff
  obtain ⟨le, lt, -, -⟩ := describes
  obtain ⟨m, roundBit, stickyBit⟩ := em
  simp only at le lt residue_iff
  rcases Nat.even_or_odd' m with ⟨n, rfl | rfl⟩
  · have shifted : ExtendedMantissa.shiftRightOne ⟨2 * n, roundBit, stickyBit⟩ =
        ⟨n, false, roundBit || stickyBit⟩ := by
      simp [ExtendedMantissa.shiftRightOne]
    rw [shifted]
    push_cast at le lt residue_iff
    constructor <;> simp only
    · linarith
    · linarith
    · simp only [Bool.false_eq_true, false_iff]
      linarith
    · rw [residue_iff]
      constructor
      · intro off
        exact ⟨fun whole => off (by linarith), by linarith⟩
      · rintro ⟨off, -⟩ whole
        exact off (by linarith)
  · have shifted : ExtendedMantissa.shiftRightOne ⟨2 * n + 1, roundBit, stickyBit⟩ =
        ⟨n, true, roundBit || stickyBit⟩ := by
      simp [ExtendedMantissa.shiftRightOne]
      omega
    rw [shifted]
    push_cast at le lt residue_iff
    constructor <;> simp only
    · linarith
    · linarith
    · simp only [true_iff]
      linarith
    · rw [residue_iff]
      constructor
      · intro off
        exact ⟨by linarith, fun tie => off (by linarith)⟩
      · rintro ⟨-, off⟩ whole
        exact off (by linarith)

theorem shiftRight (describes : Describes em q) (n : ℕ) : Describes (em >>> n) (q / 2 ^ n) := by
  change Describes (n.repeat ExtendedMantissa.shiftRightOne em) _
  induction n with
  | zero => rwa [pow_zero, div_one]
  | succ n inductionHypothesis =>
    rw [Nat.repeat, pow_succ, div_mul_eq_div_div]
    exact inductionHypothesis.shiftRightOne

end Describes

@[simp]
theorem mantissa_ofMantissaAndAccuracy (m : ℕ) (accuracy : Accuracy) :
    (ExtendedMantissa.ofMantissaAndAccuracy m accuracy).mantissa = m := by
  cases accuracy with
  | exact => rfl
  | inexact order => cases order <;> rfl

theorem describes_exact (m : ℕ) :
    Describes (ExtendedMantissa.ofMantissaAndAccuracy m .exact) m where
  le := le_rfl
  lt := lt_add_one _
  roundBit_iff := by simp [ExtendedMantissa.ofMantissaAndAccuracy]
  stickyBit_iff := by simp [ExtendedMantissa.ofMantissaAndAccuracy]

theorem describes_inexact {m : ℕ} {q : ℚ} {order : Ordering} (above : m < q)
    (below : q < m + 1) (half_le_iff : order ≠ .lt ↔ m + 1 / 2 ≤ q)
    (tie_iff : order = .eq ↔ q = m + 1 / 2) :
    Describes (ExtendedMantissa.ofMantissaAndAccuracy m (.inexact order)) q := by
  have off : q ≠ m := above.ne'
  constructor
  · rw [mantissa_ofMantissaAndAccuracy]
    exact above.le
  · rwa [mantissa_ofMantissaAndAccuracy]
  · cases order <;> simpa [ExtendedMantissa.ofMantissaAndAccuracy] using half_le_iff
  · cases order <;> simpa [ExtendedMantissa.ofMantissaAndAccuracy, off] using tie_iff

/-- The remainder of a division says where the exact quotient lies. -/
theorem describes_quotient (num : ℕ) {den : ℕ} (den_pos : 0 < den) :
    Describes
      (ExtendedMantissa.ofMantissaAndAccuracy (num / den) (accuracyOfFraction (num % den) den))
      (num / den) := by
  have den_cast_pos : (0 : ℚ) < den := by exact_mod_cast den_pos
  have rest_eq := ratio_sub_quotient num den_pos
  have rest_lt : ((num % den : ℕ) : ℚ) / den < 1 := by
    rw [div_lt_one den_cast_pos]
    exact_mod_cast Nat.mod_lt _ den_pos
  have double : 2 * (((num % den : ℕ) : ℚ) / den) = (2 * (num % den) : ℕ) / den := by
    push_cast
    ring
  unfold accuracyOfFraction
  split_ifs with whole
  · rw [whole, Nat.cast_zero, zero_div, sub_eq_zero] at rest_eq
    rw [rest_eq]
    exact describes_exact _
  · have rest_pos : 0 < ((num % den : ℕ) : ℚ) / den :=
      div_pos (by exact_mod_cast Nat.pos_of_ne_zero whole) den_cast_pos
    have half_le_iff : den ≤ 2 * (num % den) ↔ 1 ≤ 2 * (((num % den : ℕ) : ℚ) / den) := by
      rw [double, one_le_div den_cast_pos]
      exact_mod_cast Iff.rfl
    have tie_iff : 2 * (num % den) = den ↔ 2 * (((num % den : ℕ) : ℚ) / den) = 1 := by
      rw [double, div_eq_one_iff_eq den_cast_pos.ne']
      exact_mod_cast Iff.rfl
    refine describes_inexact (by linarith) (by linarith) ?_ ?_
    · rw [Ne, Nat.compare_eq_lt, not_lt, half_le_iff]
      constructor <;> intro <;> linarith
    · rw [Nat.compare_eq_eq, tie_iff]
      constructor <;> intro <;> linarith

/-! ## Shifting to the last place -/

theorem targetExponent_eq (e : ℤ) : Format.binary32.targetExponent e = max (e - 24) (-149) :=
  rfl

/-- The leading bit of a significand says where the last place of the nearest number is. A
significand may be zero only where that is the least place. -/
theorem targetExponent_totalExponent {m : ℕ} {accuracy : Accuracy} {q : ℚ} {e : ℤ}
    (describes : Describes (ExtendedMantissa.ofMantissaAndAccuracy m accuracy) q) (q_pos : 0 < q)
    (enough : 0 < m ∨ e ≤ -149) :
    Format.binary32.targetExponent (totalExponent m e) = lastPlace (q * 2 ^ e) := by
  have le := describes.le
  have lt := describes.lt
  rw [mantissa_ofMantissaAndAccuracy] at le lt
  rw [targetExponent_eq, lastPlace, log_mul_two_zpow q_pos, totalExponent]
  rcases Nat.eq_zero_or_pos m with rfl | m_pos
  · rw [Nat.cast_zero, zero_add] at lt
    have log_neg : Int.log 2 q < 0 := by
      rwa [← Int.lt_zpow_iff_log_lt one_lt_two q_pos, zpow_zero]
    have log2_zero : Nat.log2 0 = 0 := rfl
    rw [log2_zero]
    omega
  · rw [log_eq_log2 m_pos le lt]
    omega

/-- Shifting to the right keeps what a significand says of a number. -/
theorem describes_shiftToExponent {m : ℕ} {accuracy : Accuracy} {q : ℚ} {e target : ℤ}
    (describes : Describes (ExtendedMantissa.ofMantissaAndAccuracy m accuracy) q)
    (e_le : e ≤ target) :
    Describes (shiftToExponent m e accuracy target).1 (q * 2 ^ e / 2 ^ target) ∧
      (shiftToExponent m e accuracy target).2 = target := by
  have shift : q * 2 ^ e / 2 ^ target = q / 2 ^ (target - e).toNat := by
    rw [← zpow_natCast, Int.toNat_of_nonneg (by omega), mul_div_assoc, ← zpow_sub₀ two_ne_zero,
      ← neg_sub target e, zpow_neg, div_eq_mul_inv]
  refine ⟨shift ▸ describes.shiftRight _, ?_⟩
  simp only [shiftToExponent]
  omega

/-- Shifting changes nothing where a significand fits already. -/
theorem shiftToTargetExponent_of_lt {m : ℕ} (m_lt : m < 2 ^ 24) {e : ℤ} (least_le : -149 ≤ e) :
    shiftToTargetExponent .binary32 m e .exact = (⟨m, false, false⟩, e) := by
  have log_lt : m.log2 < 24 := by
    rw [Nat.log2_eq_log_two]
    exact Nat.log_lt_of_lt_pow' (by decide) m_lt
  have shift_zero : (Format.binary32.targetExponent (totalExponent m e) - e).toNat = 0 := by
    rw [targetExponent_eq]
    unfold totalExponent
    omega
  simp only [shiftToTargetExponent, shiftToExponent, shift_zero, Nat.cast_zero, add_zero]
  rfl

/-- A carry out of the leading place is shifted back. -/
theorem shiftToTargetExponent_carry {e : ℤ} (least_le : -149 ≤ e) :
    shiftToTargetExponent .binary32 (2 ^ 24) e .exact = (⟨2 ^ 23, false, false⟩, e + 1) := by
  have shift_one :
      (Format.binary32.targetExponent (totalExponent (2 ^ 24) e) - e).toNat = 1 := by
    rw [targetExponent_eq]
    unfold totalExponent
    rw [Nat.log2_two_pow]
    omega
  simp only [shiftToTargetExponent, shiftToExponent, shift_one, Nat.cast_one]
  rfl

/-- A rounded significand is carried into the format; its pattern stays the same. -/
theorem exists_carried {m : ℕ} {e : ℤ} (m_le : m ≤ 2 ^ 24) (least_le : -149 ≤ e)
    (leading : 2 ^ 23 ≤ m ∨ e = -149) :
    ∃ n f, Placed n f ∧ code n f = code m e ∧
      shiftToTargetExponent .binary32 m e .exact = (⟨n, false, false⟩, f) := by
  rcases m_le.lt_or_eq with m_lt | rfl
  · exact ⟨m, e, ⟨m_lt, least_le, leading⟩, rfl, shiftToTargetExponent_of_lt m_lt least_le⟩
  · refine ⟨2 ^ 23, e + 1, ⟨by norm_num, by omega, .inl le_rfl⟩, ?_,
      shiftToTargetExponent_carry least_le⟩
    unfold code
    omega

/-! ## Rounding -/

/-- Rounding a significand with what is known of the places behind it gives the nearest
number, if enough places are given. -/
theorem isNearest_roundWithAccuracy {m : ℕ} {accuracy : Accuracy} {q : ℚ} {e : ℤ} (sign : Sign)
    (describes : Describes (ExtendedMantissa.ofMantissaAndAccuracy m accuracy) q)
    (q_pos : 0 < q) (enough : 0 < m ∨ e ≤ -149) (e_le : e ≤ lastPlace (q * 2 ^ e)) :
    (ofDatum (roundWithAccuracy .binary32 sign m e accuracy)).IsNearest
      (signed (signBit sign) (q * 2 ^ e)) := by
  have v_pos : 0 < q * 2 ^ e := by positivity
  have target_eq := targetExponent_totalExponent describes q_pos enough
  set v := q * 2 ^ e with v_def
  have least_le : -149 ≤ lastPlace v := le_max_right _ _
  obtain ⟨shifted, place_eq⟩ := describes_shiftToExponent describes e_le
  rw [← v_def] at shifted
  have leading : 2 ^ 23 ≤ roundEven (v / 2 ^ lastPlace v) ∨ lastPlace v = -149 := by
    rcases least_le.lt_or_eq with above | least
    · exact .inl (le_roundEven_scaled v_pos above)
    · exact .inr least.symm
  obtain ⟨n, f, stands, code_eq, carried⟩ :=
    exists_carried (roundEven_scaled_le v) least_le leading
  have magnitude_eq : nearestMagnitude v = min (code n f) infinityMagnitude := by
    rw [nearestMagnitude, if_pos v_pos, code_eq]
  have round_eq : roundWithAccuracy .binary32 sign m e accuracy =
      if n_zero : n = 0 then .zero sign else .finite sign n f (Nat.pos_of_ne_zero n_zero) := by
    have first : shiftToTargetExponent .binary32 m e accuracy =
        ((shiftToExponent m e accuracy (lastPlace v)).1, lastPlace v) := by
      rw [shiftToTargetExponent, target_eq]
      exact Prod.ext rfl place_eq
    simp only [roundWithAccuracy, first, shifted.roundedMantissa_eq, carried]
  rw [round_eq]
  split_ifs with n_zero
  · have zero : nearestMagnitude v = 0 := by
      have := stands.leading
      rw [magnitude_eq, n_zero]
      unfold code
      omega
    have nearest := isNearest_of_magnitude_eq v_pos.le
      ((magnitude_ofDatum_zero sign).trans zero.symm)
    rwa [isNegative_ofDatum_zero] at nearest
  · have n_pos := Nat.pos_of_ne_zero n_zero
    have nearest := isNearest_of_magnitude_eq v_pos.le
      ((magnitude_ofDatum_finite stands n_pos sign).trans magnitude_eq.symm)
    rwa [isNegative_ofDatum_finite stands] at nearest

/-- An exact significand whose exponent is not above the last place is rounded correctly. -/
theorem isNearest_roundWithAccuracy_exact {m : ℕ} {e : ℤ} (sign : Sign) (m_pos : 0 < m)
    (e_le : e ≤ lastPlace (m * 2 ^ e)) :
    (ofDatum (roundWithAccuracy .binary32 sign m e .exact)).IsNearest
      (signed (signBit sign) (m * 2 ^ e)) :=
  isNearest_roundWithAccuracy sign (describes_exact m) (by exact_mod_cast m_pos) (.inl m_pos) e_le

theorem decreaseExponent_snd (m : ℕ) (e target : ℤ) :
    (decreaseExponent m e target).2 = min e target := by
  simp only [decreaseExponent]
  omega

/-- Shifting to the left is exact. -/
theorem decreaseExponent_value (m : ℕ) (e target : ℤ) :
    ((decreaseExponent m e target).1 : ℚ) * 2 ^ min e target = m * 2 ^ e := by
  rw [← decreaseExponent_snd m]
  simp only [decreaseExponent, Nat.shiftLeft_eq, Nat.cast_mul, Nat.cast_pow, Nat.cast_ofNat]
  rw [mul_assoc, ← zpow_natCast, ← zpow_add₀ two_ne_zero, add_sub_cancel]

/-- Rounding a significand that may have to be shifted to the left first. -/
theorem isNearest_round {m : ℕ} (m_pos : 0 < m) (e : ℤ) (sign : Sign) :
    (ofDatum (UnpackedFloat.round .binary32 sign m e)).IsNearest
      (signed (signBit sign) (m * 2 ^ e)) := by
  have cast_pos : (0 : ℚ) < m := by exact_mod_cast m_pos
  have target_eq := targetExponent_totalExponent (e := e) (describes_exact m) cast_pos
    (.inl m_pos)
  have value_eq := decreaseExponent_value m e (lastPlace (m * 2 ^ e))
  have place_eq := decreaseExponent_snd m e (lastPlace (m * 2 ^ e))
  have shifted_pos : 0 < (decreaseExponent m e (lastPlace (m * 2 ^ e))).1 := by
    rw [Nat.pos_iff_ne_zero]
    intro zero
    rw [zero, Nat.cast_zero, zero_mul] at value_eq
    exact absurd value_eq (by positivity)
  have nearest := isNearest_roundWithAccuracy_exact sign shifted_pos
    (by rw [value_eq]; exact min_le_right e _)
  rw [value_eq] at nearest
  simpa only [UnpackedFloat.round, target_eq, place_eq] using nearest

theorem isNearest_zero (sign : Sign) : (ofDatum (.zero sign)).IsNearest 0 :=
  (Holds.zero sign).isNearest

theorem isNearest_normalize (n : ℤ) (e : ℤ) (zeroSign : Sign) :
    (ofDatum (UnpackedFloat.normalize .binary32 n e zeroSign)).IsNearest (n * 2 ^ e) := by
  unfold UnpackedFloat.normalize
  rcases lt_trichotomy n 0 with negative | rfl | positive
  · have size_eq : ((-n).toNat : ℚ) = -n := by
      exact_mod_cast Int.toNat_of_nonneg (by omega : 0 ≤ -n)
    have nearest := isNearest_round (by omega : 0 < (-n).toNat) e .negative
    rw [size_eq] at nearest
    simpa [Int.compare_eq_lt.mpr negative, signed, signBit] using nearest
  · simpa using isNearest_zero zeroSign
  · have size_eq : (n.toNat : ℚ) = n := by
      exact_mod_cast Int.toNat_of_nonneg positive.le
    have nearest := isNearest_round (by omega : 0 < n.toNat) e .positive
    rw [size_eq] at nearest
    simpa [Int.compare_eq_gt.mpr positive, signed, signBit] using nearest

end Binary32

end TextureGraph
