import TextureGraph.Proofs.Binary32.Rounding
import TextureGraph.Proofs.Binary32.Shifting

/-!
# Rounded arithmetic

Sums, differences, products and quotients of finite numbers are the nearest numbers to those
of their values. Besides, a NaN stays a NaN, and the quotient of two infinities is one.
-/

namespace TextureGraph

namespace Binary32

open Float.Model (Format UnpackedFloat totalExponent)
open Float.Model.UnpackedFloat

variable {x y : Binary32} {u w : UnpackedFloat} {v z : ℚ}

/-! ## Signs -/

theorem cast_apply (sign : Sign) (n : ℤ) : (sign.apply n : ℚ) = signed (signBit sign) n := by
  cases sign
  · exact Int.cast_neg n
  · rfl

theorem signed_mul (negative : Bool) (v w : ℚ) :
    signed negative v * w = signed negative (v * w) := by
  cases negative
  · rfl
  · exact neg_mul v w

@[simp]
theorem signBit_neg (sign : Sign) : signBit (-sign) = !signBit sign := by
  cases sign <;> rfl

@[simp]
theorem signed_not (negative : Bool) (v : ℚ) : signed (!negative) v = -signed negative v := by
  cases negative <;> simp [signed]

theorem signed_mul_signed (first second : Sign) (v w : ℚ) :
    signed (signBit first) v * signed (signBit second) w =
      signed (signBit (first * second)) (v * w) :=
  match first, second with
  | .negative, .negative => neg_mul_neg v w
  | .negative, .positive => neg_mul v w
  | .positive, .negative => mul_neg v w
  | .positive, .positive => rfl

theorem signed_div_signed (first second : Sign) (v w : ℚ) :
    signed (signBit first) v / signed (signBit second) w =
      signed (signBit (first / second)) (v / w) :=
  match first, second with
  | .negative, .negative => neg_div_neg_eq v w
  | .negative, .positive => neg_div w v
  | .positive, .negative => div_neg v
  | .positive, .positive => rfl

/-! ## Sums and differences -/

theorem Holds.neg (holds : Holds u v) : Holds u.neg (-v) := by
  cases holds with
  | zero sign =>
    rw [neg_zero]
    exact .zero _
  | finite sign m_pos stands =>
    rw [← signed_not, ← signBit_neg]
    exact .finite _ m_pos stands

theorem Holds.add (first : Holds u v) (second : Holds w z) :
    (ofDatum (u.add .binary32 w)).IsNearest (v + z) := by
  cases first with
  | zero sign =>
    rw [zero_add]
    cases second with
    | zero sign' =>
      cases sign <;> cases sign' <;> exact isNearest_zero _
    | finite sign' m_pos stands => exact (Holds.finite sign' m_pos stands).isNearest
  | @finite sign m e m_pos stands =>
    cases second with
    | zero sign' =>
      rw [add_zero]
      exact (Holds.finite sign m_pos stands).isNearest
    | @finite sign' n f n_pos stands' =>
      set a := (decreaseExponent m e (min e f)).1 with a_def
      set b := (decreaseExponent n f (min e f)).1 with b_def
      have a_eq : (a : ℚ) * 2 ^ min e f = m * 2 ^ e := by
        simpa using decreaseExponent_value m e (min e f)
      have b_eq : (b : ℚ) * 2 ^ min e f = n * 2 ^ f := by
        simpa using decreaseExponent_value n f (min e f)
      have sum_eq : ((sign.apply a + sign'.apply b : ℤ) : ℚ) * 2 ^ min e f =
          signed (signBit sign) (m * 2 ^ e) + signed (signBit sign') (n * 2 ^ f) := by
        rw [Int.cast_add, cast_apply, cast_apply, add_mul, signed_mul, signed_mul,
          Int.cast_natCast, Int.cast_natCast, a_eq, b_eq]
      rw [← sum_eq]
      exact isNearest_normalize _ _ .positive

theorem apply_neg (sign : Sign) (n : ℤ) : (-sign).apply n = -sign.apply n := by
  cases sign
  · exact (neg_neg n).symm
  · rfl

/-- The machine subtracts by adding the opposite. -/
theorem sub_eq_add_opposite (u w : UnpackedFloat) : u.sub .binary32 w = u.add .binary32 w.neg := by
  cases u with
  | finite sign m e m_pos =>
    cases w with
    | finite sign' n f n_pos =>
      simp only [UnpackedFloat.sub, UnpackedFloat.add, UnpackedFloat.neg, apply_neg,
        Int.sub_eq_add_neg]
    | _ => rfl
  | _ => cases w <;> rfl

theorem isNearest_add (xFinite : x.isFinite) (yFinite : y.isFinite) :
    (x + y).IsNearest (x.value + y.value) := by
  rw [add_eq]
  exact (holds_datum xFinite).add (holds_datum yFinite)

theorem isNearest_sub (xFinite : x.isFinite) (yFinite : y.isFinite) :
    (x - y).IsNearest (x.value - y.value) := by
  rw [sub_eq, sub_eq_add_opposite, sub_eq_add_neg]
  exact (holds_datum xFinite).add (holds_datum yFinite).neg

/-- Values are whole multiples of the least positive number. -/
theorem exists_value_eq_multiple (x : Binary32) : ∃ n : ℤ, x.value = n * 2 ^ (-149 : ℤ) := by
  have least_le := x.placed.least_le
  refine ⟨(signOf x.isNegative).apply (x.significand * 2 ^ (x.exponent + 149).toNat : ℕ), ?_⟩
  rw [cast_apply, signBit_signOf, signed_mul, Int.cast_natCast, Nat.cast_mul, Nat.cast_pow,
    Nat.cast_ofNat, mul_assoc, ← zpow_natCast, Int.toNat_of_nonneg (by omega),
    ← zpow_add₀ two_ne_zero, add_neg_cancel_right]
  rfl

/-- Thanks to gradual underflow the difference of two numbers vanishes only if they agree. -/
theorem zero_lt_sub (xFinite : x.isFinite) (yFinite : y.isFinite) (lt : x < y) :
    0 < y - x := by
  obtain ⟨m, x_eq⟩ := x.exists_value_eq_multiple
  obtain ⟨n, y_eq⟩ := y.exists_value_eq_multiple
  have unit_pos : (0 : ℚ) < 2 ^ (-149 : ℤ) := by positivity
  rw [lt_iff_value_lt xFinite yFinite, x_eq, y_eq, mul_lt_mul_iff_left₀ unit_pos] at lt
  have apart : (1 : ℚ) ≤ n - m := by
    have : m + 1 ≤ n := by exact_mod_cast lt
    have : (m : ℚ) + 1 ≤ n := by exact_mod_cast this
    linarith
  have leastFinite : (⟨1⟩ : Binary32).isFinite := by decide
  have leastValue : (⟨1⟩ : Binary32).value = 2 ^ (-149 : ℤ) := by
    have sign : (⟨1⟩ : Binary32).isNegative = false := by decide
    have significand : (⟨1⟩ : Binary32).significand = 1 := by decide
    have exponent : (⟨1⟩ : Binary32).exponent = -149 := by decide
    simp [value, modulus, sign, significand, exponent, signed]
  have least_le : (⟨1⟩ : Binary32) ≤ y - x := by
    refine (isNearest_sub yFinite xFinite).le_of_value_le leastFinite ?_
    rw [leastValue, x_eq, y_eq, ← sub_mul]
    exact le_mul_of_one_le_left unit_pos.le apart
  have zero_lt : (0 : Binary32) < ⟨1⟩ := by decide
  exact Binary32.lt_of_lt_of_le zero_lt least_le

/-! ## Products -/

/-- The exact product of two significands is never placed too high. -/
theorem le_lastPlace_mul {m n : ℕ} {e f : ℤ} (m_pos : 0 < m) (n_pos : 0 < n)
    (first : Placed m e) (second : Placed n f) :
    e + f ≤ lastPlace ((m * n : ℕ) * 2 ^ (e + f)) := by
  rcases first.leading with leading | rfl
  · exact le_lastPlace_of_leading (leading.trans (Nat.le_mul_of_pos_right m n_pos)) _
  · rcases second.leading with leading | rfl
    · exact le_lastPlace_of_leading (leading.trans (Nat.le_mul_of_pos_left n m_pos)) _
    · exact le_trans (by norm_num) (le_max_right _ _)

theorem Holds.mul (first : Holds u v) (second : Holds w z) :
    (ofDatum (u.mul .binary32 w)).IsNearest (v * z) := by
  cases first with
  | zero sign =>
    rw [zero_mul]
    cases second <;> exact isNearest_zero _
  | @finite sign m e m_pos stands =>
    cases second with
    | zero sign' =>
      rw [mul_zero]
      exact isNearest_zero _
    | @finite sign' n f n_pos stands' =>
      have product_eq : ((m * n : ℕ) : ℚ) * 2 ^ (e + f) = m * 2 ^ e * (n * 2 ^ f) := by
        rw [zpow_add₀ two_ne_zero]
        push_cast
        ring
      rw [signed_mul_signed, ← product_eq]
      exact isNearest_roundWithAccuracy_exact (sign * sign') (Nat.mul_pos m_pos n_pos)
        (le_lastPlace_mul m_pos n_pos stands stands')

theorem isNearest_mul (xFinite : x.isFinite) (yFinite : y.isFinite) :
    (x * y).IsNearest (x.value * y.value) := by
  rw [mul_eq]
  exact (holds_datum xFinite).mul (holds_datum yFinite)

/-! ## Quotients -/

/-- The quotient of two significands is formed with enough places for rounding. -/
theorem isNearest_divCore {m n : ℕ} (m_pos : 0 < m) (n_pos : 0 < n) (e f : ℤ) (sign : Sign) :
    (ofDatum (roundWithAccuracy .binary32 sign (divCore .binary32 m e n f).1
        (divCore .binary32 m e n f).2.1 (divCore .binary32 m e n f).2.2)).IsNearest
      (signed (signBit sign) (m * 2 ^ e / (n * 2 ^ f))) := by
  have m_cast_pos : (0 : ℚ) < m := by exact_mod_cast m_pos
  have n_cast_pos : (0 : ℚ) < n := by exact_mod_cast n_pos
  have ratio_pos : (0 : ℚ) < m / n := div_pos m_cast_pos n_cast_pos
  obtain ⟨place, place_eq⟩ : ∃ place, place =
      min (e - f) (max (totalExponent m e - totalExponent n f - 24) (-149)) := ⟨_, rfl⟩
  obtain ⟨num, num_eq⟩ : ∃ num, num = m * 2 ^ (e - f - place).toNat := ⟨_, rfl⟩
  have core_eq : divCore .binary32 m e n f =
      (num / n, place, accuracyOfFraction (num % n) n) := by
    rw [num_eq, ← Nat.shiftLeft_eq, place_eq]
    rfl
  have num_cast : (num : ℚ) = m * 2 ^ (e - f - place) := by
    rw [num_eq, Nat.cast_mul, Nat.cast_pow, Nat.cast_ofNat, ← zpow_natCast,
      Int.toNat_of_nonneg (by omega)]
  have ratio_eq : (num : ℚ) / n = m / n * 2 ^ (e - f - place) := by
    rw [num_cast]
    ring
  have value_eq : (num : ℚ) / n * 2 ^ place = m * 2 ^ e / (n * 2 ^ f) := by
    rw [ratio_eq, mul_assoc, ← zpow_add₀ two_ne_zero, sub_add_cancel, zpow_sub₀ two_ne_zero,
      div_mul_div_comm]
  obtain ⟨lower, -⟩ := log_ratio_bounds m_pos n_pos
  have log_eq := log_mul_two_zpow ratio_pos (e - f - place)
  rw [← ratio_eq] at log_eq
  have q_pos : (0 : ℚ) < num / n := by
    rw [ratio_eq]
    positivity
  unfold totalExponent at place_eq
  rw [core_eq, ← value_eq]
  simp only
  refine isNearest_roundWithAccuracy sign (describes_quotient num n_pos) q_pos ?_ ?_
  · -- Only at the least place is there a quotient below one.
    rcases Nat.eq_zero_or_pos (num / n) with zero | pos
    · have num_lt : num < n := (Nat.div_eq_zero_iff_lt n_pos).mp zero
      have log_neg : Int.log 2 ((num : ℚ) / n) < 0 := by
        rw [← Int.lt_zpow_iff_log_lt one_lt_two q_pos, zpow_zero, div_lt_one n_cast_pos]
        exact_mod_cast num_lt
      right
      omega
    · exact .inl pos
  · rw [lastPlace, log_mul_two_zpow q_pos, log_eq]
    omega

theorem Holds.div (first : Holds u v) (second : Holds w z) (nonzero : z ≠ 0) :
    (ofDatum (u.div .binary32 w)).IsNearest (v / z) := by
  cases second with
  | zero sign' => exact absurd rfl nonzero
  | @finite sign' n f n_pos stands' =>
    cases first with
    | zero sign =>
      rw [zero_div]
      exact isNearest_zero _
    | @finite sign m e m_pos stands =>
      rw [signed_div_signed]
      exact isNearest_divCore m_pos n_pos e f (sign / sign')

theorem isNearest_div (xFinite : x.isFinite) (yFinite : y.isFinite) (nonzero : y.value ≠ 0) :
    (x / y).IsNearest (x.value / y.value) := by
  rw [div_eq]
  exact (holds_datum xFinite).div (holds_datum yFinite) nonzero

/-! ## Operands that are not finite -/

theorem isNaN_add_left (isNaN : x.isNaN) (y : Binary32) : (x + y).isNaN := by
  rw [add_eq, datum_of_isNaN isNaN]
  rfl

theorem isNaN_sub_right (isNaN : y.isNaN) (x : Binary32) : (x - y).isNaN := by
  rw [sub_eq, datum_of_isNaN isNaN]
  cases x.datum <;> rfl

theorem isNaN_mul_right (isNaN : y.isNaN) (x : Binary32) : (x * y).isNaN := by
  rw [mul_eq, datum_of_isNaN isNaN]
  cases x.datum <;> rfl

theorem magnitude_of_infinite (number : x.isNaN = false) (infinite : ¬ x.isFinite) :
    x.magnitude = infinityMagnitude := by
  rw [isNaN_eq_false_iff] at number
  rw [isFinite_iff] at infinite
  omega

theorem isNaN_div_infinite (xInfinite : x.magnitude = infinityMagnitude)
    (yInfinite : y.magnitude = infinityMagnitude) : (x / y).isNaN := by
  rw [div_eq, datum_of_infinite xInfinite, datum_of_infinite yInfinite]
  rfl

theorem Holds.magnitude_div_infinity (holds : Holds u v) (sign : Sign) :
    (ofDatum (u.div .binary32 (.infinity sign))).magnitude = 0 := by
  cases holds <;> exact magnitude_ofDatum_zero _

/-- A finite number disappears against an infinity. -/
theorem magnitude_div_infinite (xFinite : x.isFinite)
    (yInfinite : y.magnitude = infinityMagnitude) : (x / y).magnitude = 0 := by
  rw [div_eq, datum_of_infinite yInfinite]
  exact (holds_datum xFinite).magnitude_div_infinity _

end Binary32

end TextureGraph
