import Mathlib.Algebra.Order.Field.Power
import Mathlib.Algebra.Order.Floor.Semifield
import Mathlib.Data.Int.Log
import Mathlib.Data.Rat.Floor
import Mathlib.Tactic.FieldSimp
import Mathlib.Tactic.Linarith
import TextureGraph.Binary32.Integral

/-!
# Nearest numbers

Rounding is a function on rationals here, whatever way a sum or a quotient is computed: it
gives the pattern of the nearest number, without the sign. Patterns count up from zero along
the numbers, so that it can be said by inequalities of naturals what rounding does. It keeps
the order, and it gives a number of the format back.
-/

namespace TextureGraph

/-! ## Nearest naturals -/

/-- Nearest natural to a rational that is not negative; a half goes to the even neighbour. -/
def roundEven (q : ℚ) : ℕ :=
  if 2 * (q - ⌊q⌋₊) < 1 then ⌊q⌋₊
  else if 1 < 2 * (q - ⌊q⌋₊) then ⌊q⌋₊ + 1
  else ⌊q⌋₊ + ⌊q⌋₊ % 2

@[simp]
theorem roundEven_natCast (n : ℕ) : roundEven n = n := by
  simp [roundEven]

theorem floor_le_roundEven (q : ℚ) : ⌊q⌋₊ ≤ roundEven q := by
  unfold roundEven
  split_ifs <;> omega

theorem roundEven_le_floor_add_one (q : ℚ) : roundEven q ≤ ⌊q⌋₊ + 1 := by
  unfold roundEven
  split_ifs <;> omega

theorem roundEven_mono {q r : ℚ} (le : q ≤ r) : roundEven q ≤ roundEven r := by
  rcases (Nat.floor_le_floor le).lt_or_eq with below | same
  · calc roundEven q
      _ ≤ ⌊q⌋₊ + 1 := roundEven_le_floor_add_one q
      _ ≤ ⌊r⌋₊ := below
      _ ≤ roundEven r := floor_le_roundEven r
  · unfold roundEven
    rw [same]
    split_ifs <;> first | omega | linarith

/-- What a whole quotient leaves of a rational. -/
theorem ratio_sub_quotient (num : ℕ) {den : ℕ} (den_pos : 0 < den) :
    (num : ℚ) / den - (num / den : ℕ) = (num % den : ℕ) / den := by
  have den_cast_pos : (0 : ℚ) < den := by exact_mod_cast den_pos
  have split : ((den * (num / den) + num % den : ℕ) : ℚ) = num := by rw [Nat.div_add_mod]
  push_cast at split
  field_simp
  linarith

/-- The nearest natural to a quotient is that of the rational. -/
theorem roundQuotient_eq_roundEven (num : ℕ) {den : ℕ} (den_pos : 0 < den) :
    roundQuotient num den = roundEven (num / den) := by
  have floor_eq : ⌊(num : ℚ) / den⌋₊ = num / den := Nat.floor_div_eq_div num den
  have rest_eq := ratio_sub_quotient num den_pos
  have den_cast_pos : (0 : ℚ) < den := by exact_mod_cast den_pos
  have below_iff : 2 * ((num % den : ℕ) / den : ℚ) < 1 ↔ 2 * (num % den) < den := by
    rw [← mul_div_assoc, div_lt_one den_cast_pos]
    exact_mod_cast Iff.rfl
  have above_iff : 1 < 2 * ((num % den : ℕ) / den : ℚ) ↔ den < 2 * (num % den) := by
    rw [← mul_div_assoc, one_lt_div den_cast_pos]
    exact_mod_cast Iff.rfl
  simp only [roundQuotient, roundEven, floor_eq, rest_eq, below_iff, above_iff]

namespace Binary32

/-! ## Numbers by significand and exponent -/

/-- Pattern without a sign of the number with a given significand and exponent. The leading
bit of the significand of a normal number raises the exponent field by one. -/
def code (significand : ℕ) (exponent : ℤ) : ℕ :=
  (exponent + 149).toNat * 0x800000 + significand

/-- Significands and exponents that numbers have: all of the significand is in use, save with
the least exponent. -/
structure Placed (significand : ℕ) (exponent : ℤ) : Prop where
  significand_lt : significand < 2 ^ 24
  least_le : -149 ≤ exponent
  leading : 2 ^ 23 ≤ significand ∨ exponent = -149

theorem placed (x : Binary32) : Placed x.significand x.exponent := by
  unfold significand exponent
  by_cases subnormal : x.magnitude < 0x800000
  · rw [if_pos subnormal, if_pos subnormal]
    exact ⟨by omega, by omega, .inr rfl⟩
  · rw [if_neg subnormal, if_neg subnormal]
    exact ⟨by omega, by omega, .inl (by omega)⟩

theorem magnitude_eq_code (x : Binary32) : x.magnitude = code x.significand x.exponent := by
  unfold code significand exponent
  by_cases subnormal : x.magnitude < 0x800000
  · rw [if_pos subnormal, if_pos subnormal]
    omega
  · rw [if_neg subnormal, if_neg subnormal]
    omega

namespace Placed

variable {s t : ℕ} {e f : ℤ}

/-- A pattern belongs to one significand and one exponent only. -/
theorem eq_of_code_eq (first : Placed s e) (second : Placed t f) (same : code s e = code t f) :
    s = t ∧ e = f := by
  have := first.significand_lt
  have := first.least_le
  have := first.leading
  have := second.significand_lt
  have := second.least_le
  have := second.leading
  unfold code at same
  omega

end Placed

/-! ## Nearest patterns -/

/-- Exponent of the last place that the nearest number to a positive rational has. -/
def lastPlace (v : ℚ) : ℤ :=
  max (Int.log 2 v - 23) (-149)

/-- Pattern without a sign of the nearest number to a positive rational. Everything that is
not positive has the pattern of zero. -/
def nearestMagnitude (v : ℚ) : ℕ :=
  if 0 < v then min (code (roundEven (v / 2 ^ lastPlace v)) (lastPlace v)) infinityMagnitude
  else 0

variable {v w : ℚ}

theorem scaled_lt (v : ℚ) : v / 2 ^ lastPlace v < 2 ^ 24 := by
  have place_pos : (0 : ℚ) < 2 ^ lastPlace v := by positivity
  rw [div_lt_iff₀ place_pos]
  calc v
    _ < 2 ^ (Int.log 2 v + 1) := Int.lt_zpow_succ_log_self one_lt_two v
    _ ≤ 2 ^ (24 + lastPlace v) :=
        zpow_le_zpow_right₀ one_le_two (by unfold lastPlace; omega)
    _ = 2 ^ 24 * 2 ^ lastPlace v := by
        rw [zpow_add₀ two_ne_zero]
        norm_num

theorem le_scaled (v_pos : 0 < v) (above : -149 < lastPlace v) :
    2 ^ 23 ≤ v / 2 ^ lastPlace v := by
  have place_pos : (0 : ℚ) < 2 ^ lastPlace v := by positivity
  rw [le_div_iff₀ place_pos]
  calc (2 : ℚ) ^ 23 * 2 ^ lastPlace v
    _ = 2 ^ (23 + lastPlace v) := by
        rw [zpow_add₀ two_ne_zero]
        norm_num
    _ = 2 ^ Int.log 2 v := by
        congr 1
        unfold lastPlace at above ⊢
        omega
    _ ≤ v := Int.zpow_log_le_self one_lt_two v_pos

theorem roundEven_scaled_le (v : ℚ) : roundEven (v / 2 ^ lastPlace v) ≤ 2 ^ 24 := by
  have rounded := roundEven_mono (scaled_lt v).le
  exact_mod_cast rounded.trans_eq (roundEven_natCast (2 ^ 24))

theorem le_roundEven_scaled (v_pos : 0 < v) (above : -149 < lastPlace v) :
    2 ^ 23 ≤ roundEven (v / 2 ^ lastPlace v) := by
  have rounded := roundEven_mono (le_scaled v_pos above)
  exact_mod_cast (roundEven_natCast (2 ^ 23)).symm.trans_le rounded

theorem lastPlace_mono (v_pos : 0 < v) (le : v ≤ w) : lastPlace v ≤ lastPlace w :=
  max_le_max_right _ (sub_le_sub_right (Int.log_mono_right v_pos le) 23)

theorem nearestMagnitude_of_nonpos (v_nonpos : v ≤ 0) : nearestMagnitude v = 0 :=
  if_neg v_nonpos.not_gt

/-- Rounding keeps the order. Where the last places differ, the leading bit decides. -/
theorem nearestMagnitude_mono (le : v ≤ w) : nearestMagnitude v ≤ nearestMagnitude w := by
  by_cases v_pos : 0 < v
  · have w_pos : 0 < w := v_pos.trans_le le
    rw [nearestMagnitude, nearestMagnitude, if_pos v_pos, if_pos w_pos]
    refine min_le_min_right _ ?_
    rcases (lastPlace_mono v_pos le).lt_or_eq with below | same
    · have least : -149 ≤ lastPlace v := le_max_right _ _
      have upper := roundEven_scaled_le v
      have lower := le_roundEven_scaled w_pos (least.trans_lt below)
      unfold code
      omega
    · rw [same]
      refine Nat.add_le_add_left (roundEven_mono ?_) _
      gcongr
  · rw [nearestMagnitude_of_nonpos (not_lt.mp v_pos)]
    exact Nat.zero_le _

theorem nearestMagnitude_le (v : ℚ) : nearestMagnitude v ≤ infinityMagnitude := by
  unfold nearestMagnitude
  split_ifs
  · exact min_le_right _ _
  · exact Nat.zero_le _

/-! ## Numbers of the format -/

/-- Scaling by a power of two moves the binary logarithm. -/
theorem log_mul_two_zpow (v_pos : 0 < v) (e : ℤ) : Int.log 2 (v * 2 ^ e) = Int.log 2 v + e := by
  have scaled_pos : 0 < v * 2 ^ e := by positivity
  have log_ge : Int.log 2 v + e ≤ Int.log 2 (v * 2 ^ e) := by
    rw [← Int.zpow_le_iff_le_log one_lt_two scaled_pos, Nat.cast_ofNat, zpow_add₀ two_ne_zero]
    gcongr
    exact Int.zpow_log_le_self one_lt_two v_pos
  have log_lt : Int.log 2 (v * 2 ^ e) < Int.log 2 v + 1 + e := by
    rw [← Int.lt_zpow_iff_log_lt one_lt_two scaled_pos, Nat.cast_ofNat, zpow_add₀ two_ne_zero]
    gcongr
    exact Int.lt_zpow_succ_log_self one_lt_two v
  omega

/-- The binary logarithm of a rational is that of its integral part. -/
theorem log_eq_log2 {m : ℕ} (m_pos : 0 < m) (le : m ≤ v) (lt : v < m + 1) :
    Int.log 2 v = m.log2 := by
  have one_le : (1 : ℚ) ≤ m := by exact_mod_cast m_pos
  have floor_eq : ⌊v⌋₊ = m := (Nat.floor_eq_iff ((Nat.cast_nonneg m).trans le)).mpr ⟨le, lt⟩
  rw [Int.log_of_one_le_right 2 (one_le.trans le), floor_eq, Nat.log2_eq_log_two]

theorem log_significand {m : ℕ} (m_pos : 0 < m) (e : ℤ) :
    Int.log 2 ((m : ℚ) * 2 ^ e) = m.log2 + e := by
  rw [log_mul_two_zpow (by exact_mod_cast m_pos),
    log_eq_log2 m_pos le_rfl (lt_add_one (m : ℚ))]

/-- Everything of a significand with a leading bit stands at or above the last place. -/
theorem le_lastPlace_of_leading {m : ℕ} (leading : 2 ^ 23 ≤ m) (e : ℤ) :
    e ≤ lastPlace (m * 2 ^ e) := by
  have m_pos : 0 < m := by omega
  have log_ge : 23 ≤ m.log2 := (Nat.le_log2 m_pos.ne').mpr leading
  rw [lastPlace, log_significand m_pos]
  omega

/-- A significand of the format is not cut off. -/
theorem lastPlace_le_of_lt {m : ℕ} (m_pos : 0 < m) (m_lt : m < 2 ^ 24) {e : ℤ}
    (least_le : -149 ≤ e) : lastPlace (m * 2 ^ e) ≤ e := by
  have log_lt : m.log2 < 24 := (Nat.log2_lt m_pos.ne').mpr m_lt
  rw [lastPlace, log_significand m_pos]
  omega

namespace Placed

variable {s : ℕ} {e : ℤ}

theorem lastPlace_eq (stands : Placed s e) (s_pos : 0 < s) : lastPlace (s * 2 ^ e) = e := by
  refine le_antisymm (lastPlace_le_of_lt s_pos stands.significand_lt stands.least_le) ?_
  rcases stands.leading with leading | rfl
  · exact le_lastPlace_of_leading leading e
  · exact le_max_right _ _

/-- A number of the format is its own nearest number. -/
theorem nearestMagnitude_eq (stands : Placed s e) :
    nearestMagnitude (s * 2 ^ e) = min (code s e) infinityMagnitude := by
  rcases Nat.eq_zero_or_pos s with rfl | s_pos
  · rw [Nat.cast_zero, zero_mul, nearestMagnitude_of_nonpos le_rfl]
    have := stands.leading
    unfold code infinityMagnitude
    omega
  · have cast_pos : (0 : ℚ) < s := by exact_mod_cast s_pos
    have v_pos : (0 : ℚ) < s * 2 ^ e := by positivity
    rw [nearestMagnitude, if_pos v_pos, stands.lastPlace_eq s_pos,
      mul_div_cancel_right₀ _ (by positivity), roundEven_natCast]

/-- Numbers below the overflow threshold of the format are not infinite. -/
theorem code_lt (stands : Placed s e) (lt : (s : ℚ) * 2 ^ e < 2 ^ 128) :
    code s e < infinityMagnitude := by
  have e_lt : e < 105 := by
    by_contra not_lt
    have leading : 2 ^ 23 ≤ s := stands.leading.resolve_right (by omega)
    have leading_cast : (2 : ℚ) ^ 23 ≤ s := by exact_mod_cast leading
    refine lt.not_ge ?_
    calc (2 : ℚ) ^ 128
      _ = 2 ^ 23 * 2 ^ (105 : ℤ) := by norm_num
      _ ≤ s * 2 ^ e :=
          mul_le_mul leading_cast (zpow_le_zpow_right₀ one_le_two (by omega)) (by positivity)
            (by positivity)
  have := stands.significand_lt
  unfold code infinityMagnitude
  omega

end Placed

/-- Everything that fits into a significand can be given as a number of the format. -/
theorem exists_placed {n : ℕ} {e : ℤ} (n_lt : n < 2 ^ 24) (least_le : -149 ≤ e) :
    ∃ s f, Placed s f ∧ (s : ℚ) * 2 ^ f = n * 2 ^ e := by
  rcases Nat.eq_zero_or_pos n with rfl | n_pos
  · exact ⟨0, -149, ⟨by norm_num, le_rfl, .inr rfl⟩, by simp⟩
  · have cast_pos : (0 : ℚ) < n := by exact_mod_cast n_pos
    have v_pos : (0 : ℚ) < n * 2 ^ e := by positivity
    have place_le := lastPlace_le_of_lt n_pos n_lt least_le
    set place := lastPlace ((n : ℚ) * 2 ^ e) with place_def
    have scaled_eq : (n : ℚ) * 2 ^ e / 2 ^ place = (n * 2 ^ (e - place).toNat : ℕ) := by
      rw [mul_div_assoc, ← zpow_sub₀ two_ne_zero, Nat.cast_mul, Nat.cast_pow, Nat.cast_ofNat,
        ← zpow_natCast, Int.toNat_of_nonneg (by omega)]
    refine ⟨n * 2 ^ (e - place).toNat, place, ⟨?_, le_max_right _ _, ?_⟩, ?_⟩
    · have below := scaled_lt ((n : ℚ) * 2 ^ e)
      rw [← place_def, scaled_eq] at below
      exact_mod_cast below
    · by_cases above : -149 < place
      · have leading := le_scaled v_pos (place_def ▸ above)
        rw [← place_def, scaled_eq] at leading
        exact .inl (by exact_mod_cast leading)
      · exact .inr (le_antisymm (not_lt.mp above) (le_max_right _ _))
    · rw [← scaled_eq, div_mul_cancel₀ _ (by positivity)]

end Binary32

end TextureGraph
