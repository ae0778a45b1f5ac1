import TextureGraph.Proofs.Binary32.Nearest

/-!
# Values of numbers

A finite number stands for a rational. Comparing numbers is comparing these, and a number
that an operation rounds is the nearest one to a rational, so that its bounds follow from
those of the rational.
-/

namespace TextureGraph

namespace Binary32

variable {x y : Binary32} {v w : ℚ}

/-- Put a sign in front of a size. -/
def signed (negative : Bool) (size : ℚ) : ℚ :=
  if negative then -size else size

@[simp]
theorem abs_signed (negative : Bool) (size : ℚ) : |signed negative size| = |size| := by
  cases negative
  · rfl
  · exact abs_neg size

/-- The size of a finite number. -/
def modulus (x : Binary32) : ℚ :=
  x.significand * 2 ^ x.exponent

/-- The rational that a finite number stands for. -/
def value (x : Binary32) : ℚ :=
  signed x.isNegative x.modulus

theorem modulus_nonneg (x : Binary32) : 0 ≤ x.modulus := by
  unfold modulus
  positivity

@[simp]
theorem abs_value (x : Binary32) : |x.value| = x.modulus := by
  rw [value, abs_signed, abs_of_nonneg x.modulus_nonneg]

theorem isFinite_iff : x.isFinite ↔ x.magnitude < infinityMagnitude := by
  simp [isFinite]

theorem isNaN_eq_false_iff : x.isNaN = false ↔ x.magnitude ≤ infinityMagnitude := by
  simp [isNaN]

theorem nearestMagnitude_modulus (finite : x.isFinite) :
    nearestMagnitude x.modulus = x.magnitude := by
  rw [modulus, x.placed.nearestMagnitude_eq, ← x.magnitude_eq_code]
  exact min_eq_left (isFinite_iff.mp finite).le

/-! ## Ranks -/

/-- Rank of the nearest number to a rational. -/
def nearestRank (v : ℚ) : ℤ :=
  nearestMagnitude v - nearestMagnitude (-v)

theorem nearestRank_mono (le : v ≤ w) : nearestRank v ≤ nearestRank w := by
  have front := nearestMagnitude_mono le
  have back := nearestMagnitude_mono (neg_le_neg le)
  unfold nearestRank
  omega

theorem nearestRank_signed (negative : Bool) {size : ℚ} (size_nonneg : 0 ≤ size) :
    nearestRank (signed negative size) =
      if negative then -(nearestMagnitude size : ℤ) else nearestMagnitude size := by
  have opposite := nearestMagnitude_of_nonpos (neg_nonpos.mpr size_nonneg)
  cases negative <;> simp [nearestRank, signed, opposite]

/-- A number is the nearest one to a rational. It is infinite where the rational is too large. -/
structure IsNearest (x : Binary32) (v : ℚ) : Prop where
  isNaN_eq : x.isNaN = false
  rank_eq : x.rank = nearestRank v

theorem isNearest_of_magnitude_eq {size : ℚ} (size_nonneg : 0 ≤ size)
    (magnitude_eq : x.magnitude = nearestMagnitude size) :
    x.IsNearest (signed x.isNegative size) where
  isNaN_eq := isNaN_eq_false_iff.mpr (magnitude_eq ▸ nearestMagnitude_le size)
  rank_eq := by rw [nearestRank_signed _ size_nonneg, rank, magnitude_eq]

/-- A finite number is the nearest one to its own value. -/
theorem isNearest_value (finite : x.isFinite) : x.IsNearest x.value :=
  isNearest_of_magnitude_eq x.modulus_nonneg (nearestMagnitude_modulus finite).symm

namespace IsNearest

/-- Rounding keeps the order. -/
protected theorem le (first : x.IsNearest v) (second : y.IsNearest w) (le : v ≤ w) : x ≤ y :=
  le_iff.mpr ⟨first.isNaN_eq, second.isNaN_eq, by
    rw [first.rank_eq, second.rank_eq]
    exact nearestRank_mono le⟩

theorem le_of_le_value (nearest : x.IsNearest v) (finite : y.isFinite) (le : v ≤ y.value) :
    x ≤ y :=
  nearest.le (isNearest_value finite) le

theorem le_of_value_le (nearest : x.IsNearest v) (finite : y.isFinite) (le : y.value ≤ v) :
    y ≤ x :=
  (isNearest_value finite).le nearest le

end IsNearest

/-! ## Order -/

theorem natAbs_rank (x : Binary32) : x.rank.natAbs = x.magnitude := by
  unfold rank
  split <;> omega

theorem isFinite_iff_rank :
    x.isFinite ↔ -(infinityMagnitude : ℤ) < x.rank ∧ x.rank < infinityMagnitude := by
  have := x.natAbs_rank
  rw [isFinite_iff]
  omega

theorem isFinite_of_le_of_le {low high : Binary32} (lowFinite : low.isFinite)
    (highFinite : high.isFinite) (low_le : low ≤ x) (le_high : x ≤ high) : x.isFinite := by
  rw [isFinite_iff_rank] at lowFinite highFinite ⊢
  exact ⟨lowFinite.1.trans_le (le_iff.mp low_le).2.2,
    (le_iff.mp le_high).2.2.trans_lt highFinite.2⟩

theorem modulus_eq_zero (magnitude_eq : x.magnitude = 0) : x.modulus = 0 := by
  have significand_eq : x.significand = 0 := by
    unfold significand
    rw [magnitude_eq]
    rfl
  rw [modulus, significand_eq, Nat.cast_zero, zero_mul]

theorem modulus_eq_of_magnitude_eq (magnitude_eq : x.magnitude = y.magnitude) :
    x.modulus = y.modulus := by
  unfold modulus significand exponent
  rw [magnitude_eq]

/-- Numbers of one rank have one value; the two zeros are such numbers. -/
theorem value_eq_of_rank_eq (rank_eq : x.rank = y.rank) : x.value = y.value := by
  have magnitude_eq : x.magnitude = y.magnitude := by
    rw [← natAbs_rank, ← natAbs_rank, rank_eq]
  have modulus_eq := modulus_eq_of_magnitude_eq magnitude_eq
  by_cases sign_eq : x.isNegative = y.isNegative
  · rw [value, value, sign_eq, modulus_eq]
  · have zero : x.magnitude = 0 := by
      unfold rank at rank_eq
      cases xSign : x.isNegative <;> cases ySign : y.isNegative <;> simp_all
    rw [value, value, modulus_eq, modulus_eq_zero (magnitude_eq ▸ zero)]
    simp [signed]

theorem le_iff_value_le (xFinite : x.isFinite) (yFinite : y.isFinite) :
    x ≤ y ↔ x.value ≤ y.value := by
  constructor
  · intro le
    by_contra not_le
    have back := (isNearest_value yFinite).le (isNearest_value xFinite) (le_of_not_ge not_le)
    have rank_eq : x.rank = y.rank := le_antisymm (le_iff.mp le).2.2 (le_iff.mp back).2.2
    exact not_le (value_eq_of_rank_eq rank_eq).le
  · exact (isNearest_value xFinite).le (isNearest_value yFinite)

theorem lt_iff_value_lt (xFinite : x.isFinite) (yFinite : y.isFinite) :
    x < y ↔ x.value < y.value := by
  have xNumber := isNaN_eq_false_of_isFinite xFinite
  have yNumber := isNaN_eq_false_of_isFinite yFinite
  rw [← not_le, ← le_iff_value_le yFinite xFinite, lt_iff, le_iff]
  simp [xNumber, yNumber]

protected theorem le_of_lt (lt : x < y) : x ≤ y := by
  rw [lt_iff] at lt
  exact le_iff.mpr ⟨lt.1, lt.2.1, lt.2.2.le⟩

protected theorem lt_of_le_of_lt {z : Binary32} (le : x ≤ y) (lt : y < z) : x < z := by
  rw [le_iff] at le
  rw [lt_iff] at lt ⊢
  exact ⟨le.1, lt.2.1, le.2.2.trans_lt lt.2.2⟩

protected theorem lt_of_lt_of_le {z : Binary32} (lt : x < y) (le : y ≤ z) : x < z := by
  rw [lt_iff] at lt ⊢
  rw [le_iff] at le
  exact ⟨lt.1, le.2.1, lt.2.2.trans_le le.2.2⟩

/-- There is nothing between numbers of successive ranks. -/
theorem le_of_lt_next {low next : Binary32} (lowNumber : low.isNaN = false)
    (successive : next.rank = low.rank + 1) (lt : x < next) : x ≤ low := by
  rw [lt_iff, successive, Int.lt_add_one_iff] at lt
  exact le_iff.mpr ⟨lt.1, lowNumber, lt.2.2⟩

/-- Numbers that are not NaNs are ordered linearly. -/
theorem lt_or_le (xNumber : x.isNaN = false) (yNumber : y.isNaN = false) : x < y ∨ y ≤ x := by
  rw [lt_iff, le_iff]
  exact (lt_or_ge x.rank y.rank).imp (⟨xNumber, yNumber, ·⟩) (⟨yNumber, xNumber, ·⟩)

/-! ## Exact results -/

theorem magnitude_ofMagnitude {magnitude : ℕ} (lt : magnitude < 0x80000000) (negative : Bool) :
    (ofMagnitude negative magnitude).magnitude = magnitude := by
  cases negative <;> simp [ofMagnitude, Binary32.magnitude] <;> omega

theorem isNegative_ofMagnitude {magnitude : ℕ} (lt : magnitude < 0x80000000) (negative : Bool) :
    (ofMagnitude negative magnitude).isNegative = negative := by
  cases negative <;> simp [ofMagnitude, isNegative] <;> omega

theorem signed_abs (v : ℚ) : signed (decide (v < 0)) |v| = v := by
  by_cases negative : v < 0
  · simp [signed, negative, abs_of_neg negative]
  · simp [signed, negative, abs_of_nonneg (not_lt.mp negative)]

/-- What fits into a significand and is not too large is the value of a number. -/
theorem exists_value_eq {n : ℕ} {e : ℤ} (size_eq : |v| = n * 2 ^ e) (n_lt : n < 2 ^ 24)
    (least_le : -149 ≤ e) (lt : |v| < 2 ^ 128) : ∃ x : Binary32, x.isFinite ∧ x.value = v := by
  obtain ⟨s, f, stands, placed_eq⟩ := exists_placed n_lt least_le
  rw [← placed_eq] at size_eq
  have code_lt := stands.code_lt (size_eq ▸ lt)
  have fits : code s f < 0x80000000 := code_lt.trans (by decide)
  refine ⟨ofMagnitude (decide (v < 0)) (code s f), ?_, ?_⟩
  · rw [isFinite_iff, magnitude_ofMagnitude fits]
    exact code_lt
  · obtain ⟨significand_eq, exponent_eq⟩ := (placed _).eq_of_code_eq stands
      ((magnitude_eq_code _).symm.trans (magnitude_ofMagnitude fits (decide (v < 0))))
    rw [value, isNegative_ofMagnitude fits, modulus, significand_eq, exponent_eq, ← size_eq,
      signed_abs]

/-- Rounding changes nothing that is the value of a number already. -/
theorem IsNearest.eq_of_exact (nearest : x.IsNearest v) {n : ℕ} {e : ℤ}
    (size_eq : |v| = n * 2 ^ e) (n_lt : n < 2 ^ 24) (least_le : -149 ≤ e)
    (lt : |v| < 2 ^ 128) : x.isFinite ∧ x.value = v := by
  obtain ⟨y, yFinite, rfl⟩ := exists_value_eq size_eq n_lt least_le lt
  have rank_eq : x.rank = y.rank := nearest.rank_eq.trans (isNearest_value yFinite).rank_eq.symm
  refine ⟨?_, value_eq_of_rank_eq rank_eq⟩
  rw [isFinite_iff_rank] at yFinite ⊢
  rwa [rank_eq]

end Binary32

end TextureGraph
