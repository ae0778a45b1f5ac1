import TextureGraph.Proofs.Binary32.Integral
import TextureGraph.Color

/-!
# Sectors of the hue circle

A hue is wrapped into one turn by a remainder that is lifted where it is negative. The lifting
sum is rounded, and so closely below zero the wrapped hue is a whole turn. Such a hue falls
behind the last of the six sectors; every other one falls into one of them.
-/

namespace TextureGraph

namespace Color

open Binary32

variable {hue wrapped rest : Binary32}

/-- The negative number farthest from zero whose sum with one is rounded to one. The exact sum
is halfway between one and the number below. -/
def liftingTie : Binary32 := ⟨0xb3000000⟩

/-! ## Sectors of wrapped hues -/

theorem six_exact : (6 : Binary32).isFinite ∧ (6 : Binary32).value = 6 := by
  exact_mod_cast ofNat_exact (n := 6) (by norm_num)

/-- Six times a number below one is rounded to a number below six. -/
theorem sector_lt_of_lt_one (finite : wrapped.isFinite) (nonneg : 0 ≤ wrapped)
    (lt : wrapped < 1) : (wrapped * 6).floor.toNat32 < 6 := by
  obtain ⟨sixFinite, sixValue⟩ := six_exact
  have belowFinite : (⟨0x3f7fffff⟩ : Binary32).isFinite := by decide
  have le_below : wrapped ≤ ⟨0x3f7fffff⟩ := le_of_lt_next (by decide) (by decide) lt
  rw [le_iff_value_le finite belowFinite] at le_below
  rw [zero_le_iff finite] at nonneg
  have nearest := isNearest_mul finite sixFinite
  have product_nonneg : 0 ≤ wrapped * 6 :=
    nearest.le_of_value_le isFinite_zero (by rw [value_zero, sixValue]; linarith)
  have product_lt : wrapped * 6 < 6 := Binary32.lt_of_le_of_lt
    (nearest.le (isNearest_mul belowFinite sixFinite) (by rw [sixValue]; linarith))
    (by decide +kernel)
  have productFinite := isFinite_of_le_of_le isFinite_zero sixFinite product_nonneg
    (Binary32.le_of_lt product_lt)
  rw [zero_le_iff productFinite] at product_nonneg
  rw [lt_iff_value_lt productFinite sixFinite, sixValue] at product_lt
  rw [toNat32_floor productFinite product_nonneg (product_lt.trans (by norm_num)),
    Nat.floor_lt product_nonneg]
  exact_mod_cast product_lt

theorem sector_of_value_eq_one (finite : wrapped.isFinite) (value_eq : wrapped.value = 1) :
    (wrapped * 6).floor.toNat32 = 6 := by
  obtain ⟨sixFinite, sixValue⟩ := six_exact
  have nearest := isNearest_mul finite sixFinite
  rw [value_eq, sixValue, one_mul] at nearest
  obtain ⟨productFinite, product_eq⟩ :=
    nearest.eq_of_exact (n := 6) (e := 0) (by norm_num) (by norm_num) (by norm_num) (by norm_num)
  rw [toNat32_floor productFinite (by rw [product_eq]; norm_num) (by rw [product_eq]; norm_num),
    product_eq]
  norm_num

/-! ## Wrapped hues -/

theorem abs_turn : (1 : Binary32).abs = 1 := by
  decide

/-- Sums with one are below one from the next number below the tie on. -/
theorem add_one_lt_one_iff (finite : rest.isFinite) : rest + 1 < 1 ↔ rest < liftingTie := by
  have tieFinite : liftingTie.isFinite := by decide
  have nearest := isNearest_add finite isFinite_one
  constructor
  · intro lt
    by_contra not_lt
    have tie_le := le_of_not_lt tieFinite finite not_lt
    rw [le_iff_value_le tieFinite finite] at tie_le
    have one_le : (1 : Binary32) ≤ rest + 1 := Binary32.le_trans
      (by decide +kernel : (1 : Binary32) ≤ liftingTie + 1)
      ((isNearest_add tieFinite isFinite_one).le nearest (by linarith))
    exact not_lt_of_le one_le lt
  · intro lt
    have belowFinite : (⟨0xb3000001⟩ : Binary32).isFinite := by decide
    have le_below : rest ≤ ⟨0xb3000001⟩ := le_of_lt_next (by decide) (by decide) lt
    rw [le_iff_value_le finite belowFinite] at le_below
    exact Binary32.lt_of_le_of_lt
      (nearest.le (isNearest_add belowFinite isFinite_one) (by linarith)) (by decide +kernel)

/-- A wrapped hue is a whole turn only after lifting, which puts it there from the tie on. -/
theorem remEuclid_lt_one_iff (finite : hue.isFinite) :
    hue.remEuclid 1 < 1 ↔ ¬ (liftingTie ≤ hue.remainder 1 ∧ hue.remainder 1 < 0) := by
  obtain ⟨restFinite, size_lt⟩ := abs_remainder_lt finite isFinite_one (by decide)
  rw [← abs_value, value_one, abs_one, abs_lt] at size_lt
  have tieFinite : liftingTie.isFinite := by decide
  rw [remEuclid, abs_turn]
  by_cases negative : hue.remainder 1 < 0
  · simp only [negative, if_true, and_true]
    rw [add_one_lt_one_iff restFinite]
    exact ⟨fun lt tie_le => not_lt_of_le tie_le lt,
      fun not_le => (lt_or_le (isNaN_eq_false_of_isFinite restFinite)
        (isNaN_eq_false_of_isFinite tieFinite)).resolve_right not_le⟩
  · simp only [negative, if_false, and_false, not_false_eq_true, iff_true]
    rw [lt_iff_value_lt restFinite isFinite_one, value_one]
    exact size_lt.2

/-! ## Sectors -/

theorem hueSector_of_not_isFinite (infinite : ¬ hue.isFinite) : hueSector hue = 0 := by
  rw [hueSector, hueSextant, remEuclid_of_not_isFinite infinite]
  decide +kernel

/-- Just the hues closely below a whole number of turns fall behind the six sectors. A hue that
is not finite counts as zero. -/
theorem hueSector_eq_six_iff (hue : Binary32) :
    hueSector hue ≤ 6 ∧
      (hueSector hue = 6 ↔ liftingTie ≤ hue.remainder 1 ∧ hue.remainder 1 < 0) := by
  by_cases finite : hue.isFinite
  · obtain ⟨nonneg, le_turn⟩ := remEuclid_bounds finite isFinite_one (by decide)
    rw [abs_turn] at le_turn
    have wrappedFinite := isFinite_of_le_of_le isFinite_zero isFinite_one nonneg le_turn
    have lt_one_iff := remEuclid_lt_one_iff finite
    by_cases lt_one : hue.remEuclid 1 < 1
    · have sector_lt : hueSector hue < 6 := sector_lt_of_lt_one wrappedFinite nonneg lt_one
      have not_lifted := lt_one_iff.mp lt_one
      exact ⟨sector_lt.le, fun six => absurd six sector_lt.ne,
        fun lifted => absurd lifted not_lifted⟩
    · have lifted := not_not.mp (mt lt_one_iff.mpr lt_one)
      have value_eq : (hue.remEuclid 1).value = 1 := by
        rw [lt_iff_value_lt wrappedFinite isFinite_one, value_one] at lt_one
        rw [le_iff_value_le wrappedFinite isFinite_one, value_one] at le_turn
        exact le_antisymm le_turn (not_lt.mp lt_one)
      have sector_eq : hueSector hue = 6 := sector_of_value_eq_one wrappedFinite value_eq
      exact ⟨sector_eq.le, fun _ => lifted, fun _ => sector_eq⟩
  · have not_le : ¬ liftingTie ≤ hue.remainder 1 := by
      rw [remainder_of_not_isFinite finite]
      decide
    rw [hueSector_of_not_isFinite finite]
    exact ⟨by norm_num, fun six => absurd six (by norm_num), fun lifted => absurd lifted.1 not_le⟩

/-- A pale red of a hue a hair below zero turns out a pale magenta, and so does one that is
rotated there. -/
theorem behind_last_sector :
    (⟨0xaedbe6ff⟩ : Binary32).isFinite ∧ hueSector ⟨0xaedbe6ff⟩ = 6 ∧
      ofHsv ⟨⟨0xaedbe6ff⟩, 0.5, 1⟩ = ⟨1, 0.5, 1⟩ ∧
      hueSector (toHsv ⟨1, 0.5, 0.5⟩).x = 0 ∧
      hueSector ((toHsv ⟨1, 0.5, 0.5⟩).x + (⟨0x3effffff⟩ - 0.5)) = 6 ∧
      adjustHsv ⟨1, 0.5, 0.5⟩ ⟨0x3effffff⟩ 0.25 1 = ⟨1, 0.875, 1⟩ := by
  decide +kernel

end Color

end TextureGraph
