import TextureGraph.Proofs.Lookup.Segment

/-!
# Interpolated colours

Interpolation between finite colours gives no NaN as long as its parameter is a number of the
unit interval. The parameter of a segment is one if the way from the lower end to the amount
is finite. Where that overflows, the span does too, and the parameter is the quotient of two
infinities.
-/

namespace TextureGraph

namespace Binary32

variable {x y t : Binary32} {v : ℚ}

/-! ## The unit interval -/

/-- Finite numbers from zero to one. -/
structure InUnit (t : Binary32) : Prop where
  finite : t.isFinite
  nonneg : 0 ≤ t.value
  le_one : t.value ≤ 1

theorem IsNearest.inUnit (nearest : t.IsNearest v) (nonneg : 0 ≤ v) (le_one : v ≤ 1) :
    t.InUnit := by
  have zero_le := nearest.le_of_value_le isFinite_zero (value_zero.trans_le nonneg)
  have le_unit := nearest.le_of_le_value isFinite_one (le_one.trans_eq value_one.symm)
  have finite := isFinite_of_le_of_le isFinite_zero isFinite_one zero_le le_unit
  rw [zero_le_iff finite] at zero_le
  rw [le_iff_value_le finite isFinite_one, value_one] at le_unit
  exact ⟨finite, zero_le, le_unit⟩

namespace InUnit

theorem of_magnitude_eq_zero (zero : t.magnitude = 0) : t.InUnit := by
  have value_eq : t.value = 0 := by rw [← abs_eq_zero, abs_value, modulus_eq_zero zero]
  exact ⟨isFinite_iff.mpr (by rw [zero]; decide), value_eq.ge, value_eq.le.trans zero_le_one⟩

theorem one_sub (inUnit : t.InUnit) : (1 - t).InUnit := by
  have nonneg := inUnit.nonneg
  have le_one := inUnit.le_one
  have nearest := isNearest_sub isFinite_one inUnit.finite
  rw [value_one] at nearest
  exact nearest.inUnit (by linarith) (by linarith)

/-- Scaling by a number of the unit interval does not overflow. -/
theorem isFinite_mul (inUnit : t.InUnit) (finite : x.isFinite) : (x * t).isFinite := by
  have nonneg := inUnit.nonneg
  have le_one := inUnit.le_one
  have nearest := isNearest_mul finite inUnit.finite
  rcases le_total 0 x.value with positive | negative
  · exact isFinite_of_le_of_le isFinite_zero finite
      (nearest.le_of_value_le isFinite_zero (value_zero.trans_le (mul_nonneg positive nonneg)))
      (nearest.le_of_le_value finite (mul_le_of_le_one_right positive le_one))
  · exact isFinite_of_le_of_le finite isFinite_zero
      (nearest.le_of_value_le finite (le_mul_of_le_one_right negative le_one))
      (nearest.le_of_le_value isFinite_zero
        ((mul_nonpos_of_nonpos_of_nonneg negative nonneg).trans_eq value_zero.symm))

theorem isNaN_mix (inUnit : t.InUnit) (xFinite : x.isFinite) (yFinite : y.isFinite) :
    (x * (1 - t) + y * t).isNaN = false :=
  (isNearest_add (inUnit.one_sub.isFinite_mul xFinite) (inUnit.isFinite_mul yFinite)).isNaN_eq

end InUnit

theorem isNaN_mix_of_isNaN (isNaN : t.isNaN) (x y : Binary32) :
    (x * (1 - t) + y * t).isNaN :=
  isNaN_add_left (isNaN_mul_right (isNaN_sub_right isNaN 1) x) _

end Binary32

namespace Vec3

open Binary32

variable {low high : Vec3} {t : Binary32}

theorem toList_lerp (low high : Vec3) (t : Binary32) :
    (low.lerp high t).toList =
      [low.x * (1 - t) + high.x * t, low.y * (1 - t) + high.y * t,
       low.z * (1 - t) + high.z * t] :=
  rfl

theorem isNaN_lerp (inUnit : t.InUnit) (lowFinite : ∀ channel ∈ low.toList, channel.isFinite)
    (highFinite : ∀ channel ∈ high.toList, channel.isFinite) :
    ∀ channel ∈ (low.lerp high t).toList, channel.isNaN = false := by
  simp only [toList, List.forall_mem_cons] at lowFinite highFinite
  simp only [toList_lerp, List.forall_mem_cons]
  exact ⟨inUnit.isNaN_mix lowFinite.1 highFinite.1,
    inUnit.isNaN_mix lowFinite.2.1 highFinite.2.1,
    inUnit.isNaN_mix lowFinite.2.2.1 highFinite.2.2.1, by simp⟩

theorem isNaN_lerp_of_isNaN (isNaN : t.isNaN) (low high : Vec3) :
    ∀ channel ∈ (low.lerp high t).toList, channel.isNaN := by
  simp [toList_lerp, isNaN_mix_of_isNaN isNaN]

end Vec3

namespace Band

open Binary32

variable {band : Band} {amount low high : Binary32} {k : ℕ}

/-! ## The parameter of a segment -/

namespace Encloses

theorem offsets_isFinite (encloses : band.Encloses k low high amount)
    (wellFormed : band.WellFormed) : low.isFinite ∧ high.isFinite :=
  ⟨wellFormed.finite _ (List.mem_of_getElem? encloses.low_found),
    wellFormed.finite _ (List.mem_of_getElem? encloses.high_found)⟩

/-- The part of a segment below the amount is not longer than the segment, and rounding keeps
this. -/
theorem part_le_span (encloses : band.Encloses k low high amount)
    (wellFormed : band.WellFormed) : 0 ≤ amount - low ∧ amount - low ≤ high - low := by
  obtain ⟨lowFinite, highFinite⟩ := encloses.offsets_isFinite wellFormed
  have le_high := Binary32.le_of_lt encloses.lt_high
  have low_le := encloses.low_le
  have amountFinite := isFinite_of_le_of_le lowFinite highFinite low_le le_high
  have partNearest := isNearest_sub amountFinite lowFinite
  rw [le_iff_value_le lowFinite amountFinite] at low_le
  rw [le_iff_value_le amountFinite highFinite] at le_high
  exact ⟨partNearest.le_of_value_le isFinite_zero (by rw [value_zero]; linarith),
    partNearest.le (isNearest_sub highFinite lowFinite) (by linarith)⟩

theorem parameter_inUnit (encloses : band.Encloses k low high amount)
    (wellFormed : band.WellFormed) (partFinite : (amount - low).isFinite) :
    ((amount - low) / (high - low)).InUnit := by
  have span_pos := encloses.zero_lt_span wellFormed
  obtain ⟨part_nonneg, part_le⟩ := encloses.part_le_span wellFormed
  by_cases spanFinite : (high - low).isFinite
  · rw [lt_iff_value_lt isFinite_zero spanFinite, value_zero] at span_pos
    rw [zero_le_iff partFinite] at part_nonneg
    rw [le_iff_value_le partFinite spanFinite] at part_le
    exact (isNearest_div partFinite spanFinite span_pos.ne').inUnit
      (div_nonneg part_nonneg span_pos.le) ((div_le_one span_pos).mpr part_le)
  · exact .of_magnitude_eq_zero
      (magnitude_div_infinite partFinite (magnitude_of_infinite (le_iff.mp part_le).2.1 spanFinite))

/-- A part that overflows makes the span overflow. -/
theorem isNaN_parameter (encloses : band.Encloses k low high amount)
    (wellFormed : band.WellFormed) (partInfinite : ¬ (amount - low).isFinite) :
    ((amount - low) / (high - low)).isNaN := by
  obtain ⟨part_nonneg, part_le⟩ := encloses.part_le_span wellFormed
  have spanInfinite : ¬ (high - low).isFinite := fun spanFinite =>
    partInfinite (isFinite_of_le_of_le isFinite_zero spanFinite part_nonneg part_le)
  obtain ⟨partNumber, spanNumber, -⟩ := le_iff.mp part_le
  exact isNaN_div_infinite (magnitude_of_infinite partNumber partInfinite)
    (magnitude_of_infinite spanNumber spanInfinite)

end Encloses

/-! ## Lookups -/

/-- Colours of a band whose channels are finite. -/
def HasFiniteColors (band : Band) : Prop :=
  ∀ color ∈ band.values, ∀ channel ∈ color.toList, channel.isFinite

/-- An amount on a segment so long that the way to it overflows. -/
def Overflows (band : Band) (amount : Binary32) : Prop :=
  ∃ k low high, band.Encloses k low high amount ∧ ¬ (amount - low).isFinite

theorem HasFiniteColors.isNaN_eq_false (finiteColors : band.HasFiniteColors) {i : ℕ} {color : Vec3}
    (found : band.values[i]? = some color) : ∀ channel ∈ color.toList, channel.isNaN = false :=
  fun channel member => isNaN_eq_false_of_isFinite
    (finiteColors color (List.mem_of_getElem? found) channel member)

theorem exists_isNaN_of_overflows (wellFormed : band.WellFormed)
    (overflows : band.Overflows amount) :
    ∃ color, band.lookup? amount = some color ∧ ∀ channel ∈ color.toList, channel.isNaN := by
  obtain ⟨k, low, high, encloses, partInfinite⟩ := overflows
  obtain ⟨lowColor, highColor, lowFound, highFound⟩ := encloses.exists_colors wellFormed
  exact ⟨_, encloses.lookup?_eq wellFormed lowFound highFound,
    Vec3.isNaN_lerp_of_isNaN (encloses.isNaN_parameter wellFormed partInfinite) _ _⟩

theorem exists_number_of_not_overflows (wellFormed : band.WellFormed)
    (finiteColors : band.HasFiniteColors) (fits : ¬ band.Overflows amount) :
    ∃ color, band.lookup? amount = some color ∧
      ∀ channel ∈ color.toList, channel.isNaN = false := by
  rcases Nat.eq_zero_or_pos band.offsets.length with none | some
  · refine ⟨Vec3.zero, ?_, by decide⟩
    rw [lookup?, wellFormed.pairedCount_eq, if_pos none]
    rfl
  · have selects := wellFormed.selects (List.getElem?_eq_getElem some)
      (List.getElem?_eq_getElem (Nat.sub_lt some one_pos)) amount
    obtain ⟨color, found⟩ := selects.answers
    refine ⟨color, found, ?_⟩
    by_cases before : amount.isNaN ∨ amount < band.offsets[0]
    · exact finiteColors.isNaN_eq_false ((selects.before before).symm.trans found)
    by_cases after : band.offsets[band.offsets.length - 1] ≤ amount
    · exact finiteColors.isNaN_eq_false ((selects.after after).symm.trans found)
    obtain ⟨isNumber, not_below⟩ := not_or.mp before
    obtain ⟨k, low, high, lowColor, highColor, encloses, -, lowFound, highFound, -, -, -,
      lookup_eq⟩ := selects.between isNumber not_below after
    have partFinite : (amount - low).isFinite := by
      by_contra partInfinite
      exact fits ⟨k, low, high, encloses, partInfinite⟩
    cases found.symm.trans lookup_eq
    exact Vec3.isNaN_lerp (encloses.parameter_inUnit wellFormed partFinite)
      (finiteColors _ (List.mem_of_getElem? lowFound))
      (finiteColors _ (List.mem_of_getElem? highFound))

/-- Of an accepted band with finite colours, a lookup gives a colour with a NaN just where the
way from the lower end of the segment to the amount overflows. -/
theorem lookup?_isNaN_iff_overflows {images : List Image} {id : NodeId}
    (accepted : (TextureKind.band band).check images id = .ok ())
    (finiteColors : band.HasFiniteColors) (amount : Binary32) :
    ∃ color, band.lookup? amount = some color ∧
      ((∃ channel ∈ color.toList, channel.isNaN) ↔ band.Overflows amount) := by
  have wellFormed : band.WellFormed := TextureKind.check_eq_ok_iff.mp accepted
  by_cases overflows : band.Overflows amount
  · obtain ⟨color, found, isNaN⟩ := exists_isNaN_of_overflows wellFormed overflows
    have member : color.x ∈ color.toList := List.mem_cons_self
    exact ⟨color, found, fun _ => overflows, fun _ => ⟨color.x, member, isNaN _ member⟩⟩
  · obtain ⟨color, found, numbers⟩ :=
      exists_number_of_not_overflows wellFormed finiteColors overflows
    refine ⟨color, found, ?_, fun absurd => (overflows absurd).elim⟩
    rintro ⟨channel, member, isNaN⟩
    rw [numbers channel member] at isNaN
    cases isNaN

/-- Black to white on a segment that is longer than the largest number. -/
def wide : Band where
  offsets := [⟨0xff400000⟩, ⟨0x7f400000⟩]
  values := [Vec3.zero, Vec3.one]

theorem wide_hasFiniteColors : wide.HasFiniteColors := by
  unfold HasFiniteColors
  decide

theorem wide_accepted : (TextureKind.band wide).check [] 0 = .ok () := by
  decide +kernel

/-- In front of the overflow the colours are numbers. -/
theorem wide_lookup :
    (TextureKind.band wide).check [] 0 = .ok () ∧ wide.HasFiniteColors ∧
    ∃ color, wide.lookup? 0 = some color ∧
      ((∃ channel ∈ color.toList, channel.isNaN) ↔ wide.Overflows 0) :=
  ⟨wide_accepted, wide_hasFiniteColors,
    lookup?_isNaN_iff_overflows wide_accepted wide_hasFiniteColors 0⟩

/-- Behind it they are NaNs, although the band was accepted and nothing in it is infinite. -/
theorem wide_lookup_isNaN :
    (TextureKind.band wide).check [] 0 = .ok () ∧ wide.HasFiniteColors ∧
    ∃ color, wide.lookup? ⟨0x7ec00000⟩ = some color ∧ ∀ channel ∈ color.toList, channel.isNaN :=
  ⟨wide_accepted, wide_hasFiniteColors, Vec3.splat nan, by decide +kernel, by decide⟩

end Band

end TextureGraph
