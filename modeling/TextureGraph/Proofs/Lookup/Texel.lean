import TextureGraph.Proofs.Binary32.Integral
import TextureGraph.Proofs.Lookup

/-!
# Texels of a lookup

A texel coordinate is wrapped twice, first as a rounded number and then as an integer. The
first wrapping keeps it so small that its neighbour is an integer of the same width, whatever
number came in; the second one puts both inside the image.
-/

namespace TextureGraph

/-! ## Sizes as numbers -/

namespace Binary32

/-- Sizes of images become finite numbers, which rounding may have raised by a little. -/
theorem ofNat_size_bounds {n : ℕ} (n_pos : 0 < n) (n_lt : n < 2 ^ 32) :
    (Binary32.ofNat n).isFinite ∧ 0 < (Binary32.ofNat n).value ∧
      (Binary32.ofNat n).value ≤ 2 ^ 32 := by
  obtain ⟨oneFinite, oneValue⟩ := ofNat_exact (n := 1) (by norm_num)
  have topNearest := isNearest_ofNat (2 ^ 32)
  obtain ⟨topFinite, topValue⟩ :=
    topNearest.eq_of_exact (n := 1) (e := 32) (by norm_num) (by norm_num) (by norm_num)
      (by norm_num)
  have one_le : Binary32.ofNat 1 ≤ Binary32.ofNat n :=
    (isNearest_ofNat 1).le (isNearest_ofNat n) (by exact_mod_cast n_pos)
  have le_top : Binary32.ofNat n ≤ Binary32.ofNat (2 ^ 32) :=
    (isNearest_ofNat n).le topNearest (by exact_mod_cast n_lt.le)
  have finite := isFinite_of_le_of_le oneFinite topFinite one_le le_top
  rw [le_iff_value_le oneFinite finite, oneValue] at one_le
  rw [le_iff_value_le finite topFinite, topValue] at le_top
  refine ⟨finite, ?_, ?_⟩
  · exact lt_of_lt_of_le (by norm_num) one_le
  · exact_mod_cast le_top

end Binary32

namespace Image

open Binary32

variable {image : Image}

/-- A wrapped coordinate is not negative and hardly above the size, for infinities and NaNs
too. -/
theorem wrapCoordinate_bounds {size : UInt32} (size_pos : 0 < size.toNat) (cell : Binary32) :
    0 ≤ wrapCoordinate size cell ∧ wrapCoordinate size cell ≤ 2 ^ 32 := by
  obtain ⟨finite, value_pos, value_le⟩ := ofNat_size_bounds size_pos size.toNat_lt
  have nonzero : (Binary32.ofNat size.toNat).magnitude ≠ 0 := by
    intro zero
    have modulus_eq := modulus_eq_zero zero
    rw [← abs_value, abs_eq_zero] at modulus_eq
    exact value_pos.ne' modulus_eq
  unfold wrapCoordinate toInt64
  by_cases cellFinite : cell.isFinite
  · obtain ⟨nonneg, le_abs⟩ := remEuclid_bounds cellFinite finite nonzero
    set wrapped := cell.remEuclid (Binary32.ofNat size.toNat)
    have absFinite := isFinite_abs finite
    have wrappedFinite := isFinite_of_le_of_le isFinite_zero absFinite nonneg le_abs
    rw [zero_le_iff wrappedFinite] at nonneg
    rw [le_iff_value_le wrappedFinite absFinite, value_abs, ← abs_value,
      abs_of_pos value_pos] at le_abs
    have floor_le : ⌊wrapped.value⌋₊ ≤ 2 ^ 32 :=
      Nat.floor_le_of_le (by exact_mod_cast le_abs.trans value_le)
    rw [toIntClamped_of_nonneg (isNaN_eq_false_of_isFinite wrappedFinite) nonneg (by norm_num)
      (by norm_num)]
    omega
  · rw [remEuclid_of_not_isFinite cellFinite]
    decide

/-- Column of the first texel that a lookup reads, before it is wrapped as an integer. -/
def column (image : Image) (uv : Vec2) : ℤ :=
  wrapCoordinate image.width (uv.x * Binary32.ofNat image.width.toNat - 0.5).floor

/-- Row of the first texel that a lookup reads, before it is wrapped as an integer. -/
def row (image : Image) (uv : Vec2) : ℤ :=
  wrapCoordinate image.height (uv.y * Binary32.ofNat image.height.toNat - 0.5).floor

/-- A lookup that computes with integers in their range and reads nothing but pixels. -/
structure ReadsInside (image : Image) (uv : Vec2) : Prop where
  divisor_pos : ∀ size ∈ [image.width, image.height], 0 < size.toNat ∧
    (Binary32.ofNat size.toNat).isFinite ∧ 0 < Binary32.ofNat size.toNat
  coordinate_fits : ∀ coordinate ∈ [image.column uv, image.row uv],
    0 ≤ coordinate ∧ coordinate + 1 ≤ 0x7fffffffffffffff
  positions : (image.samples uv).map Prod.snd =
    [image.texelIndex (image.column uv) (image.row uv),
     image.texelIndex (image.column uv) (image.row uv + 1),
     image.texelIndex (image.column uv + 1) (image.row uv),
     image.texelIndex (image.column uv + 1) (image.row uv + 1)]
  inside : ∀ sample ∈ image.samples uv, sample.2 < image.pixels.length
  addressable : image.pixels.length < 2 ^ 64
  answers : ∃ color, image.lookup? uv = some color

theorem area_lt (image : Image) : image.area < 2 ^ 64 :=
  calc image.area
    _ ≤ (2 ^ 32 - 1) * (2 ^ 32 - 1) :=
        Nat.mul_le_mul (Nat.le_pred_of_lt image.width.toNat_lt)
          (Nat.le_pred_of_lt image.height.toNat_lt)
    _ < 2 ^ 64 := by norm_num

theorem WellFormed.readsInside (wellFormed : image.WellFormed) (uv : Vec2) :
    image.ReadsInside uv := by
  have width_pos : 0 < image.width.toNat := Nat.pos_of_mul_pos_right wellFormed.area_pos
  have height_pos : 0 < image.height.toNat := Nat.pos_of_mul_pos_left wellFormed.area_pos
  have divisor {size : UInt32} (size_pos : 0 < size.toNat) :
      0 < size.toNat ∧ (Binary32.ofNat size.toNat).isFinite ∧ 0 < Binary32.ofNat size.toNat := by
    obtain ⟨finite, value_pos, -⟩ := ofNat_size_bounds size_pos size.toNat_lt
    exact ⟨size_pos, finite, by rwa [lt_iff_value_lt isFinite_zero finite, value_zero]⟩
  have fits {size : UInt32} (size_pos : 0 < size.toNat) (cell : Binary32) :
      0 ≤ wrapCoordinate size cell ∧ wrapCoordinate size cell + 1 ≤ 0x7fffffffffffffff := by
    have bounds := wrapCoordinate_bounds size_pos cell
    omega
  exact {
    divisor_pos := List.forall_mem_cons.mpr
      ⟨divisor width_pos, List.forall_mem_singleton.mpr (divisor height_pos)⟩
    coordinate_fits := List.forall_mem_cons.mpr
      ⟨fits width_pos _, List.forall_mem_singleton.mpr (fits height_pos _)⟩
    positions := rfl
    inside := by
      have pixels_length := wellFormed.pixels_length
      simp [samples, pixels_length, texelIndex_lt wellFormed.area_pos]
    addressable := wellFormed.pixels_length ▸ image.area_lt
    answers := wellFormed.exists_lookup?_eq_some uv }

end Image

namespace Table

/-- Of an image that a table stores, no lookup reads anything outside, wherever it is asked
for a colour. -/
theorem addImage_readsInside {table : Table} {image : Image} {id : Nat}
    (stored : (table.addImage image).1 = .ok id) (uv : Vec2) : image.ReadsInside uv := by
  rcases table.addImage_cases image with ⟨error, refused⟩ | ⟨wellFormed, -⟩
  · rw [refused] at stored
    cases stored
  · exact wellFormed.readsInside uv

/-- Two pixels beside each other. -/
def pair : Image where
  name := "pair"
  width := 2
  height := 1
  pixels := [Vec3.zero, Vec3.one]

/-- A coordinate that is not a number reads a pixel as well. -/
theorem pair_readsInside :
    (empty.addImage pair).1 = .ok 0 ∧ pair.ReadsInside ⟨Binary32.nan, 0⟩ := by
  have stored : (empty.addImage pair).1 = .ok 0 := by decide
  exact ⟨stored, addImage_readsInside stored ⟨Binary32.nan, 0⟩⟩

end Table

end TextureGraph
