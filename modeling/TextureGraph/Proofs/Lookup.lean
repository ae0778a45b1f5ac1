import TextureGraph.Proofs.Table.Built

/-!
# Lookups that always answer

An image that a table has stored holds every texel that a lookup reads, and a band
that it has accepted holds every control point. Which of them are read makes no
difference here.
-/

namespace TextureGraph

namespace Image

variable {image : Image}

/-- A wrapped texel lies inside the declared size. -/
theorem texelIndex_lt (area_pos : 0 < image.area) (x y : Int) :
    image.texelIndex x y < image.area := by
  have width_pos : 0 < image.width.toNat := Nat.pos_of_mul_pos_right area_pos
  have height_pos : 0 < image.height.toNat := Nat.pos_of_mul_pos_left area_pos
  have column_lt : (x % (image.width.toNat : Int)).toNat < image.width.toNat := by
    have := Int.emod_lt_of_pos x (Int.natCast_pos.mpr width_pos)
    omega
  have row_lt : (y % (image.height.toNat : Int)).toNat < image.height.toNat := by
    have := Int.emod_lt_of_pos y (Int.natCast_pos.mpr height_pos)
    omega
  calc
    image.texelIndex x y
        < (y % (image.height.toNat : Int)).toNat * image.width.toNat + image.width.toNat :=
          Nat.add_lt_add_left column_lt _
    _ = ((y % (image.height.toNat : Int)).toNat + 1) * image.width.toNat :=
          (Nat.succ_mul _ _).symm
    _ ≤ image.height.toNat * image.width.toNat := Nat.mul_le_mul_right _ row_lt
    _ = image.area := Nat.mul_comm _ _

theorem WellFormed.exists_weighted?_eq_some (wellFormed : image.WellFormed) (weight : Binary32)
    (x y : Int) : ∃ color, image.weighted? (weight, image.texelIndex x y) = some color := by
  have inside : image.texelIndex x y < image.pixels.length := by
    rw [wellFormed.pixels_length]
    exact texelIndex_lt wellFormed.area_pos x y
  exact ⟨_, by rw [weighted?, List.getElem?_eq_getElem inside, Option.map_some]⟩

theorem WellFormed.exists_lookup?_eq_some (wellFormed : image.WellFormed) (uv : Vec2) :
    ∃ color, image.lookup? uv = some color := by
  have each := wellFormed.exists_weighted?_eq_some
  simp only [lookup?, samples, List.mapM_cons, List.mapM_nil]
  rcases each _ _ _ with ⟨c00, found00⟩
  rw [found00]
  rcases each _ _ _ with ⟨c01, found01⟩
  rw [found01]
  rcases each _ _ _ with ⟨c10, found10⟩
  rw [found10]
  rcases each _ _ _ with ⟨c11, found11⟩
  rw [found11]
  exact ⟨_, rfl⟩

end Image

namespace Band

variable {band : Band}

/-- At a position below the paired count there is an offset with its colour. -/
theorem exists_point {position : Nat} (inside : position < band.pairedCount) :
    ∃ offset color, band.offsets[position]? = some offset ∧
      band.values[position]? = some color := by
  have bounds := Nat.lt_min.mp inside
  exact ⟨_, _, List.getElem?_eq_getElem bounds.1, List.getElem?_eq_getElem bounds.2⟩

/-- Whatever the amount and wherever the search ends, the points that are read are there. -/
theorem exists_lookup?_eq_some (band : Band) (amount : Binary32) :
    ∃ color, band.lookup? amount = some color := by
  by_cases none_paired : band.pairedCount = 0
  · exact ⟨Vec3.zero, by simp [lookup?, none_paired]⟩
  · have paired : 0 < band.pairedCount := Nat.pos_of_ne_zero none_paired
    have last_lt : band.pairedCount - 1 < band.pairedCount := Nat.sub_lt paired Nat.one_pos
    rcases exists_point paired with ⟨first, firstColor, firstFound, firstColorFound⟩
    rcases exists_point last_lt with ⟨last, lastColor, lastFound, lastColorFound⟩
    simp only [lookup?, Option.pure_def, Option.bind_eq_bind, if_neg none_paired, firstFound,
      firstColorFound, lastFound, lastColorFound, Option.bind_some]
    split
    next => exact ⟨firstColor, rfl⟩
    next =>
      split
      next => exact ⟨lastColor, rfl⟩
      next =>
        split
        next =>
          obtain ⟨_, color, _, colorFound⟩ :=
            exists_point (Nat.lt_of_le_of_lt (Nat.min_le_right (band.upperIndex amount) _) last_lt)
          exact ⟨color, colorFound⟩
        next between =>
          have upper_lt : band.upperIndex amount < band.pairedCount := by omega
          obtain ⟨low, lowColor, lowFound, lowColorFound⟩ :=
            exists_point (Nat.lt_of_le_of_lt (Nat.sub_le _ 1) upper_lt)
          rcases exists_point upper_lt with ⟨high, highColor, highFound, highColorFound⟩
          rw [lowFound, highFound, lowColorFound, highColorFound]
          exact ⟨_, rfl⟩

end Band

end TextureGraph
