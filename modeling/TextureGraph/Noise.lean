import TextureGraph.Vector

/-!
# Gradient noise

Improved gradient noise on the integer lattice, and the sums of its octaves. The
gradient at a lattice point is drawn from twelve directions by hashing the three
coordinates through a permutation of the bytes.
-/

namespace TextureGraph

namespace Noise

/-- A permutation of the numbers below 256. -/
def permutationTable : Array Nat := #[
  151, 160, 137, 91, 90, 15, 131, 13, 201, 95, 96, 53, 194, 233, 7, 225,
  140, 36, 103, 30, 69, 142, 8, 99, 37, 240, 21, 10, 23, 190, 6, 148,
  247, 120, 234, 75, 0, 26, 197, 62, 94, 252, 219, 203, 117, 35, 11, 32,
  57, 177, 33, 88, 237, 149, 56, 87, 174, 20, 125, 136, 171, 168, 68, 175,
  74, 165, 71, 134, 139, 48, 27, 166, 77, 146, 158, 231, 83, 111, 229, 122,
  60, 211, 133, 230, 220, 105, 92, 41, 55, 46, 245, 40, 244, 102, 143, 54,
  65, 25, 63, 161, 1, 216, 80, 73, 209, 76, 132, 187, 208, 89, 18, 169,
  200, 196, 135, 130, 116, 188, 159, 86, 164, 100, 109, 198, 173, 186, 3, 64,
  52, 217, 226, 250, 124, 123, 5, 202, 38, 147, 118, 126, 255, 82, 85, 212,
  207, 206, 59, 227, 47, 16, 58, 17, 182, 189, 28, 42, 223, 183, 170, 213,
  119, 248, 152, 2, 44, 154, 163, 70, 221, 153, 101, 155, 167, 43, 172, 9,
  129, 22, 39, 253, 19, 98, 108, 110, 79, 113, 224, 232, 178, 185, 112, 104,
  218, 246, 97, 228, 251, 34, 242, 193, 238, 210, 144, 12, 191, 179, 162, 241,
  81, 51, 145, 235, 249, 14, 239, 107, 49, 192, 214, 31, 181, 199, 106, 157,
  184, 84, 204, 176, 115, 121, 50, 45, 127, 4, 150, 254, 138, 236, 205, 93,
  222, 114, 67, 29, 24, 72, 243, 141, 128, 195, 78, 66, 215, 61, 156, 180]

/-- Table entry at the low byte of an index. -/
def permute (i : Nat) : Nat :=
  permutationTable.getD (i % 256) 0

/-- Inner product of an offset with the gradient at a lattice point. -/
def gradient (x y z : Nat) (offset : Vec3) : Binary32 :=
  let hash := permute (permute (permute x + y) + z) % 16
  let u := if hash < 8 ∨ hash = 12 ∨ hash = 13 then offset.x else offset.y
  let v := if hash < 4 ∨ hash = 12 ∨ hash = 13 then offset.y else offset.z
  (if hash % 2 = 1 then -u else u) + (if hash / 2 % 2 = 1 then -v else v)

/-- Smooth step with vanishing first and second derivatives at both ends. -/
def fade (t : Binary32) : Binary32 :=
  let t3 := t * t * t
  let t4 := t3 * t
  6 * t4 * t - 15 * t4 + 10 * t3

/-- Blend from `a` at zero to `b` at one. -/
def blend (t a b : Binary32) : Binary32 :=
  (1 - t) * a + t * b

/-- Lattice coordinate of a rounded coordinate, which repeats every 256 cells. -/
def latticeIndex (cell : Binary32) : Nat :=
  (cell.toInt32 % 256).toNat

/-- Gradient noise at a point, roughly within `[-1, 1]`. -/
def noise (p : Vec3) : Binary32 :=
  let cell := p.map Binary32.floor
  let near := p - cell
  let far : Vec3 := ⟨near.x - 1, near.y - 1, near.z - 1⟩
  let ix := latticeIndex cell.x
  let iy := latticeIndex cell.y
  let iz := latticeIndex cell.z
  let corner000 := gradient ix iy iz near
  let corner100 := gradient (ix + 1) iy iz ⟨far.x, near.y, near.z⟩
  let corner010 := gradient ix (iy + 1) iz ⟨near.x, far.y, near.z⟩
  let corner110 := gradient (ix + 1) (iy + 1) iz ⟨far.x, far.y, near.z⟩
  let corner001 := gradient ix iy (iz + 1) ⟨near.x, near.y, far.z⟩
  let corner101 := gradient (ix + 1) iy (iz + 1) ⟨far.x, near.y, far.z⟩
  let corner011 := gradient ix (iy + 1) (iz + 1) ⟨near.x, far.y, far.z⟩
  let corner111 := gradient (ix + 1) (iy + 1) (iz + 1) far
  let weight := near.map fade
  let edge00 := blend weight.x corner000 corner100
  let edge10 := blend weight.x corner010 corner110
  let edge01 := blend weight.x corner001 corner101
  let edge11 := blend weight.x corner011 corner111
  blend weight.z (blend weight.y edge00 edge10) (blend weight.y edge01 edge11)

/-- Noise in the plane `z = 0.5`. -/
def planeNoise (x y : Binary32) : Binary32 :=
  noise ⟨x, y, 0.5⟩

/-- Sum of octaves, each a little less than twice as fine as the one before and
weighted `roughness` times as much. -/
def octaveSum (octave : Vec3 → Binary32) (p : Vec3) (roughness : Binary32) :
    (octaves : Nat) → (sum frequency weight : Binary32) → Binary32
  | 0, sum, _, _ => sum
  | octaves + 1, sum, frequency, weight =>
      octaveSum octave p roughness octaves
        (sum + weight * octave (frequency * p)) (frequency * 1.99) (weight * roughness)

/-- Fractal sum of noise. -/
def fractal (p : Vec3) (roughness : Binary32) (octaves : Nat) : Binary32 :=
  octaveSum noise p roughness octaves 0 1 1

/-- Fractal sum of the absolute value of noise. -/
def turbulence (p : Vec3) (roughness : Binary32) (octaves : Nat) : Binary32 :=
  octaveSum (fun q => (noise q).abs) p roughness octaves 0 1 1

end Noise

end TextureGraph
