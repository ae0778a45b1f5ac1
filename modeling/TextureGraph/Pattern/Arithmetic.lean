import TextureGraph.Vector

/-!
# Arithmetic of texture values

The scalar operations that textures are combined with, made total where the real
operation is undefined, and blends of scalars and colours.
-/

namespace TextureGraph

namespace Pattern

/-- Quotient, zero for a zero divisor. -/
def safeDiv (a b : Binary32) : Binary32 :=
  if b.numEq 0 then 0 else a / b

/-- Power, zero where it would be complex. -/
def safePow (base exponent : Binary32) : Binary32 :=
  if base < 0 ∧ exponent.fract.numEq 0 = false then 0 else base.pow exponent

/-- Remainder lifted by the modulus where it is not at least zero, and zero for a
zero modulus. -/
def safeMod (value modulus : Binary32) : Binary32 :=
  if modulus.numEq 0 then 0
  else
    let r := value.remainder modulus
    if 0 ≤ r then r else r + modulus.abs

/-- Clamp to an interval; where its ends are crossed the upper one wins. -/
def clampBetween (v low high : Binary32) : Binary32 :=
  (v.max low).min high

def clampColor (c : Vec3) (low high : Binary32) : Vec3 :=
  (c.max (Vec3.splat low)).min (Vec3.splat high)

/-- Blend from `a` to `b` by an amount clamped to the unit interval. -/
def mix (amount a b : Binary32) : Binary32 :=
  let t := amount.clampUnit
  (1 - t) * a + t * b

def mixColor (amount : Binary32) (a b : Vec3) : Vec3 :=
  let t := amount.clampUnit
  (1 - t) * a + t * b

/-- Fractional surface coordinates, the weights of a bilinear patch. -/
def patchWeights (uv : Vec2) : Vec2 :=
  ⟨uv.x - uv.x.floor, uv.y - uv.y.floor⟩

/-- Bilinear blend of four corners, of which the second index follows `v`. -/
def bilinear (w : Vec2) (c00 c01 c10 c11 : Binary32) : Binary32 :=
  let near := (1 - w.y) * c00 + w.y * c01
  let far := (1 - w.y) * c10 + w.y * c11
  (1 - w.x) * near + w.x * far

def bilinearColor (w : Vec2) (c00 c01 c10 c11 : Vec3) : Vec3 :=
  let near := (1 - w.y) * c00 + w.y * c01
  let far := (1 - w.y) * c10 + w.y * c11
  (1 - w.x) * near + w.x * far

end Pattern

end TextureGraph
