import TextureGraph.Color
import TextureGraph.HitPoint

/-!
# Projected and displaced lookups

Triplanar projection blends three lookups, one along each axis, by the direction
of the shading normal. Distortion moves the hit point by a looked-up offset.
-/

namespace TextureGraph

namespace Pattern

/-- Blend weights of the three axes, which add up to one where they can. -/
def triplanarWeights (shadingNormal : Vec3) : Vec3 :=
  let w := shadingNormal.abs
  let sum := w.x + w.y + w.z
  if 0 < sum then w / sum else Vec3.splat (1 / 3)

/-- Coordinates of a point in the plane across an axis. -/
def triplanarUv (p : Vec3) : (axis : Nat) → Vec2
  | 0 => ⟨p.y, p.z⟩
  | 1 => ⟨p.x, p.z⟩
  | _ => ⟨p.x, p.y⟩

def triplanarBlend (weights : Vec3) (c0 c1 c2 : Color) : Color :=
  weights.x * c0 + weights.y * c1 + weights.z * c2

/-- Move position and surface coordinates by a scaled offset. -/
def distort (hit : HitPoint) (offset : Vec3) (strength : Binary32) : HitPoint :=
  hit.withPlacement (hit.position + strength * offset) (hit.uv + strength * offset.truncate)

end Pattern

end TextureGraph
