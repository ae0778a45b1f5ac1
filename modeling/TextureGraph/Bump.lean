import TextureGraph.HitPoint
import TextureGraph.Pattern.Arithmetic

/-!
# Bumped normals

A bump replaces the shading normal by the normal of a surface raised by a texture.
Some combinations of textures have a closed form, in which a normal is described
by its slopes along the shading frame. For all others the height is sampled three
times: at the hit point and moved a little along each tangent.
-/

namespace TextureGraph

namespace Bump

/-! ## Slopes in the shading frame -/

/-- Shading normal with two directions across it. -/
structure Frame where
  normal : Vec3
  u : Vec3
  v : Vec3
deriving DecidableEq, Repr

def frame (hit : HitPoint) : Frame :=
  let u := hit.dpdu.normalizeOrZero
  ⟨hit.shadingNormal, u, (hit.shadingNormal.cross u).normalizeOrZero⟩

/-- Slopes of a normal along the two directions of a frame. -/
def Frame.slopes (frame : Frame) (n : Vec3) : Vec2 :=
  let height := n.dot frame.normal
  ⟨Pattern.safeDiv (n.dot frame.u) height, Pattern.safeDiv (n.dot frame.v) height⟩

/-- Unit normal with given slopes. -/
def Frame.normalOf (frame : Frame) (slopes : Vec2) : Vec3 :=
  (frame.normal + slopes.x * frame.u + slopes.y * frame.v).normalizeOrZero

/-! ## Closed forms -/

/-- Bump of a sum. -/
def add (hit : HitPoint) (n1 n2 : Vec3) : Vec3 :=
  (n1 + n2 - hit.shadingNormal).normalizeOrZero

/-- Bump of a difference. -/
def subtract (hit : HitPoint) (n1 n2 : Vec3) : Vec3 :=
  (n1 - n2 + hit.shadingNormal).normalizeOrZero

/-- Bump of a product, by the product rule on slopes. -/
def scale (hit : HitPoint) (n1 n2 : Vec3) (t1 t2 : Binary32) : Vec3 :=
  let frame := frame hit
  let s1 := frame.slopes n1
  let s2 := frame.slopes n2
  frame.normalOf ⟨s1.x * t2 + t1 * s2.x, s1.y * t2 + t1 * s2.y⟩

/-- Bump of a blend whose amount has a bump of its own. -/
def mix (hit : HitPoint) (n1 n2 amountNormal : Vec3) (t1 t2 amount : Binary32) : Vec3 :=
  let frame := frame hit
  let s1 := frame.slopes n1
  let s2 := frame.slopes n2
  let sa := frame.slopes amountNormal
  let t := amount.clampUnit
  frame.normalOf
    ⟨Pattern.mix t s1.x s2.x + sa.x * (t2 - t1), Pattern.mix t s1.y s2.y + sa.y * (t2 - t1)⟩

/-- A normal turned to the side of another one. -/
def faceforward (n side : Vec3) : Vec3 :=
  if n.dot side < 0 then -n else n

/-- Normal coded as a colour in the shading frame. -/
def normalMap (hit : HitPoint) (color : Vec3) (scale : Binary32) : Vec3 :=
  let color := (color.max Vec3.zero).min Vec3.one
  let t := (2 : Binary32) * color - Vec3.one
  let frame := frame hit
  let bumped := (scale * t.x * frame.u + scale * t.y * frame.v + t.z * frame.normal).normalizeOrZero
  faceforward bumped frame.normal

/-! ## Finite differences -/

/-- Step in parameter space that moves the point by `distance` along a tangent. -/
def parametricStep (tangent : Vec3) (distance : Binary32) : Binary32 :=
  let length := tangent.length
  if 0 < length then distance / length else distance

/-- The hit point moved along the first tangent. -/
def offsetU (hit : HitPoint) (distance : Binary32) : HitPoint :=
  let du := parametricStep hit.dpdu distance
  { hit with
    position := hit.position + du * hit.dpdu
    uv := ⟨hit.uv.x + du, hit.uv.y⟩
    shadingNormal := (hit.shadingNormal + du * hit.dndu).normalizeOrZero }

/-- The hit point moved along the second tangent. -/
def offsetV (hit : HitPoint) (distance : Binary32) : HitPoint :=
  let dv := parametricStep hit.dpdv distance
  { hit with
    position := hit.position + dv * hit.dpdv
    uv := ⟨hit.uv.x, hit.uv.y + dv⟩
    shadingNormal := (hit.shadingNormal + dv * hit.dndv).normalizeOrZero }

/-- Bumped normal from the height at a hit point and at its two moved copies. -/
def finiteDifference (hit : HitPoint) (distance height heightU heightV : Binary32) : Vec3 :=
  let du := parametricStep hit.dpdu distance
  let dv := parametricStep hit.dpdv distance
  let raisedU := hit.dpdu + (heightU - height) / du * hit.shadingNormal
  let raisedV := hit.dpdv + (heightV - height) / dv * hit.shadingNormal
  let n := (raisedU.cross raisedV).normalizeOrZero
  if n.numEq Vec3.zero then hit.shadingNormal else faceforward n hit.shadingNormal

end Bump

end TextureGraph
