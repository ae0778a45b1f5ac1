import TextureGraph.Bump
import TextureGraph.EvalKind
import TextureGraph.Pattern.Procedural
import TextureGraph.Pattern.Projection
import TextureGraph.Table.Basic
import TextureGraph.Value

/-!
# Combining values

The value of a texture from the values of its inputs and the hit point, without
looking further into the table. The recursive evaluator and the stack machine both
end here, so they agree wherever they hand over the same operands.
-/

namespace TextureGraph

namespace Combine

open Operands

/-- A binary operation on two numeric operands. -/
def floats (f : Binary32 → Binary32 → Binary32) : Operands Binary32 := do
  let x ← float
  let y ← float
  return f x y

/-- A binary operation on two vector operands. -/
def vectors (f : Vec3 → Vec3 → Vec3) : Operands Vec3 := do
  let x ← vector
  let y ← vector
  return f x y

/-- A channel-wise operation of a vector operand with a numeric one. -/
def channels (f : Binary32 → Binary32 → Binary32) : Operands Vec3 := do
  let c ← vector
  let x ← float
  return c.zipWith f (Vec3.splat x)

/-- Colour of an image at mapped coordinates. -/
def imageColor (images : List Image) (id : ImageId) (gain : Binary32) (uv : Vec2) :
    Operands Color := do
  let image ← demand (.missingImage id) images[id]?
  let color ← demand (.missingPixel id) (image.lookup? uv)
  return gain * color

/-- One channel of the colour of a hit point; any other number means luminance. -/
def hitPointGrey (hit : HitPoint) : (channel : Option Nat) → Binary32
  | some 0 => hit.color.x
  | some 1 => hit.color.y
  | some 2 => hit.color.z
  | _ => Color.luminance hit.color

/-- Colour of a texture. -/
def spectrum (images : List Image) (kind : TextureKind) (hit : HitPoint) : Operands Color :=
  match kind with
  | .constFloat value => return Vec3.splat value
  | .constColor color => return color
  | .imageMap image gain mapping => imageColor images image gain (mapping.apply hit)
  | .hitPointColor => return hit.color
  | .hitPointAlpha => return Vec3.splat hit.alpha
  | .hitPointGrey channel => return Vec3.splat (hitPointGrey hit channel)
  | .uv mapping => return Pattern.uvColor (mapping.apply hit)
  | .fbm octaves roughness mapping =>
      return Vec3.splat (Noise.fractal (mapping.apply hit) roughness octaves)
  | .wrinkled octaves roughness mapping =>
      return Vec3.splat (Noise.turbulence (mapping.apply hit) roughness octaves)
  | .windy mapping => return Vec3.splat (Pattern.windy (mapping.apply hit))
  | .marble octaves roughness scale variation mapping =>
      return Pattern.marble (mapping.apply hit * scale) octaves roughness variation
  | .scale => vectors (· * ·)
  | .add => vectors (· + ·)
  | .subtract => vectors (· - ·)
  | .mix => do
      let amount ← float
      vectors (Pattern.mixColor amount)
  | .divide => vectors (Vec3.zipWith Pattern.safeDiv)
  | .power => channels Pattern.safePow
  | .abs => Vec3.abs <$> vector
  | .clamp low high => (Pattern.clampColor · low high) <$> vector
  | .modulo => channels Pattern.safeMod
  | .dots mapping =>
      vectors fun inside outside => if Pattern.insideDot (mapping.apply hit) then inside else outside
  | .checkerboard2d mapping =>
      vectors fun first second => if Pattern.firstSquare (mapping.apply hit) then first else second
  | .checkerboard3d mapping =>
      vectors fun first second => if Pattern.firstCube (mapping.apply hit) then first else second
  | .bilerp => do
      let c00 ← vector
      let c01 ← vector
      let c10 ← vector
      let c11 ← vector
      return Pattern.bilinearColor (Pattern.patchWeights hit.uv) c00 c01 c10 c11
  | .band band => do
      let amount ← float
      demand .missingControlPoint (band.lookup? amount)
  | .hsv => do
      let color ← vector
      let hue ← float
      let saturation ← float
      let value ← float
      return Color.adjustHsv color hue saturation value
  | .splitFloat3 channel => do
      let color ← vector
      return Vec3.splat (color.component channel)
  | .makeFloat3 => vector
  | .normalMap _ => return Vec3.zero
  | .triplanar _ => do
      let c0 ← vector
      let c1 ← vector
      let c2 ← vector
      return Pattern.triplanarBlend (Pattern.triplanarWeights hit.shadingNormal) c0 c1 c2
  | .distort _ => do
      let _ ← vector
      vector

/-- Number of a texture. Textures that are colours by nature have the luminance of
their colour. -/
def number (images : List Image) (kind : TextureKind) (hit : HitPoint) : Operands Binary32 :=
  match kind with
  | .constFloat value => return value
  | .constColor color => return Color.luminance color
  | .hitPointAlpha => return hit.alpha
  | .hitPointGrey channel => return hitPointGrey hit channel
  | .fbm octaves roughness mapping =>
      return Noise.fractal (mapping.apply hit) roughness octaves
  | .wrinkled octaves roughness mapping =>
      return Noise.turbulence (mapping.apply hit) roughness octaves
  | .windy mapping => return Pattern.windy (mapping.apply hit)
  | .scale => floats (· * ·)
  | .add => floats (· + ·)
  | .subtract => floats (· - ·)
  | .mix => do
      let amount ← float
      floats (Pattern.mix amount)
  | .divide => floats Pattern.safeDiv
  | .power => floats Pattern.safePow
  | .abs => Binary32.abs <$> float
  | .clamp low high => (Pattern.clampBetween · low high) <$> float
  | .modulo => floats Pattern.safeMod
  | .dots mapping =>
      floats fun inside outside => if Pattern.insideDot (mapping.apply hit) then inside else outside
  | .checkerboard2d mapping =>
      floats fun first second => if Pattern.firstSquare (mapping.apply hit) then first else second
  | .checkerboard3d mapping =>
      floats fun first second => if Pattern.firstCube (mapping.apply hit) then first else second
  | .bilerp => do
      let c00 ← float
      let c01 ← float
      let c10 ← float
      let c11 ← float
      return Pattern.bilinear (Pattern.patchWeights hit.uv) c00 c01 c10 c11
  | .splitFloat3 channel => (Vec3.component · channel) <$> vector
  | .normalMap _ => return 0
  | .distort _ => do
      let _ ← vector
      float
  | .imageMap _ _ _ | .hitPointColor | .uv _ | .marble _ _ _ _ _
  | .band _ | .hsv | .makeFloat3 | .triplanar _ =>
      Color.luminance <$> spectrum images kind hit

/-- Bumped normal of a texture, or nothing where it has no closed form. -/
def bump? (kind : TextureKind) (hit : HitPoint) : Operands (Option Vec3) :=
  match kind with
  | .constFloat _ | .constColor _ => return some hit.shadingNormal
  | .add => some <$> vectors (Bump.add hit)
  | .subtract => some <$> vectors (Bump.subtract hit)
  | .scale => do
      let n1 ← vector
      let n2 ← vector
      let t1 ← float
      let t2 ← float
      return some (Bump.scale hit n1 n2 t1 t2)
  | .mix => do
      let n1 ← vector
      let n2 ← vector
      let amountNormal ← vector
      let t1 ← float
      let t2 ← float
      let amount ← float
      return some (Bump.mix hit n1 n2 amountNormal t1 t2 amount)
  | .normalMap scale => do
      let color ← vector
      return some (Bump.normalMap hit color scale)
  | .distort _ => do
      let _ ← vector
      some <$> vector
  | _ => return none

/-- Value of a texture under a kind of evaluation, or nothing for a bump without a
closed form. -/
def value? (images : List Image) (kind : TextureKind) (eval : EvalKind) (hit : HitPoint) :
    Operands (Option Value) :=
  match eval with
  | .float => (some ∘ Value.float) <$> number images kind hit
  | .spectrum => (some ∘ Value.vector) <$> spectrum images kind hit
  | .bump => (Option.map Value.vector) <$> bump? kind hit

end Combine

end TextureGraph
