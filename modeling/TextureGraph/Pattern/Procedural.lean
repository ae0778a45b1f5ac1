import TextureGraph.Color
import TextureGraph.Mapping
import TextureGraph.Noise

/-!
# Procedural patterns

Patterns computed from mapped coordinates alone: wind and marble from noise,
polka dots and checkers from the cell a point falls in.
-/

namespace TextureGraph

namespace Pattern

/-- Waves with a slowly varying strength. -/
def windy (p : Vec3) : Binary32 :=
  let strength := Noise.fractal ((0.1 : Binary32) * p) 0.5 3
  let height := Noise.fractal p 0.5 6
  strength.abs * height

/-- Colours that marble runs through from one vein to the next. -/
def marbleColors : List Vec3 :=
  [⟨0.58, 0.58, 0.6⟩, ⟨0.58, 0.58, 0.6⟩, ⟨0.58, 0.58, 0.6⟩,
   ⟨0.5, 0.5, 0.5⟩, ⟨0.6, 0.59, 0.58⟩, ⟨0.58, 0.58, 0.6⟩,
   ⟨0.58, 0.58, 0.6⟩, ⟨0.2, 0.2, 0.33⟩, ⟨0.58, 0.58, 0.6⟩]

/-- Number of windows of four neighbouring colours. -/
def marbleSegments : Nat := 6

/-- Point of the cubic curve with four control points, by repeated interpolation. -/
def cubicCurve (c0 c1 c2 c3 : Vec3) (t : Binary32) : Vec3 :=
  let first := c0.lerp c1 t
  let second := c1.lerp c2 t
  let third := c2.lerp c3 t
  (first.lerp second t).lerp (second.lerp third t) t

/-- Marble at a point of its own space, where `variation` weighs the noise that
bends the veins. -/
def marble (p : Vec3) (octaves : Nat) (roughness variation : Binary32) : Color :=
  let phase := p.y + variation * Noise.fractal p roughness octaves
  let t := (0.5 + 0.5 * phase.sin) * Binary32.ofNat marbleSegments
  let first := min t.floor.toNat64 (marbleSegments - 1)
  match marbleColors.drop first with
  | c0 :: c1 :: c2 :: c3 :: _ => (1.5 : Binary32) * cubicCurve c0 c1 c2 c3 (t - Binary32.ofNat first)
  | _ => Vec3.zero

/-- Surface coordinates wrapped into the unit square, as red and green. -/
def uvColor (uv : Vec2) : Color :=
  ⟨uv.x - uv.x.floor, uv.y - uv.y.floor, 0⟩

/-- Radius of a polka dot, in cells. -/
def dotRadius : Binary32 := 0.35

/-- Whether a point lies in a polka dot. Noise decides which cells have a dot and
how far its centre is moved inside the cell. -/
def insideDot (uv : Vec2) : Bool :=
  let s := (uv.x + 0.5).floor
  let t := (uv.y + 0.5).floor
  if 0 < Noise.planeNoise (s + 0.5) (t + 0.5) then
    let maxShift := 0.5 - dotRadius
    let ds := uv.x - (s + maxShift * Noise.planeNoise (s + 1.5) (t + 2.8))
    let dt := uv.y - (t + maxShift * Noise.planeNoise (s + 4.5) (t + 9.8))
    decide (ds * ds + dt * dt < dotRadius * dotRadius)
  else false

/-- Whether a sum of cell numbers is even. -/
def evenCell (sum : Binary32) : Bool :=
  sum.toInt64 % 2 == 0

/-- Whether a point of the plane lies on a square of the first kind. -/
def firstSquare (uv : Vec2) : Bool :=
  evenCell (uv.x.floor + uv.y.floor)

/-- Whether a point of space lies in a cube of the first kind. -/
def firstCube (p : Vec3) : Bool :=
  evenCell (p.x.floor + p.y.floor + p.z.floor)

end Pattern

end TextureGraph
