import TextureGraph.Vector

/-!
# Images

Row-major colour images, repeated in both directions and read with bilinear
interpolation. A read names the pixel it takes, so that whether it stays inside
the pixel list is a statement about the image alone.
-/

namespace TextureGraph

/-- A named image with its declared size. -/
structure Image where
  name : String
  width : UInt32
  height : UInt32
  pixels : List Vec3
deriving DecidableEq, Repr

namespace Image

/-- Number of pixels that the declared size asks for. -/
def area (image : Image) : Nat :=
  image.width.toNat * image.height.toNat

/-- Position in the pixel list of a texel, wrapped into the image. -/
def texelIndex (image : Image) (x y : Int) : Nat :=
  let column := (x % (image.width.toNat : Int)).toNat
  let row := (y % (image.height.toNat : Int)).toNat
  row * image.width.toNat + column

/-- Texel coordinate of a rounded coordinate. It is wrapped before it becomes an
integer, so that the neighbour at `+ 1` is an integer of the same width. -/
def wrapCoordinate (size : UInt32) (cell : Binary32) : Int :=
  (cell.remEuclid (Binary32.ofNat size.toNat)).toInt64

/-- The four texels around a point with their weights, nearer column first. -/
def samples (image : Image) (uv : Vec2) : List (Binary32 × Nat) :=
  let s := uv.x * Binary32.ofNat image.width.toNat - 0.5
  let t := uv.y * Binary32.ofNat image.height.toNat - 0.5
  let ds := s - s.floor
  let dt := t - t.floor
  let x := wrapCoordinate image.width s.floor
  let y := wrapCoordinate image.height t.floor
  [((1 - ds) * (1 - dt), image.texelIndex x y),
   ((1 - ds) * dt, image.texelIndex x (y + 1)),
   (ds * (1 - dt), image.texelIndex (x + 1) y),
   (ds * dt, image.texelIndex (x + 1) (y + 1))]

/-- A sample with its weight applied, where the pixel exists. -/
def weighted? (image : Image) : Binary32 × Nat → Option Vec3
  | (weight, index) => (image.pixels[index]?).map (weight * ·)

/-- Bilinear interpolation at a point of the unit square and its repetitions, or
nothing if a texel lies outside the pixel list. -/
def lookup? (image : Image) (uv : Vec2) : Option Vec3 :=
  match (image.samples uv).mapM image.weighted? with
  | some (first :: rest) => some (rest.foldl (· + ·) first)
  | _ => none

end Image

end TextureGraph
