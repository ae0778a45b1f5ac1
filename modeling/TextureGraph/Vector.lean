import TextureGraph.Binary32.Integral

/-!
# Vectors of two and three numbers

Points, directions and colours. Every operation works component by component and
rounds after each arithmetic step, in the order it is written.
-/

namespace TextureGraph

structure Vec2 where
  x : Binary32
  y : Binary32
deriving DecidableEq, Repr, Inhabited

structure Vec3 where
  x : Binary32
  y : Binary32
  z : Binary32
deriving DecidableEq, Repr, Inhabited

namespace Vec2

def zero : Vec2 := ⟨0, 0⟩

def map (f : Binary32 → Binary32) (v : Vec2) : Vec2 :=
  ⟨f v.x, f v.y⟩

instance : Add Vec2 := ⟨fun a b => ⟨a.x + b.x, a.y + b.y⟩⟩

instance : HMul Binary32 Vec2 Vec2 := ⟨fun s v => ⟨s * v.x, s * v.y⟩⟩

def numEq (a b : Vec2) : Bool :=
  a.x.numEq b.x && a.y.numEq b.y

def toList (v : Vec2) : List Binary32 :=
  [v.x, v.y]

/-- Put a third component behind the two. -/
def extend (v : Vec2) (z : Binary32) : Vec3 :=
  ⟨v.x, v.y, z⟩

end Vec2

namespace Vec3

def splat (s : Binary32) : Vec3 :=
  ⟨s, s, s⟩

def zero : Vec3 := splat 0

def one : Vec3 := splat 1

def unitX : Vec3 := ⟨1, 0, 0⟩

def unitY : Vec3 := ⟨0, 1, 0⟩

def unitZ : Vec3 := ⟨0, 0, 1⟩

def map (f : Binary32 → Binary32) (v : Vec3) : Vec3 :=
  ⟨f v.x, f v.y, f v.z⟩

def zipWith (f : Binary32 → Binary32 → Binary32) (a b : Vec3) : Vec3 :=
  ⟨f a.x b.x, f a.y b.y, f a.z b.z⟩

instance : Add Vec3 := ⟨zipWith (· + ·)⟩

instance : Sub Vec3 := ⟨zipWith (· - ·)⟩

instance : Mul Vec3 := ⟨zipWith (· * ·)⟩

instance : Neg Vec3 := ⟨map (- ·)⟩

instance : HMul Binary32 Vec3 Vec3 := ⟨fun s v => v.map (s * ·)⟩

instance : HMul Vec3 Binary32 Vec3 := ⟨fun v s => v.map (· * s)⟩

instance : HDiv Vec3 Binary32 Vec3 := ⟨fun v s => v.map (· / s)⟩

def numEq (a b : Vec3) : Bool :=
  a.x.numEq b.x && a.y.numEq b.y && a.z.numEq b.z

def toList (v : Vec3) : List Binary32 :=
  [v.x, v.y, v.z]

/-- The first two components. -/
def truncate (v : Vec3) : Vec2 :=
  ⟨v.x, v.y⟩

/-- Component by number, where every number past the second means the third. -/
def component (v : Vec3) : Nat → Binary32
  | 0 => v.x
  | 1 => v.y
  | _ => v.z

def abs (v : Vec3) : Vec3 :=
  v.map Binary32.abs

protected def max (a b : Vec3) : Vec3 :=
  zipWith Binary32.max a b

protected def min (a b : Vec3) : Vec3 :=
  zipWith Binary32.min a b

def maxComponent (v : Vec3) : Binary32 :=
  v.x.max (v.y.max v.z)

def minComponent (v : Vec3) : Binary32 :=
  v.x.min (v.y.min v.z)

def dot (a b : Vec3) : Binary32 :=
  a.x * b.x + a.y * b.y + a.z * b.z

def cross (a b : Vec3) : Vec3 :=
  ⟨a.y * b.z - b.y * a.z, a.z * b.x - b.z * a.x, a.x * b.y - b.x * a.y⟩

def length (v : Vec3) : Binary32 :=
  (v.dot v).sqrt

/-- Unit vector of the same direction, or zero where the reciprocal length is not
a positive finite number. -/
def normalizeOrZero (v : Vec3) : Vec3 :=
  let reciprocal := 1 / v.length
  if reciprocal.isFinite && decide (0 < reciprocal) then v * reciprocal else zero

/-- Linear interpolation from `a` at zero to `b` at one. -/
def lerp (a b : Vec3) (t : Binary32) : Vec3 :=
  a * (1 - t) + b * t

end Vec3

end TextureGraph
