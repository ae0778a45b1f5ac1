import TextureGraph.HitPoint

/-!
# Texture coordinates

How a pattern reads its coordinates off a hit point: an affine map of the surface
coordinates, or a scaled and translated point of space.
-/

namespace TextureGraph

/-- Affine map of the surface coordinates. -/
structure UvMapping where
  uScale : Binary32
  vScale : Binary32
  uDelta : Binary32
  vDelta : Binary32
deriving DecidableEq, Repr

namespace UvMapping

def identity : UvMapping := ⟨1, 1, 0, 0⟩

instance : Inhabited UvMapping := ⟨identity⟩

def apply (mapping : UvMapping) (hit : HitPoint) : Vec2 :=
  ⟨hit.uv.x * mapping.uScale + mapping.uDelta, hit.uv.y * mapping.vScale + mapping.vDelta⟩

end UvMapping

/-- Where a pattern of space takes its point from. -/
inductive SpaceSource where
  /-- The position of the hit point. -/
  | position
  /-- The surface coordinates, in the plane `z = 0`. -/
  | surface
deriving DecidableEq, Repr

/-- A point of texture space: a source, scaled and then translated. -/
structure SpaceMapping where
  source : SpaceSource
  scale : Vec3
  translate : Vec3
deriving DecidableEq, Repr

namespace SpaceMapping

def identity : SpaceMapping := ⟨.position, Vec3.one, Vec3.zero⟩

instance : Inhabited SpaceMapping := ⟨identity⟩

def apply (mapping : SpaceMapping) (hit : HitPoint) : Vec3 :=
  let point := match mapping.source with
    | .position => hit.position
    | .surface => hit.uv.extend 0
  point * mapping.scale + mapping.translate

end SpaceMapping

end TextureGraph
