import TextureGraph.Vector

/-!
# Hit points

The point on a surface at which textures are evaluated. Position, shading normal
and surface coordinates are the mutable state: a running program overwrites them
and restores them. All other fields stay as they are.
-/

namespace TextureGraph

/-- One intersection of a ray with a surface. -/
structure HitPoint where
  position : Vec3
  shadingNormal : Vec3
  uv : Vec2
  geometryNormal : Vec3
  dpdu : Vec3
  dpdv : Vec3
  dndu : Vec3
  dndv : Vec3
  color : Vec3
  alpha : Binary32
deriving DecidableEq, Repr

/-- The part of a hit point that a program may overwrite. -/
structure SurfaceState where
  position : Vec3
  shadingNormal : Vec3
  uv : Vec2
deriving DecidableEq, Repr

namespace SurfaceState

/-- Components in the order in which they lie on a value stack. -/
def toList (state : SurfaceState) : List Binary32 :=
  state.position.toList ++ state.shadingNormal.toList ++ state.uv.toList

end SurfaceState

namespace HitPoint

/-- A white, opaque point at the origin of a plane that faces along `z`. -/
def standard : HitPoint where
  position := Vec3.zero
  shadingNormal := Vec3.unitZ
  uv := Vec2.zero
  geometryNormal := Vec3.unitZ
  dpdu := Vec3.unitX
  dpdv := Vec3.unitY
  dndu := Vec3.zero
  dndv := Vec3.zero
  color := Vec3.one
  alpha := 1

instance : Inhabited HitPoint := ⟨standard⟩

/-- Point of the plane that faces along `z`, with its own first two coordinates
as surface coordinates. -/
def onPlane (position : Vec3) : HitPoint :=
  { standard with position, uv := position.truncate }

def state (hit : HitPoint) : SurfaceState :=
  ⟨hit.position, hit.shadingNormal, hit.uv⟩

def withState (hit : HitPoint) (state : SurfaceState) : HitPoint :=
  { hit with
    position := state.position
    shadingNormal := state.shadingNormal
    uv := state.uv }

/-- Position and surface coordinates, in stack order. -/
def placement (hit : HitPoint) : List Binary32 :=
  hit.position.toList ++ hit.uv.toList

def withPlacement (hit : HitPoint) (position : Vec3) (uv : Vec2) : HitPoint :=
  { hit with position, uv }

/-- Numeric equality of all fields. -/
def numEq (a b : HitPoint) : Bool :=
  a.position.numEq b.position && a.shadingNormal.numEq b.shadingNormal &&
  a.uv.numEq b.uv && a.geometryNormal.numEq b.geometryNormal &&
  a.dpdu.numEq b.dpdu && a.dpdv.numEq b.dpdv &&
  a.dndu.numEq b.dndu && a.dndv.numEq b.dndv &&
  a.color.numEq b.color && a.alpha.numEq b.alpha

@[simp]
theorem withState_state (hit : HitPoint) : hit.withState hit.state = hit := rfl

@[simp]
theorem state_withState (hit : HitPoint) (state : SurfaceState) :
    (hit.withState state).state = state := rfl

@[simp]
theorem withState_withState (hit : HitPoint) (first second : SurfaceState) :
    (hit.withState first).withState second = hit.withState second := rfl

end HitPoint

end TextureGraph
