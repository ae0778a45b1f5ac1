import TextureGraph.Mapping
import TextureGraph.Pattern.Band

/-!
# Kinds of texture

The closed set of texture kinds with their own parameters. A kind fixes the tag
that names it in a document and the input slots through which a node of the kind
refers to other nodes.
-/

namespace TextureGraph

/-- Position of an image in the image list of a table. -/
abbrev ImageId := Nat

inductive TextureKind where
  | constFloat (value : Binary32)
  | constColor (color : Vec3)
  | imageMap (image : ImageId) (gain : Binary32) (mapping : UvMapping)
  | hitPointColor
  | hitPointAlpha
  /-- One channel of the colour of the hit point, or its luminance. -/
  | hitPointGrey (channel : Option Nat)
  | uv (mapping : UvMapping)
  | fbm (octaves : Nat) (roughness : Binary32) (mapping : SpaceMapping)
  | wrinkled (octaves : Nat) (roughness : Binary32) (mapping : SpaceMapping)
  | windy (mapping : SpaceMapping)
  | marble (octaves : Nat) (roughness scale variation : Binary32) (mapping : SpaceMapping)
  | scale
  | add
  | subtract
  | mix
  | divide
  | power
  | abs
  | clamp (low high : Binary32)
  | modulo
  | dots (mapping : UvMapping)
  | checkerboard2d (mapping : UvMapping)
  | checkerboard3d (mapping : SpaceMapping)
  /-- Blend of four corners by the fractional surface coordinates. -/
  | bilerp
  | band (band : Band)
  | hsv
  /-- One channel of a colour, where every number past the second means blue. -/
  | splitFloat3 (channel : Nat)
  | makeFloat3
  | normalMap (scale : Binary32)
  | triplanar (mapping : SpaceMapping)
  | distort (strength : Binary32)
deriving DecidableEq, Repr

namespace TextureKind

/-- Name of the kind in a document. -/
def tag : TextureKind → String
  | constFloat _ => "constfloat1"
  | constColor _ => "constfloat3"
  | imageMap _ _ _ => "imagemap"
  | hitPointColor => "hitpointcolor"
  | hitPointAlpha => "hitpointalpha"
  | hitPointGrey _ => "hitpointgrey"
  | uv _ => "uv"
  | fbm _ _ _ => "fbm"
  | wrinkled _ _ _ => "wrinkled"
  | windy _ => "windy"
  | marble _ _ _ _ _ => "marble"
  | scale => "scale"
  | add => "add"
  | subtract => "subtract"
  | mix => "mix"
  | divide => "divide"
  | power => "power"
  | abs => "abs"
  | clamp _ _ => "clamp"
  | modulo => "modulo"
  | dots _ => "dots"
  | checkerboard2d _ => "checkerboard2d"
  | checkerboard3d _ => "checkerboard3d"
  | bilerp => "bilerp"
  | band _ => "band"
  | hsv => "hsv"
  | splitFloat3 _ => "splitfloat3"
  | makeFloat3 => "makefloat3"
  | normalMap _ => "normalmap"
  | triplanar _ => "triplanar"
  | distort _ => "distort"

/-- Names of the input slots, in the order of a node's children. -/
def inputNames : TextureKind → List String
  | constFloat _ | constColor _ | imageMap _ _ _ | hitPointColor | hitPointAlpha
  | hitPointGrey _ | uv _ | fbm _ _ _ | wrinkled _ _ _ | windy _ | marble _ _ _ _ _ => []
  | scale | add | subtract | divide => ["texture1", "texture2"]
  | mix => ["amount", "texture1", "texture2"]
  | power => ["base", "exponent"]
  | abs | clamp _ _ | normalMap _ | splitFloat3 _ => ["texture"]
  | modulo => ["texture", "modulo"]
  | dots _ => ["inside", "outside"]
  | checkerboard2d _ | checkerboard3d _ => ["texture1", "texture2"]
  | bilerp => ["texture00", "texture01", "texture10", "texture11"]
  | band _ => ["amount"]
  | hsv => ["texture", "hue", "saturation", "value"]
  | makeFloat3 | triplanar _ => ["texture1", "texture2", "texture3"]
  | distort _ => ["texture", "offset"]

/-- Number of children of a node of the kind. -/
def arity (kind : TextureKind) : Nat :=
  kind.inputNames.length

/-- Limit and length of the parameter list of a kind that bounds it. -/
def capacityUse? : TextureKind → Option (Nat × Nat)
  | band points => some (Band.maxPoints, max points.offsets.length points.values.length)
  | _ => none

end TextureKind

end TextureGraph
