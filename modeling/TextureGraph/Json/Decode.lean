import TextureGraph.Json.Basic
import TextureGraph.Image
import TextureGraph.Mapping
import TextureGraph.Program.Basic

/-!
# Decoding values from JSON

How vectors, hit points, mappings, images and settings are written. A structure is
an object with its field names, or an array of its fields in order, of which those
at the end may be left out where they have a standard value.
-/

namespace TextureGraph

namespace Json

/-- A field that has to be there. -/
def required? {α : Type} (decode : Json → Option α) : Option Json → Option α
  | some value => decode value
  | none => none

/-- A field with a standard value. -/
def optional? {α : Type} (standard : α) (decode : Json → Option α) : Option Json → Option α
  | some value => decode value
  | none => some standard

/-- An array of any length. -/
def asList? {α : Type} (decode : Json → Option α) (json : Json) : Option (List α) := do
  (← json.asArray?).mapM decode

/-- Numbers of a vector are written as an array of just as many. -/
def asVec2? (json : Json) : Option Vec2 := do
  match ← json.asList? asBinary32? with
  | [x, y] => return ⟨x, y⟩
  | _ => none

def asVec3? (json : Json) : Option Vec3 := do
  match ← json.asList? asBinary32? with
  | [x, y, z] => return ⟨x, y, z⟩
  | _ => none

def asHitPoint? (json : Json) : Option HitPoint := do
  match ← json.fields? ["p", "shadeN", "uv", "geometryN", "dpdu", "dpdv", "dndu", "dndv",
      "color", "alpha"] with
  | [position, shadingNormal, uv, geometryNormal, dpdu, dpdv, dndu, dndv, color, alpha] =>
      return {
        position := ← required? asVec3? position
        shadingNormal := ← required? asVec3? shadingNormal
        uv := ← required? asVec2? uv
        geometryNormal := ← required? asVec3? geometryNormal
        dpdu := ← required? asVec3? dpdu
        dpdv := ← required? asVec3? dpdv
        dndu := ← required? asVec3? dndu
        dndv := ← required? asVec3? dndv
        color := ← required? asVec3? color
        alpha := ← required? asBinary32? alpha }
  | _ => none

def asConfig? (json : Json) : Option Config := do
  match ← json.fields? ["bumpSampleDistance", "maxCompileDepth"] with
  | [distance, depth] =>
      return {
        bumpSampleDistance := ← optional? Config.standard.bumpSampleDistance asBinary32? distance
        maxCompileDepth := ← optional? Config.standard.maxCompileDepth asWord64? depth }
  | _ => none

def asUvMapping? (json : Json) : Option UvMapping := do
  match ← json.fields? ["uScale", "vScale", "uDelta", "vDelta"] with
  | [uScale, vScale, uDelta, vDelta] =>
      return {
        uScale := ← optional? UvMapping.identity.uScale asBinary32? uScale
        vScale := ← optional? UvMapping.identity.vScale asBinary32? vScale
        uDelta := ← optional? UvMapping.identity.uDelta asBinary32? uDelta
        vDelta := ← optional? UvMapping.identity.vDelta asBinary32? vDelta }
  | _ => none

/-- Name of the source of a mapping of space. -/
def asSpaceSource? (json : Json) : Option SpaceSource :=
  match json.asString? with
  | some "global" => some .position
  | some "uv" => some .surface
  | _ => none

/-- The contents of an array or object, settled one level further down. A repeated
field stays repeated. -/
def settleContents? (depth : Nat) : Json → Option Json
  | array items => (settleItems? depth items).map array
  | object fields => (settleFields? depth fields).map object
  | _ => none

/-- A mapping of space is read as a whole before its fields are told apart, so that
all of it has to be settled. -/
def asSpaceMapping? (json : Json) : Option SpaceMapping := do
  let settled ← json.settleContents? (maxDepth - 1)
  match ← settled.fields? ["type", "scale", "translate"] with
  | [source, scale, translate] =>
      return {
        source := ← required? asSpaceSource? source
        scale := ← required? asVec3? scale
        translate := ← required? asVec3? translate }
  | _ => none

def asImage? (json : Json) : Option Image := do
  match ← json.fields? ["name", "width", "height", "pixels"] with
  | [name, width, height, pixels] =>
      return {
        name := ← required? asString? name
        width := ← required? asWord32? width
        height := ← required? asWord32? height
        pixels := ← required? (asList? asVec3?) pixels }
  | _ => none

/-- The name of a case without data, alone or as the key of a null. -/
def asCaseName? : Json → Option String
  | string name => name
  | object [(name, null)] => name
  | _ => none

end Json

end TextureGraph
