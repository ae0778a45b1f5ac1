import TextureGraph.Document.Basic
import TextureGraph.Json.Decode

/-!
# Parameters of textures

Parameters by name. A number or text that is missing or of another form counts as
not given; a mapping or list that is given in another form is refused.
-/

namespace TextureGraph

/-- A parameter of a form that cannot be read. -/
structure InvalidParam where
  name : String
deriving DecidableEq, Repr

def InvalidParam.message (e : InvalidParam) : String :=
  "invalid " ++ e.name

namespace Params

/-- An unsigned integer literal of 32 bits. -/
def natural? (params : Params) (name : String) : Option Nat :=
  match params.get? name with
  | some json => json.asWord32?.map UInt32.toNat
  | none => none

/-- A number of any notation. -/
def number? (params : Params) (name : String) : Option Binary32 :=
  match params.get? name with
  | some (.number value) => value.toBinary32?
  | _ => none

def string? (params : Params) (name : String) : Option String :=
  match params.get? name with
  | some json => json.asString?
  | none => none

/-- Three numbers, or one for all three channels. -/
def vector? (params : Params) (name : String) : Option Vec3 :=
  match params.get? name with
  | some (.number value) => value.toBinary32?.map Vec3.splat
  | some (.array [.number x, .number y, .number z]) => do
      return ⟨← x.toBinary32?, ← y.toBinary32?, ← z.toBinary32?⟩
  | _ => none

/-- A parameter of a given form, with a standard value. -/
def decoded {α : Type} (params : Params) (name : String) (standard : α)
    (decode : Json → Option α) : Except InvalidParam α :=
  match params.get? name with
  | none => .ok standard
  | some json =>
      match decode json with
      | some value => .ok value
      | none => .error ⟨name⟩

def uvMapping (params : Params) : Except InvalidParam UvMapping :=
  params.decoded "mapping" UvMapping.identity Json.asUvMapping?

def spaceMapping (params : Params) : Except InvalidParam SpaceMapping :=
  params.decoded "mapping" SpaceMapping.identity Json.asSpaceMapping?

def offsets (params : Params) : Except InvalidParam (List Binary32) :=
  params.decoded "offsets" [] (Json.asList? Json.asBinary32?)

def colors (params : Params) : Except InvalidParam (List Vec3) :=
  params.decoded "values" [] (Json.asList? Json.asVec3?)

end Params

end TextureGraph
