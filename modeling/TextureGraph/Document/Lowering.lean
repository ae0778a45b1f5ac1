import TextureGraph.Document.Order
import TextureGraph.Document.Params
import TextureGraph.Program.Compile
import TextureGraph.Table.Basic

/-!
# Lowering documents

A document becomes a table: its images in order, then its textures in dependency
order, each with the textures in its input slots as children.
-/

namespace TextureGraph

/-- Why a texture of a document is of no kind. -/
inductive KindError where
  | unknownKind (name tag : String)
  | missingImageName
  | unknownImage (image : String)
  | invalidParam (e : InvalidParam)
deriving DecidableEq, Repr

def KindError.message : KindError → String
  | unknownKind name tag =>
      "texture " ++ Text.quote name ++ ": unknown texture kind " ++ Text.quote tag
  | missingImageName => "imagemap needs an image name"
  | unknownImage image => "unknown image " ++ image
  | invalidParam e => e.message

/-- Why a document does not become a table. -/
inductive LoweringError where
  | image (e : TableError)
  | order (e : OrderError)
  | kind (texture : String) (e : KindError)
  | unknownInput (texture tag slot : String)
  | missingInput (texture slot : String)
  | undefinedInput (texture slot : String)
  | node (texture : String) (e : TableError)
deriving DecidableEq, Repr

def LoweringError.message : LoweringError → String
  | image e => e.message
  | order e => e.message
  | kind texture e => "texture " ++ texture ++ ": " ++ e.message
  | unknownInput texture tag slot =>
      "texture " ++ texture ++ " (" ++ tag ++ ") has no input named " ++ slot
  | missingInput texture slot => "texture " ++ texture ++ " is missing input " ++ slot
  | undefinedInput texture slot =>
      "texture " ++ texture ++ " input " ++ slot ++ " is not defined"
  | node texture e => "texture " ++ texture ++ ": " ++ e.message

/-- Why a document does not become a program. -/
inductive BuildError where
  | lowering (e : LoweringError)
  | compile (e : CompileError)
deriving DecidableEq, Repr

def BuildError.message : BuildError → String
  | lowering e => e.message
  | compile e => "failed to compile textures: " ++ e.message

namespace TextureEntry

/-- Octaves of a fractal that gives no number of them. -/
def standardOctaves : Nat := 8

/-- The image that a texture shows. -/
def imageOf (entry : TextureEntry) (document : Document) : Except KindError ImageId :=
  match entry.params.string? "image" with
  | none => .error .missingImageName
  | some name =>
      match document.imageIndex? name with
      | some image => .ok image
      | none => .error (.unknownImage name)

/-- The kind of a texture by its tag and parameters. -/
def kind (entry : TextureEntry) (document : Document) : Except KindError TextureKind :=
  let params := entry.params
  let uvMapping := params.uvMapping.mapError KindError.invalidParam
  let spaceMapping := params.spaceMapping.mapError KindError.invalidParam
  let number := fun name standard => (params.number? name).getD standard
  let octaves := (params.natural? "octaves").getD standardOctaves
  let roughness := number "roughness" 0.5
  match entry.tag with
  | "constfloat1" => return .constFloat (number "value" 0)
  | "constfloat3" => return .constColor ((params.vector? "value").getD Vec3.zero)
  | "imagemap" => do
      let image ← entry.imageOf document
      return .imageMap image (number "gain" 1) (← uvMapping)
  | "hitpointcolor" => return .hitPointColor
  | "hitpointalpha" => return .hitPointAlpha
  | "hitpointgrey" => return .hitPointGrey ((params.natural? "channel").filter (· ≤ 2))
  | "uv" => return .uv (← uvMapping)
  | "fbm" => return .fbm octaves roughness (← spaceMapping)
  | "wrinkled" => return .wrinkled octaves roughness (← spaceMapping)
  | "windy" => return .windy (← spaceMapping)
  | "marble" =>
      return .marble octaves roughness (number "scale" 1) (number "variation" 0.2)
        (← spaceMapping)
  | "scale" => return .scale
  | "add" => return .add
  | "subtract" => return .subtract
  | "mix" => return .mix
  | "divide" => return .divide
  | "power" => return .power
  | "abs" => return .abs
  | "clamp" => return .clamp (number "min" 0) (number "max" 1)
  | "modulo" => return .modulo
  | "dots" => return .dots (← uvMapping)
  | "checkerboard2d" => return .checkerboard2d (← uvMapping)
  | "checkerboard3d" => return .checkerboard3d (← spaceMapping)
  | "bilerp" => return .bilerp
  | "band" => do
      let offsets ← params.offsets.mapError KindError.invalidParam
      let values ← params.colors.mapError KindError.invalidParam
      return .band ⟨offsets, values⟩
  | "hsv" => return .hsv
  | "splitfloat3" => return .splitFloat3 (min ((params.natural? "channel").getD 0) 2)
  | "makefloat3" => return .makeFloat3
  | "normalmap" => return .normalMap (number "scale" 1)
  | "triplanar" => return .triplanar (← spaceMapping)
  | "distort" => return .distort (number "strength" 1)
  | tag => .error (.unknownKind entry.name tag)

/-- The node in an input slot of a texture, among the nodes of a table. -/
def childIn (entry : TextureEntry) (table : Table) (slot : String) :
    Except LoweringError NodeId :=
  match entry.inputs.get? slot with
  | none => .error (.missingInput entry.name slot)
  | some source =>
      match table.find? source with
      | some child => .ok child
      | none => .error (.undefinedInput entry.name slot)

/-- Append the node of a texture to a table that holds its inputs. -/
def lower (entry : TextureEntry) (document : Document) (table : Table) :
    Except LoweringError Table := do
  let kind ← (entry.kind document).mapError (LoweringError.kind entry.name)
  match entry.inputs.keys.find? (fun slot => !kind.inputNames.contains slot) with
  | some slot => throw (.unknownInput entry.name entry.tag slot)
  | none => pure ()
  let children ← kind.inputNames.mapM (entry.childIn table)
  match table.push entry.name kind children with
  | (.ok _, table) => return table
  | (.error e, _) => throw (.node entry.name e)

end TextureEntry

namespace Document

/-- A table that holds images alone. -/
def imageTable (images : List Image) : Except TableError Table :=
  images.foldlM
    (fun table image =>
      match table.addImage image with
      | (.ok _, table) => .ok table
      | (.error e, _) => .error e)
    Table.empty

/-- Table of the textures of a document. -/
def lower (document : Document) : Except LoweringError Table := do
  let table ← (imageTable document.images).mapError LoweringError.image
  let order ← document.order.mapError LoweringError.order
  (order.filterMap (document.textures[·]?)).foldlM
    (fun table entry => entry.lower document table) table

/-- Table and program of a document, under its own settings. -/
def compile (document : Document) : Except BuildError (Table × Program) := do
  let table ← document.lower.mapError BuildError.lowering
  let program ← (table.compile document.settings).mapError BuildError.compile
  return (table, program)

end Document

end TextureGraph
