import TextureGraph.Dictionary
import TextureGraph.Image
import TextureGraph.Json.Basic
import TextureGraph.Program.Basic

/-!
# Texture documents

A document lists images and textures. A texture names its kind, gives it
parameters, and names the textures that feed its input slots.
-/

namespace TextureGraph

/-- Parameters by name, as values of any form. -/
abbrev Params := Dictionary Json

structure TextureEntry where
  name : String
  tag : String
  params : Params
  /-- Name of the texture in each input slot. -/
  inputs : Dictionary String

structure Document where
  version : String
  settings : Config
  images : List Image
  textures : List TextureEntry

namespace Document

def names (document : Document) : List String :=
  document.textures.map (·.name)

/-- The last texture of a name. -/
def texture? (document : Document) (name : String) : Option TextureEntry :=
  document.textures.reverse.find? (·.name == name)

/-- Position of the last image of a name. -/
def imageIndex? (document : Document) (name : String) : Option Nat :=
  (document.images.zipIdx.reverse.find? (·.1.name == name)).map (·.2)

end Document

end TextureGraph
