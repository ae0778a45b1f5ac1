import TextureGraph.Document.Basic
import TextureGraph.Json.Decode
import TextureGraph.Json.Parse

/-!
# Reading documents

Documents from their text. Parameters are read as values of any form; all else has
a fixed form, and fields that a document does not know are passed over.
-/

namespace TextureGraph

/-- Why no document could be read. -/
inductive ReadError where
  | unreadable (path : String)
  | malformed
deriving DecidableEq, Repr

def ReadError.message : ReadError → String
  | unreadable path => "failed to read texture json at " ++ path
  | malformed => "failed to parse texture json"

namespace Json

/-- An object as a dictionary, in which the last of repeated fields counts. -/
def asDictionary? {α : Type} (decode : Json → Option α) : Json → Option (Dictionary α)
  | object fields => do
      let entries ← fields.mapM fun (key, value) => do return (← key, ← decode value)
      return Dictionary.ofList entries
  | _ => none

/-- How deep a parameter may nest: it lies within the document, its list of textures,
one texture and the parameters of that. -/
def paramDepth : Nat := maxDepth - 4

def asTextureEntry? (json : Json) : Option TextureEntry := do
  match ← json.fields? ["name", "type", "params", "inputs"] with
  | [name, tag, params, inputs] =>
      return {
        name := ← required? asString? name
        tag := ← required? asString? tag
        params := ← optional? Dictionary.empty (asDictionary? (settle? paramDepth)) params
        inputs := ← optional? Dictionary.empty (asDictionary? asString?) inputs }
  | _ => none

def asDocument? (json : Json) : Option Document := do
  match ← json.fields? ["version", "settings", "images", "textures"] with
  | [version, settings, images, textures] =>
      return {
        version := ← required? asString? version
        settings := ← optional? Config.standard asConfig? settings
        images := ← optional? [] (asList? asImage?) images
        textures := ← required? (asList? asTextureEntry?) textures }
  | _ => none

end Json

namespace Document

/-- The document that a text spells. -/
def parse (text : String) : Except ReadError Document :=
  match (Json.parse? text).bind Json.asDocument? with
  | some document => .ok document
  | none => .error .malformed

/-- The document in a file, given the contents of the file if it could be read. -/
def load (path : String) (contents : Option String) : Except ReadError Document :=
  match contents with
  | some text => parse text
  | none => .error (.unreadable path)

end Document

end TextureGraph
