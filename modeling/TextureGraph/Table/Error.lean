import TextureGraph.Text.Quoted

/-!
# Refused edits

Why a table refuses an image or a node, with the text of each refusal.
-/

namespace TextureGraph

/-- Position of a node in a table. -/
abbrev NodeId := Nat

/-- How a node is named in a message. -/
def NodeId.label (id : NodeId) : String :=
  "#" ++ toString id

/-- What is wrong with the control points of a band. -/
inductive BandFlaw where
  | unpaired
  | notFinite
  | unsorted
deriving DecidableEq, Repr

def BandFlaw.message : BandFlaw → String
  | unpaired => "offsets and values differ in length"
  | notFinite => "offsets must be finite"
  | unsorted => "offsets must be sorted"

/-- A parameter list that is longer than its kind allows. -/
structure CapacityExcess where
  node : NodeId
  tag : String
  limit : Nat
  found : Nat
deriving DecidableEq, Repr

def CapacityExcess.message (excess : CapacityExcess) : String :=
  "texture " ++ excess.node.label ++ " (" ++ excess.tag ++ ") holds " ++ toString excess.found ++
    " entries, capacity is " ++ toString excess.limit

inductive TableError where
  | imageSize (name : String) (width height : UInt32) (found : Nat)
  | childArity (node : NodeId) (tag : String) (expected found : Nat)
  | danglingChild (node child : NodeId)
  | unknownImage (node : NodeId) (image : Nat)
  | capacity (excess : CapacityExcess)
  | invalidBand (node : NodeId) (flaw : BandFlaw)
  | unknownNode (node : NodeId) (count : Nat)
  | stillReferenced (node user : NodeId)
deriving DecidableEq, Repr

def TableError.message : TableError → String
  | imageSize name width height found =>
      "image " ++ Text.quote name ++ " declares " ++ toString width.toNat ++ "x" ++
        toString height.toNat ++ " pixels but holds " ++ toString found
  | childArity node tag expected found =>
      "texture " ++ node.label ++ " (" ++ tag ++ ") expects " ++ toString expected ++
        " children, got " ++ toString found
  | danglingChild node child =>
      "texture " ++ node.label ++ " references missing or later texture " ++ child.label
  | unknownImage node image =>
      "texture " ++ node.label ++ " references missing image " ++ toString image
  | capacity excess => excess.message
  | invalidBand node flaw =>
      "texture " ++ node.label ++ " has a malformed band: " ++ flaw.message
  | unknownNode node count =>
      "texture " ++ node.label ++ " is not part of a " ++ toString count ++ "-texture table"
  | stillReferenced node user =>
      "texture " ++ node.label ++ " is still referenced by " ++ user.label

end TextureGraph
