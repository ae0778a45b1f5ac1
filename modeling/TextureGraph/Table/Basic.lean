import TextureGraph.Image
import TextureGraph.Table.Error
import TextureGraph.TextureKind

/-!
# Texture tables

A table lists texture nodes and images. A node refers to its inputs by their
positions, which come before its own, so the references cannot run in a circle; a
node may be the input of several others. Four edits grow and change a table. Each
answers with the table it leaves behind, whether it succeeds or not.
-/

namespace TextureGraph

structure Node where
  name : String
  kind : TextureKind
  children : List NodeId
deriving DecidableEq, Repr

/-- Node that fills an input slot. -/
def Node.child? (node : Node) (slot : Nat) : Option NodeId :=
  node.children[slot]?

structure Table where
  nodes : List Node
  images : List Image
deriving DecidableEq, Repr

namespace Table

def empty : Table := ⟨[], []⟩

instance : Inhabited Table := ⟨empty⟩

def size (table : Table) : Nat :=
  table.nodes.length

def isEmpty (table : Table) : Bool :=
  table.nodes.isEmpty

def node? (table : Table) (id : NodeId) : Option Node :=
  table.nodes[id]?

def image? (table : Table) (id : ImageId) : Option Image :=
  table.images[id]?

/-- Position of the first node of a name. -/
def find? (table : Table) (name : String) : Option NodeId :=
  table.nodes.findIdx? (·.name == name)

end Table

/-! ## What a table accepts -/

/-- Whether no offset lies above the one behind it. -/
def Band.isSorted : List Binary32 → Bool
  | first :: second :: rest => !decide (second < first) && isSorted (second :: rest)
  | _ => true

/-- The first flaw of a band, if it has one. -/
def Band.flaw? (band : Band) : Option BandFlaw :=
  if band.offsets.length ≠ band.values.length then some .unpaired
  else if !band.offsets.all Binary32.isFinite then some .notFinite
  else if !isSorted band.offsets then some .unsorted
  else none

/-- Refuse a parameter list that is longer than its kind allows. -/
def TextureKind.checkCapacity (kind : TextureKind) (id : NodeId) : Except CapacityExcess Unit :=
  match kind.capacityUse? with
  | some (limit, found) => if limit < found then .error ⟨id, kind.tag, limit, found⟩ else .ok ()
  | none => .ok ()

/-- Refuse parameters that do not fit the images of a table or the limits of the kind. -/
def TextureKind.check (kind : TextureKind) (images : List Image) (id : NodeId) :
    Except TableError Unit := do
  match kind with
  | .imageMap image _ _ =>
      if images.length ≤ image then throw (.unknownImage id image)
  | _ => pure ()
  (kind.checkCapacity id).mapError TableError.capacity
  match kind with
  | .band points =>
      match points.flaw? with
      | some flaw => throw (.invalidBand id flaw)
      | none => pure ()
  | _ => pure ()

/-- Refuse a node that cannot stand at position `id`. -/
def Node.check (node : Node) (images : List Image) (id : NodeId) : Except TableError Unit := do
  if node.children.length ≠ node.kind.arity then
    throw (.childArity id node.kind.tag node.kind.arity node.children.length)
  match node.children.find? (fun child => decide (id ≤ child)) with
  | some child => throw (.danglingChild id child)
  | none => pure ()
  node.kind.check images id

/-- Follow the removal of the node at position `removed`. -/
def Node.shiftChildren (node : Node) (removed : NodeId) : Node :=
  { node with
    children := node.children.map fun child => if removed < child then child - 1 else child }

namespace Table

/-! ## Edits -/

/-- Store an image whose pixels fill its declared size, which is not empty. -/
def addImage (table : Table) (image : Image) : Except TableError ImageId × Table :=
  if image.area = 0 ∨ image.pixels.length ≠ image.area then
    (.error (.imageSize image.name image.width image.height image.pixels.length), table)
  else
    (.ok table.images.length, { table with images := table.images ++ [image] })

/-- Append a node whose children are already in the table. -/
def push (table : Table) (name : String) (kind : TextureKind) (children : List NodeId) :
    Except TableError NodeId × Table :=
  let node : Node := ⟨name, kind, children⟩
  match node.check table.images table.size with
  | .error e => (.error e, table)
  | .ok () => (.ok table.size, { table with nodes := table.nodes ++ [node] })

/-- Give the node at a position a new definition under its old name. -/
def replace (table : Table) (id : NodeId) (kind : TextureKind) (children : List NodeId) :
    Except TableError Unit × Table :=
  match table.node? id with
  | none => (.error (.unknownNode id table.size), table)
  | some old =>
      let node : Node := ⟨old.name, kind, children⟩
      match node.check table.images id with
      | .error e => (.error e, table)
      | .ok () => (.ok (), { table with nodes := table.nodes.set id node })

/-- Position of the first node that has `id` as a child. -/
def firstUser? (table : Table) (id : NodeId) : Option NodeId :=
  table.nodes.findIdx? (·.children.contains id)

/-- Take out a node that is nobody's child; the nodes behind it move up by one. -/
def remove (table : Table) (id : NodeId) : Except TableError Node × Table :=
  match table.node? id with
  | none => (.error (.unknownNode id table.size), table)
  | some node =>
      match table.firstUser? id with
      | some user => (.error (.stillReferenced id user), table)
      | none =>
          (.ok node,
            { table with nodes := (table.nodes.eraseIdx id).map (·.shiftChildren id) })

end Table

end TextureGraph
