import TextureGraph.Proofs.Document.Kind
import TextureGraph.Proofs.Document.Lowering

/-!
# What the table of a document says

A table that a document is lowered to says what the document says, and nothing else: the
images are the same, and each texture stands there once, under its name, with the kind and
the inputs that it asks for.
-/

namespace TextureGraph

/-- The node at a position of a table is what a texture of a document asks for. -/
structure TextureEntry.LoweredTo (entry : TextureEntry) (document : Document) (table : Table)
    (id : NodeId) (node : Node) : Prop where
  find?_eq : table.find? entry.name = some id
  node?_eq : table.node? id = some node
  name_eq : node.name = entry.name
  kind_eq : entry.kind document = .ok node.kind
  tag_eq : node.kind.tag = entry.tag
  lastImage : ∀ image gain mapping, node.kind = .imageMap image gain mapping →
    ∃ name, entry.params.string? "image" = some name ∧ document.LastImage name image
  takes : List.Forall₂ (entry.Takes table) node.kind.inputNames node.children
  child_lt : ∀ child ∈ node.children, child < id

namespace Document

variable {document : Document} {table : Table}

namespace Represents

/-- Whatever a texture becomes in a table is what it asks for. -/
theorem exists_loweredTo (represents : document.Represents table) {entry : TextureEntry}
    (member : entry ∈ document.textures) : ∃ id node, entry.LoweredTo document table id node := by
  rcases represents.exists_node member with ⟨id, node, found, becomes⟩
  have named := Table.find?_of_node? represents.names_nodup found
  have kind_eq := becomes.hasKind.kind_eq
  refine ⟨id, node, becomes.name_eq ▸ named, found, becomes.name_eq, kind_eq,
    TextureEntry.tag_eq_of_kind kind_eq, ?_, becomes.takes, ?_⟩
  · intro image gain mapping isImageMap
    rw [isImageMap] at kind_eq
    exact TextureEntry.lastImage_of_kind kind_eq
  · exact (represents.built.wellFormed.stands found).child_lt

theorem names_perm (represents : document.Represents table) : table.names.Perm document.names := by
  rcases represents.arranged with ⟨entries, perm, becomes⟩
  rw [Table.names, ← TextureEntry.names_eq_of_becomes becomes]
  exact perm.map _

end Represents

/-- A document is lowered to a table that says the same: its images in their order, and one
node for each texture, found by its name, of its kind, and with the nodes of the textures in
its slots as inputs. No reference is missing in it or leads ahead. -/
theorem lower_faithful (lowered : document.lower = .ok table) :
    table.images = document.images ∧
    document.names.Nodup ∧ table.names.Perm document.names ∧
    (∀ entry ∈ document.textures, ∃ id node, entry.LoweredTo document table id node) ∧
    table.Built ∧ table.WellFormed := by
  have represents := represents_of_lower lowered
  have perm := represents.names_perm
  refine ⟨represents.images_eq, perm.nodup_iff.mp represents.names_nodup, perm, ?_,
    represents.built, represents.built.wellFormed⟩
  intro entry member
  exact represents.exists_loweredTo member

/-- A sum that is listed before what it adds, and two images of one name. -/
def pictured : Document where
  version := "1"
  settings := .standard
  images := [⟨"dot", 1, 1, [Vec3.zero]⟩, ⟨"dot", 1, 1, [Vec3.one]⟩]
  textures := [
    ⟨"sum", "add", .empty, .ofList [("texture2", "picture"), ("texture1", "grain")]⟩,
    ⟨"grain", "wrinkled", .empty, .empty⟩,
    ⟨"picture", "imagemap", .ofList [("image", .string (some "dot"))], .empty⟩]

theorem exists_lower_pictured : ∃ table, pictured.lower = .ok table := by
  have sound : ∀ image ∈ pictured.images, image.WellFormed := by
    intro image member
    simp only [pictured, List.mem_cons, List.not_mem_nil, or_false] at member
    obtain rfl | rfl := member
    · exact ⟨by decide, by decide⟩
    · exact ⟨by decide, by decide⟩
  have ordered : pictured.order = .ok [1, 2, 0] :=
    order_eq_ok_iff.mpr ⟨by decide, by decide, by decide, by decide⟩
  exact ⟨_, lower_eq_ok_iff.mpr ⟨sound, [1, 2, 0], ordered, rfl⟩⟩

/-- The picture shows the second of the two images. The sum has its inputs in the order of its
slots, not in that in which they are given, and comes behind them. -/
theorem lower_faithful_pictured :
    ∃ table sumId sum grainId pictureId picture, pictured.lower = .ok table ∧
      table.node? sumId = some sum ∧ sum.children = [grainId, pictureId] ∧
      table.find? "grain" = some grainId ∧ table.find? "picture" = some pictureId ∧
      grainId < sumId ∧ pictureId < sumId ∧
      table.node? pictureId = some picture ∧ picture.kind = .imageMap 1 1 .identity := by
  rcases exists_lower_pictured with ⟨table, lowered⟩
  obtain ⟨_, _, _, each, _⟩ := lower_faithful lowered
  rcases each pictured.textures[0] (by simp [pictured]) with ⟨sumId, sum, sumLowered⟩
  rcases each pictured.textures[2] (by simp [pictured]) with ⟨pictureId, picture, pictureLowered⟩
  have sumKind : TextureKind.add = sum.kind := Except.ok.inj sumLowered.kind_eq
  have pictureKind : TextureKind.imageMap 1 1 .identity = picture.kind :=
    Except.ok.inj pictureLowered.kind_eq
  have takes := sumLowered.takes
  rw [← sumKind] at takes
  obtain ⟨grainId, rest, ⟨grain, grainGiven, grainFound⟩, takesRest, children_eq⟩ :=
    List.forall₂_cons_left_iff.mp takes
  obtain ⟨otherId, none, ⟨other, otherGiven, otherFound⟩, takesNone, rfl⟩ :=
    List.forall₂_cons_left_iff.mp takesRest
  obtain rfl := List.forall₂_nil_left_iff.mp takesNone
  obtain rfl : "grain" = grain := Option.some.inj grainGiven
  obtain rfl : "picture" = other := Option.some.inj otherGiven
  obtain rfl : otherId = pictureId :=
    Option.some.inj (otherFound.symm.trans pictureLowered.find?_eq)
  have before := sumLowered.child_lt
  rw [children_eq] at before
  exact ⟨table, sumId, sum, grainId, otherId, picture, lowered, sumLowered.node?_eq, children_eq,
    grainFound, otherFound, before grainId (by simp), before otherId (by simp),
    pictureLowered.node?_eq, pictureKind.symm⟩

end Document

end TextureGraph
