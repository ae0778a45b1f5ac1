import Mathlib.Data.List.Induction
import TextureGraph.Document.Lowering
import TextureGraph.Proofs.Document.Order
import TextureGraph.Proofs.Table.Built

/-!
# Tables of documents

A document becomes a table whenever its images are sound, its textures can be ordered, and
each of them is of a kind that its inputs fit. Each texture then stands in the table as one
node, with the nodes of the textures in its slots as inputs.
-/

namespace TextureGraph

open Outcome

/-! ## Nodes by name -/

namespace Table

variable {table : Table} {name : String} {id : NodeId}

def names (table : Table) : List String :=
  table.nodes.map (·.name)

/-- Nodes that are appended hide no node that is found. -/
theorem find?_append (found : table.find? name = some id) (nodes : List Node) :
    { table with nodes := table.nodes ++ nodes }.find? name = some id := by
  rw [find?] at found ⊢
  rw [List.findIdx?_append, found, Option.some_or]

theorem exists_node?_of_find? (found : table.find? name = some id) :
    ∃ node, table.node? id = some node ∧ node.name = name := by
  rcases List.findIdx?_eq_some_iff_getElem.mp found with ⟨inside, named, _⟩
  exact ⟨_, List.getElem?_eq_getElem inside, beq_iff_eq.mp named⟩

theorem find?_lt_size (found : table.find? name = some id) : id < table.size := by
  rcases List.findIdx?_eq_some_iff_getElem.mp found with ⟨inside, _⟩
  exact inside

theorem exists_find?_of_mem_names (member : name ∈ table.names) :
    ∃ id, table.find? name = some id := by
  rw [← Option.isSome_iff_exists, find?, List.findIdx?_isSome, List.any_eq_true]
  rcases List.mem_map.mp member with ⟨node, node_mem, rfl⟩
  exact ⟨node, node_mem, beq_self_eq_true _⟩

/-- The name of a node that is appended joins those that are there. -/
theorem append_subset_names {names : List String} (held : names ⊆ table.names) (node : Node) :
    names ++ [node.name] ⊆ { table with nodes := table.nodes ++ [node] }.names := by
  rw [Table.names, List.map_append]
  exact List.append_subset.mpr ⟨List.subset_append_of_subset_left _ held,
    List.subset_append_right _ _⟩

/-- Among nodes of different names each is found by its own. -/
theorem find?_of_node? (nodup : table.names.Nodup) {node : Node}
    (found : table.node? id = some node) : table.find? node.name = some id := by
  have named : table.names[id]? = some node.name := by
    rw [names, List.getElem?_map]
    exact congrArg (Option.map Node.name) found
  rw [← findIdx?_beq_eq_some_iff nodup, names, List.findIdx?_map] at named
  exact named

/-! ## Images -/

theorem built_images {images : List Image} (sound : ∀ image ∈ images, image.WellFormed) :
    Built ⟨[], images⟩ := by
  induction images using List.reverseRecOn with
  | nil => exact .empty
  | append_singleton front last ih =>
      have built := (ih fun image member => sound image (List.mem_append_left _ member)).addImage
        last
      rwa [addImage_of_wellFormed _ (sound last (by simp))] at built

theorem Built.append {node : Node} (built : table.Built)
    (stands : node.Stands table.images.length table.size) :
    Built { table with nodes := table.nodes ++ [node] } := by
  have pushed := built.push node.name node.kind node.children
  rwa [table.push_of_stands stands] at pushed

end Table

/-- Sound images, and no others, can be stored, and they are stored in their order. -/
theorem Document.imageTable_eq_ok_iff {images : List Image} {table : Table} :
    imageTable images = .ok table ↔
      (∀ image ∈ images, image.WellFormed) ∧ table = ⟨[], images⟩ := by
  induction images using List.reverseRecOn generalizing table with
  | nil => simp [imageTable, Table.empty, eq_comm]
  | append_singleton front last ih =>
      rw [imageTable, List.foldlM_append, ← imageTable, bind_eq_ok_iff]
      simp only [ih, List.foldlM_cons, List.foldlM_nil, List.forall_mem_append,
        List.forall_mem_singleton]
      constructor
      · rintro ⟨_, ⟨sound, rfl⟩, added⟩
        obtain ⟨_, refused⟩ | ⟨last_sound, stored⟩ := Table.addImage_cases ⟨[], front⟩ last
        · rw [refused] at added
          cases added
        · rw [stored] at added
          cases added
          exact ⟨⟨sound, last_sound⟩, rfl⟩
      · rintro ⟨⟨sound, last_sound⟩, rfl⟩
        refine ⟨_, ⟨sound, rfl⟩, ?_⟩
        rw [Table.addImage_of_wellFormed _ last_sound]
        rfl

/-! ## One texture -/

namespace TextureEntry

variable {entry : TextureEntry} {document : Document} {table : Table}

/-- A kind that a texture has: its parameters are sound, and its inputs are those of the
kind. -/
structure HasKind (entry : TextureEntry) (document : Document) (kind : TextureKind) : Prop where
  kind_eq : entry.kind document = .ok kind
  mem_keys_iff : ∀ slot, slot ∈ entry.inputs.keys ↔ slot ∈ kind.inputNames
  fits : kind.Fits document.images.length

/-- The input of a texture in a slot is found at a position of a table. -/
def Takes (entry : TextureEntry) (table : Table) (slot : String) (child : NodeId) : Prop :=
  ∃ source, entry.inputs.get? slot = some source ∧ table.find? source = some child

/-- A node that stands for a texture among the nodes of a table. -/
structure Becomes (entry : TextureEntry) (document : Document) (table : Table) (node : Node) :
    Prop where
  name_eq : node.name = entry.name
  hasKind : entry.HasKind document node.kind
  takes : List.Forall₂ (entry.Takes table) node.kind.inputNames node.children

theorem childIn_eq_ok_iff {slot : String} {child : NodeId} :
    entry.childIn table slot = .ok child ↔ entry.Takes table slot child := by
  rw [childIn, Takes]
  cases entry.inputs.get? slot with
  | none => simp
  | some source =>
      simp only [Option.some.injEq, exists_eq_left']
      cases table.find? source <;> simp

theorem mem_keys_of_takes {slots : List String} {children : List NodeId}
    (takes : List.Forall₂ (entry.Takes table) slots children) {slot : String}
    (member : slot ∈ slots) : slot ∈ entry.inputs.keys := by
  rcases exists_mem_of_forall₂ takes member with ⟨_, _, source, given, _⟩
  exact Dictionary.exists_get?_iff.mp ⟨source, given⟩

theorem Becomes.append {node : Node} (becomes : entry.Becomes document table node)
    (nodes : List Node) :
    entry.Becomes document { table with nodes := table.nodes ++ nodes } node where
  name_eq := becomes.name_eq
  hasKind := becomes.hasKind
  takes := becomes.takes.imp fun _ _ ⟨source, given, found⟩ =>
    ⟨source, given, Table.find?_append found nodes⟩

theorem names_eq_of_becomes {entries : List TextureEntry} {nodes : List Node}
    (becomes : List.Forall₂ (fun entry node => entry.Becomes document table node) entries nodes) :
    entries.map (·.name) = nodes.map (·.name) :=
  map_eq_map_of_forall₂ (becomes.imp fun _ _ becomesNode => becomesNode.name_eq.symm)

theorem Becomes.stands {node : Node} (images_eq : table.images = document.images)
    (becomes : entry.Becomes document table node) :
    node.Stands table.images.length table.size where
  children_length := becomes.takes.length_eq.symm
  child_lt child member := by
    rcases exists_mem_of_forall₂ becomes.takes.flip member with ⟨_, _, _, _, found⟩
    exact Table.find?_lt_size found
  fits := images_eq ▸ becomes.hasKind.fits

/-- A texture is lowered to the node that it becomes, behind those that are there. -/
theorem lower_eq_ok_iff (images_eq : table.images = document.images) {result : Table} :
    entry.lower document table = .ok result ↔ ∃ node, entry.Becomes document table node ∧
      result = { table with nodes := table.nodes ++ [node] } := by
  have all_known {kind : TextureKind} :
      entry.inputs.keys.find? (fun slot => !kind.inputNames.contains slot) = none ↔
        ∀ slot ∈ entry.inputs.keys, slot ∈ kind.inputNames := by
    simp
  have made {names : List String} {children : List NodeId} :
      names.mapM (entry.childIn table) = .ok children ↔
        List.Forall₂ (entry.Takes table) names children := by
    simp only [mapM_eq_ok_iff, childIn_eq_ok_iff]
  simp only [lower, bind_eq_ok_iff, mapError_eq_ok_iff]
  constructor
  · rintro ⟨kind, kind_eq, rest⟩
    cases known : entry.inputs.keys.find? fun slot => !kind.inputNames.contains slot with
    | some slot =>
        rw [known] at rest
        cases rest
    | none =>
        rw [known] at rest
        rcases bind_eq_ok_iff.mp rest with ⟨children, found, rest⟩
        obtain ⟨_, refused⟩ | ⟨stands, pushed⟩ := table.push_cases entry.name kind children
        · rw [refused] at rest
          cases rest
        · rw [pushed] at rest
          cases rest
          have takes := made.mp found
          have hasKind : entry.HasKind document kind :=
            ⟨kind_eq, fun slot => ⟨all_known.mp known slot, mem_keys_of_takes takes⟩,
              images_eq ▸ stands.fits⟩
          exact ⟨⟨entry.name, kind, children⟩, ⟨rfl, hasKind, takes⟩, rfl⟩
  · rintro ⟨node, becomes, rfl⟩
    refine ⟨node.kind, becomes.hasKind.kind_eq, ?_⟩
    rw [all_known.mpr fun slot => (becomes.hasKind.mem_keys_iff slot).mp]
    change (_ >>= _) = _
    rw [made.mpr becomes.takes, ok_bind, ← becomes.name_eq,
      table.push_of_stands (becomes.stands images_eq)]
    rfl

end TextureEntry

/-! ## All textures -/

namespace Document

variable {document : Document} {table result : Table}

/-- Textures that are lowered one behind the other become nodes in the same order. -/
theorem exists_forall₂_of_foldlM_lower {entries : List TextureEntry}
    (images_eq : table.images = document.images) (built : table.Built)
    (lowered : entries.foldlM (fun table entry => entry.lower document table) table = .ok result) :
    ∃ nodes, result = { table with nodes := table.nodes ++ nodes } ∧ result.Built ∧
      List.Forall₂ (fun entry node => entry.Becomes document result node) entries nodes := by
  induction entries generalizing table with
  | nil =>
      cases lowered
      exact ⟨[], by rw [List.append_nil], built, .nil⟩
  | cons entry rest ih =>
      rw [List.foldlM_cons, bind_eq_ok_iff] at lowered
      rcases lowered with ⟨next, first, lowered⟩
      rcases (TextureEntry.lower_eq_ok_iff images_eq).mp first with ⟨node, becomes, rfl⟩
      have nextBuilt := built.append (becomes.stands images_eq)
      rcases ih (by exact images_eq) nextBuilt lowered with ⟨nodes, rfl, resultBuilt, others⟩
      refine ⟨node :: nodes, by simp, resultBuilt, .cons ?_ others⟩
      simpa using becomes.append (node :: nodes)

/-- Textures whose inputs stand before them are lowered whenever they are of some kind. -/
theorem exists_foldlM_lower {before entries : List TextureEntry}
    (inTurn : InTurn TextureEntry.Fed before entries) (images_eq : table.images = document.images)
    (lowered : before.map (·.name) ⊆ table.names)
    (kinds : ∀ entry ∈ entries, ∃ kind, entry.HasKind document kind) :
    ∃ result, entries.foldlM (fun table entry => entry.lower document table) table =
      .ok result := by
  induction entries generalizing before table with
  | nil => exact ⟨table, rfl⟩
  | cons entry rest ih =>
      rcases kinds entry List.mem_cons_self with ⟨kind, hasKind⟩
      have taken : ∀ slot ∈ kind.inputNames, ∃ child, entry.Takes table slot child := by
        intro slot member
        rcases Dictionary.exists_get?_iff.mpr ((hasKind.mem_keys_iff slot).mpr member) with
          ⟨source, given⟩
        rcases Table.exists_find?_of_mem_names
          (lowered (inTurn.1 source (Dictionary.mem_values_of_get? given))) with ⟨child, found⟩
        exact ⟨child, source, given, found⟩
      rcases exists_forall₂ taken with ⟨children, takes⟩
      have first := (TextureEntry.lower_eq_ok_iff images_eq).mpr
        ⟨⟨entry.name, kind, children⟩, ⟨rfl, hasKind, takes⟩, rfl⟩
      rw [List.foldlM_cons, first, ok_bind]
      have restKinds := fun other member => kinds other (List.mem_cons_of_mem entry member)
      refine ih inTurn.2 images_eq ?_ restKinds
      rw [List.map_append]
      exact Table.append_subset_names lowered ⟨entry.name, kind, children⟩

/-- A table whose nodes are those of the textures of a document, in some arrangement. -/
structure Represents (document : Document) (table : Table) : Prop where
  images_eq : table.images = document.images
  built : table.Built
  names_nodup : table.names.Nodup
  arranged : ∃ entries, entries.Perm document.textures ∧
    List.Forall₂ (fun entry node => entry.Becomes document table node) entries table.nodes

/-- What is needed for a document to become a table. -/
structure Lowerable (document : Document) : Prop where
  images : ∀ image ∈ document.images, image.WellFormed
  orderable : document.Orderable
  kinds : ∀ entry ∈ document.textures, ∃ kind, entry.HasKind document kind

theorem lower_eq_ok_iff : document.lower = .ok table ↔
    (∀ image ∈ document.images, image.WellFormed) ∧
      ∃ positions, document.order = .ok positions ∧
        (document.texturesAt positions).foldlM
          (fun table entry => entry.lower document table) ⟨[], document.images⟩ = .ok table := by
  simp only [lower, bind_eq_ok_iff, mapError_eq_ok_iff, imageTable_eq_ok_iff]
  constructor
  · rintro ⟨_, ⟨sound, rfl⟩, lowered⟩
    exact ⟨sound, lowered⟩
  · rintro ⟨sound, lowered⟩
    exact ⟨_, ⟨sound, rfl⟩, lowered⟩

theorem Lowerable.exists_lower (lowerable : document.Lowerable) :
    ∃ table, document.lower = .ok table := by
  rcases lowerable.orderable.exists_order with ⟨positions, ordered⟩
  obtain ⟨_, perm, inTurn⟩ := inTurn_of_order ordered
  obtain ⟨table, lowered⟩ : ∃ table, (document.texturesAt positions).foldlM
      (fun table entry => entry.lower document table) ⟨[], document.images⟩ = .ok table :=
    exists_foldlM_lower inTurn rfl (List.nil_subset _)
      fun entry member => lowerable.kinds entry (perm.mem_iff.mp member)
  exact ⟨table, lower_eq_ok_iff.mpr ⟨lowerable.images, positions, ordered, lowered⟩⟩

theorem represents_of_lower (lowered : document.lower = .ok table) :
    document.Represents table := by
  rcases lower_eq_ok_iff.mp lowered with ⟨sound, positions, ordered, lowered⟩
  obtain ⟨nodup, perm, _⟩ := inTurn_of_order ordered
  rcases exists_forall₂_of_foldlM_lower rfl (Table.built_images sound) lowered with
    ⟨nodes, rfl, built, becomes⟩
  have names_eq := TextureEntry.names_eq_of_becomes becomes
  have distinct : (nodes.map (·.name)).Nodup := names_eq ▸ (perm.map _).nodup_iff.mpr nodup
  exact ⟨rfl, built, distinct, _, perm, becomes⟩

namespace Represents

variable {entry : TextureEntry}

theorem exists_node (represents : document.Represents table) (member : entry ∈ document.textures) :
    ∃ id node, table.node? id = some node ∧ entry.Becomes document table node := by
  rcases represents.arranged with ⟨entries, perm, becomes⟩
  rcases List.mem_iff_getElem?.mp (perm.mem_iff.mpr member) with ⟨id, standing⟩
  rcases exists_getElem?_of_forall₂ becomes standing with ⟨node, found, becomesNode⟩
  exact ⟨id, node, found, becomesNode⟩

theorem exists_find? (represents : document.Represents table) (member : entry ∈ document.textures) :
    ∃ id, table.find? entry.name = some id := by
  rcases represents.exists_node member with ⟨id, node, found, becomes⟩
  exact ⟨id, becomes.name_eq ▸ Table.find?_of_node? represents.names_nodup found⟩

theorem exists_entry (represents : document.Represents table) {id : NodeId} {node : Node}
    (found : table.node? id = some node) :
    ∃ entry ∈ document.textures, entry.Becomes document table node := by
  rcases represents.arranged with ⟨entries, perm, becomes⟩
  rcases exists_getElem?_of_forall₂ becomes.flip found with ⟨entry, standing, becomesNode⟩
  exact ⟨entry, perm.mem_iff.mp (List.mem_of_getElem? standing), becomesNode⟩

end Represents

theorem lowerable_of_lower (lowered : document.lower = .ok table) : document.Lowerable where
  images := (lower_eq_ok_iff.mp lowered).1
  orderable := by
    rcases lower_eq_ok_iff.mp lowered with ⟨_, _, ordered, _⟩
    exact orderable_of_order ordered
  kinds _ member := by
    rcases (represents_of_lower lowered).exists_node member with ⟨_, node, _, becomes⟩
    exact ⟨node.kind, becomes.hasKind⟩

end Document

end TextureGraph
