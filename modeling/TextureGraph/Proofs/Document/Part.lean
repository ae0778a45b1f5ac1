import TextureGraph.Proofs.Document.Renaming
import TextureGraph.Proofs.Machine.Correctness
import TextureGraph.Proofs.Program.Renumbering

/-!
# Documents inside others

Textures of a document that bring along all that feeds them are a document of their own,
also under other names. It becomes a table and compiles where the document does, and its
textures have the same code and the same values there.
-/

namespace TextureGraph

open Outcome Machine

namespace Table

/-- Nodes that stand elsewhere have the same code, but for the positions that it names, and
the same values. -/
theorem Relocation.exists_compile_answers {source target : Table} {move : NodeId → NodeId}
    (relocation : source.Relocation target (· < source.size) move)
    (sourceFormed : source.WellFormed) (targetFormed : target.WellFormed) {config : Config}
    {program : Program} (compiled : target.compile config = .ok program) :
    ∃ own, source.compile config = .ok own ∧ ∀ id kind, id < source.size →
      ∃ code ownSpan span, own.Places id kind code ownSpan ∧
        program.Places (move id) kind (code.renumber move) span ∧
        ∀ hit, ∃ value, Answers config own source id kind hit value ∧
          Answers config program target (move id) kind hit value := by
  rcases relocation.exists_compile compiled with ⟨own, ownCompiled, placed⟩
  refine ⟨own, ownCompiled, fun id kind inside => ?_⟩
  rcases placed id kind inside with ⟨code, ownSpan, span, ownPlaces, places⟩
  refine ⟨code, ownSpan, span, ownPlaces, places, fun hit => ?_⟩
  have inTarget : move id < target.size := by
    rcases relocation.found inside with ⟨node, found⟩
    rcases relocation.moved inside found with ⟨_, moved⟩
    exact (List.getElem?_eq_some_iff.mp moved).1
  rcases exists_answers sourceFormed ownCompiled inside kind hit with ⟨value, _, ownAnswers⟩
  have same := relocation.evaluate_eq sourceFormed targetFormed inside config.bumpSampleDistance
    kind hit
  have evaluated := same.trans ownAnswers.evaluate_eq
  exact ⟨value, ownAnswers, .of_evaluate_eq_ok targetFormed compiled inTarget evaluated⟩

/-- Where in another table a node of a table stands under its new name. -/
def counterpart (source target : Table) (newName : String → String) (id : NodeId) : NodeId :=
  ((source.node? id).bind fun node => target.find? (newName node.name)).getD id

end Table

theorem TextureEntry.rightUnique_takes {entry : TextureEntry} {table : Table} :
    Relator.RightUnique (entry.Takes table) := by
  rintro slot first second ⟨source, given, found⟩ ⟨_, again, foundAgain⟩
  cases given.symm.trans again
  cases found.symm.trans foundAgain
  rfl

namespace Document

theorem compile_eq_ok_iff {document : Document} {table : Table} {program : Program} :
    document.compile = .ok (table, program) ↔
      document.lower = .ok table ∧ table.compile document.settings = .ok program := by
  simp only [compile, bind_eq_ok_iff, mapError_eq_ok_iff, pure_eq_ok, Except.ok.injEq,
    Prod.mk.injEq]
  constructor
  · rintro ⟨_, lowered, _, compiled, rfl, rfl⟩
    exact ⟨lowered, compiled⟩
  · rintro ⟨lowered, compiled⟩
    exact ⟨table, lowered, program, compiled, rfl, rfl⟩

/-- Textures of a document that are all there, and with them all that feeds them, in
another document under other names. -/
structure Part (part whole : Document) (newName : String → String) : Prop where
  settings_eq : whole.settings = part.settings
  images_eq : whole.images = part.images
  names_nodup : part.names.Nodup
  sourcesKnown : part.SourcesKnown
  rename_mem : ∀ entry ∈ part.textures, entry.rename newName ∈ whole.textures

namespace Part

variable {part whole : Document} {newName : String → String} {source target : Table}

theorem orderable (isPart : part.Part whole newName) (orderable : whole.Orderable) :
    part.Orderable where
  names_nodup := isPart.names_nodup
  sourcesKnown := isPart.sourcesKnown
  exists_rank := by
    rcases orderable.exists_rank with ⟨rank, ranked⟩
    refine ⟨rank ∘ newName, fun entry member source feeds => ?_⟩
    exact ranked _ (isPart.rename_mem entry member) _ (TextureEntry.feeds_rename feeds)

theorem lowerable (isPart : part.Part whole newName) (lowerable : whole.Lowerable) :
    part.Lowerable where
  images := isPart.images_eq ▸ lowerable.images
  orderable := isPart.orderable lowerable.orderable
  kinds entry member := by
    rcases lowerable.kinds _ (isPart.rename_mem entry member) with ⟨kind, hasKind⟩
    exact ⟨kind, (TextureEntry.hasKind_rename_iff isPart.images_eq).mp hasKind⟩

section

variable (isPart : part.Part whole newName) (represents : part.Represents source)
  (wholeRepresents : whole.Represents target)

include isPart represents wholeRepresents

/-- The counterpart of a node is that of the same texture under its new name. -/
theorem exists_counterpart {id : NodeId} {node : Node} (found : source.node? id = some node) :
    ∃ (entry : TextureEntry) (other : Node), entry.Becomes part source node ∧
      (entry.rename newName).Becomes whole target other ∧
      target.node? (source.counterpart target newName id) = some other ∧
      target.find? (newName node.name) = some (source.counterpart target newName id) := by
  rcases represents.exists_entry found with ⟨entry, member, becomes⟩
  rcases wholeRepresents.exists_node (isPart.rename_mem entry member) with
    ⟨otherId, other, otherFound, otherBecomes⟩
  have located := Table.find?_of_node? wholeRepresents.names_nodup otherFound
  rw [otherBecomes.name_eq, TextureEntry.rename, ← becomes.name_eq] at located
  have otherId_eq : source.counterpart target newName id = otherId := by
    rw [Table.counterpart, found, Option.bind_some, located, Option.getD_some]
  rw [otherId_eq]
  exact ⟨entry, other, becomes, otherBecomes, otherFound, located⟩

theorem find?_counterpart {name : String} {id : NodeId} (found : source.find? name = some id) :
    target.find? (newName name) = some (source.counterpart target newName id) := by
  rcases Table.exists_node?_of_find? found with ⟨node, nodeFound, rfl⟩
  rcases isPart.exists_counterpart represents wholeRepresents nodeFound with
    ⟨_, _, _, _, _, located⟩
  exact located

/-- Nodes that are the inputs of a texture have the inputs of its counterpart as theirs. -/
theorem takes_counterpart {entry : TextureEntry} {slot : String} {child : NodeId}
    (takes : entry.Takes source slot child) :
    (entry.rename newName).Takes target slot (source.counterpart target newName child) := by
  rcases takes with ⟨name, given, found⟩
  refine ⟨newName name, ?_, isPart.find?_counterpart represents wholeRepresents found⟩
  rw [TextureEntry.rename, Dictionary.get?_mapValues, given, Option.map_some]

/-- The table of a document holds that of each of its parts. -/
theorem relocation : source.Relocation target (· < source.size)
    (source.counterpart target newName) where
  images_eq := by
    rw [represents.images_eq, wholeRepresents.images_eq, isPart.images_eq]
  found inside := ⟨_, List.getElem?_eq_getElem inside⟩
  moved {id node} _ found := by
    rcases isPart.exists_counterpart represents wholeRepresents found with
      ⟨entry, other, becomes, otherBecomes, otherFound, _⟩
    have kind_eq : other.kind = node.kind := by
      have same := (TextureEntry.hasKind_rename_iff isPart.images_eq).mp otherBecomes.hasKind
      exact Except.ok.inj (same.kind_eq.symm.trans becomes.hasKind.kind_eq)
    have children_eq : other.children = node.children.map (source.counterpart target newName) := by
      have takes : List.Forall₂ ((entry.rename newName).Takes target) node.kind.inputNames
          (node.children.map (source.counterpart target newName)) :=
        List.forall₂_map_right_iff.mpr
          (becomes.takes.imp fun _ _ => isPart.takes_counterpart represents wholeRepresents)
      exact TextureEntry.rightUnique_takes.forall₂ (kind_eq ▸ otherBecomes.takes) takes
    refine ⟨other.name, ?_⟩
    rw [otherFound, Node.relocate, ← kind_eq, ← children_eq]
  child inside found child member :=
    Nat.lt_trans ((represents.built.wellFormed.stands found).child_lt child member) inside

end

/-- Where a document compiles, so does each of its parts. Each texture of the part stands
where the document has it, by the node that has its new name. -/
theorem exists_compile (isPart : part.Part whole newName) {program : Program}
    (compiled : whole.compile = .ok (target, program)) :
    ∃ source own move, part.compile = .ok (source, own) ∧
      (∀ name id, source.find? name = some id → target.find? (newName name) = some (move id)) ∧
      ∀ entry ∈ part.textures, ∃ id, source.find? entry.name = some id ∧
        ∀ kind, ∃ code ownSpan span, own.Places id kind code ownSpan ∧
          program.Places (move id) kind (code.renumber move) span ∧
          ∀ hit, ∃ value, Answers part.settings own source id kind hit value ∧
            Answers whole.settings program target (move id) kind hit value := by
  rcases compile_eq_ok_iff.mp compiled with ⟨wholeLowered, tableCompiled⟩
  have lowerable := isPart.lowerable (lowerable_of_lower wholeLowered)
  rcases lowerable.exists_lower with ⟨source, lowered⟩
  have represents := represents_of_lower lowered
  have wholeRepresents := represents_of_lower wholeLowered
  have relocation := isPart.relocation represents wholeRepresents
  rw [isPart.settings_eq] at tableCompiled ⊢
  rcases relocation.exists_compile_answers represents.built.wellFormed
    wholeRepresents.built.wellFormed tableCompiled with ⟨own, ownCompiled, answers⟩
  refine ⟨source, own, source.counterpart target newName, ?_, ?_, ?_⟩
  · exact compile_eq_ok_iff.mpr ⟨lowered, ownCompiled⟩
  · exact fun name id => isPart.find?_counterpart represents wholeRepresents
  · intro entry member
    rcases represents.exists_find? member with ⟨id, found⟩
    exact ⟨id, found, fun kind => answers id kind (Table.find?_lt_size found)⟩

end Part

/-- A texture that is the input of another one twice, and one that nothing uses. -/
def doubled : Document where
  version := "1"
  settings := .standard
  images := []
  textures := [
    ⟨"unused", "uv", .empty, .empty⟩,
    ⟨"grain", "wrinkled", .empty, .empty⟩,
    ⟨"sum", "add", .empty, .ofList [("texture1", "grain"), ("texture2", "grain")]⟩]

theorem exists_compile_doubled : ∃ table program, doubled.compile = .ok (table, program) := by
  have ordered : doubled.order = .ok [0, 1, 2] :=
    order_eq_ok_iff.mpr ⟨by decide, by decide, by decide, by decide⟩
  have lowered := lower_eq_ok_iff.mpr ⟨List.forall_mem_nil _, [0, 1, 2], ordered, rfl⟩
  exact ⟨_, _, compile_eq_ok_iff.mpr ⟨lowered, rfl⟩⟩

end Document

end TextureGraph
