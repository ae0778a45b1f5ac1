import Mathlib.Data.Finset.Card
import Mathlib.Logic.Relation
import TextureGraph.Proofs.Document.Order

/-!
# Textures that feed themselves

Textures can be ranked by how many others feed them, directly or through others, unless one
of them feeds itself. So what stands in the way of an order, names apart, is a cycle.
-/

namespace TextureGraph

namespace Document

/-- A name feeds another one if a texture of the other name has it as an input. -/
def Feeds (document : Document) (source name : String) : Prop :=
  ∃ entry ∈ document.textures, entry.name = name ∧ source ∈ entry.inputs.values

/-- No texture feeds itself, directly or through others. -/
def Acyclic (document : Document) : Prop :=
  ∀ name, ¬ Relation.TransGen document.Feeds name name

variable {document : Document} {source name : String}

theorem SourcesKnown.mem_names (known : document.SourcesKnown)
    (feeds : document.Feeds source name) : source ∈ document.names := by
  rcases feeds with ⟨entry, member, rfl, given⟩
  exact known entry member source given

/-- Whatever feeds a name ranks below it. -/
theorem lt_of_transGen_feeds {rank : String → Nat}
    (ranked : ∀ entry ∈ document.textures, ∀ source ∈ entry.inputs.values,
      rank source < rank entry.name)
    (path : Relation.TransGen document.Feeds source name) : rank source < rank name := by
  have step {source name : String} (feeds : document.Feeds source name) :
      rank source < rank name := by
    rcases feeds with ⟨entry, member, rfl, given⟩
    exact ranked entry member source given
  induction path with
  | single feeds => exact step feeds
  | tail _ feeds ih => exact Nat.lt_trans ih (step feeds)

open Classical in
/-- The names that feed a name, directly or through others. -/
noncomputable def feeders (document : Document) (name : String) : Finset String :=
  document.names.toFinset.filter fun source => Relation.TransGen document.Feeds source name

open Classical in
theorem mem_feeders_iff : source ∈ document.feeders name ↔
    source ∈ document.names ∧ Relation.TransGen document.Feeds source name := by
  rw [feeders, Finset.mem_filter, List.mem_toFinset]

/-- What feeds a name, and not itself, has fewer feeders: all of them feed the name, and so does
it itself. -/
theorem card_feeders_lt (known : document.SourcesKnown) (feeds : document.Feeds source name)
    (uncyclic : ¬ Relation.TransGen document.Feeds source source) :
    (document.feeders source).card < (document.feeders name).card := by
  have others : document.feeders source ⊆ document.feeders name := by
    intro other member
    rcases mem_feeders_iff.mp member with ⟨named, path⟩
    exact mem_feeders_iff.mpr ⟨named, path.tail feeds⟩
  have itself : source ∈ document.feeders name :=
    mem_feeders_iff.mpr ⟨known.mem_names feeds, .single feeds⟩
  have unfed : source ∉ document.feeders source := by
    intro member
    exact uncyclic (mem_feeders_iff.mp member).2
  exact Finset.card_lt_card ((Finset.ssubset_iff_of_subset others).mpr ⟨source, itself, unfed⟩)

/-- A document can be ordered if its names differ, its inputs are there, and none of its
textures feeds itself. -/
theorem orderable_iff :
    document.Orderable ↔ document.names.Nodup ∧ document.SourcesKnown ∧ document.Acyclic := by
  constructor
  · rintro ⟨nodup, known, rank, ranked⟩
    exact ⟨nodup, known, fun name cycle => Nat.lt_irrefl _ (lt_of_transGen_feeds ranked cycle)⟩
  · rintro ⟨nodup, known, acyclic⟩
    refine ⟨nodup, known, fun name => (document.feeders name).card, ?_⟩
    intro entry member source given
    exact card_feeders_lt known ⟨entry, member, rfl, given⟩ (acyclic source)

end Document

end TextureGraph
