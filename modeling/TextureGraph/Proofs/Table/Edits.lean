import Mathlib.Logic.Relation
import TextureGraph.Proofs.Table.Built

/-!
# What edits keep

A table that edits have made can be read without a check: every reference in it leads
somewhere, and none leads in a circle. An edit that is refused changes nothing at all.
-/

namespace TextureGraph

/-- Accepted offsets do not decrease, wherever in the list two of them stand. -/
theorem Band.WellFormed.pairwise_le {band : Band} (wellFormed : band.WellFormed) :
    band.offsets.Pairwise (· ≤ ·) := by
  have finite := wellFormed.finite
  have sorted := wellFormed.sorted
  generalize band.offsets = offsets at finite sorted
  have : IsTrans Binary32 (· ≤ ·) := ⟨fun _ _ _ => Binary32.le_trans⟩
  rw [← List.isChain_iff_pairwise]
  induction offsets with
  | nil => exact .nil
  | cons first rest ih =>
      cases rest with
      | nil => exact .singleton first
      | cons second rest =>
          simp only [isSorted, Bool.and_eq_true, Bool.not_eq_true', decide_eq_false_iff_not]
            at sorted
          have firstFinite := finite first List.mem_cons_self
          have restFinite := fun offset member => finite offset (List.mem_cons_of_mem first member)
          have secondFinite := restFinite second List.mem_cons_self
          exact .cons_cons (Binary32.le_of_not_lt firstFinite secondFinite sorted.1)
            (ih restFinite sorted.2)

namespace Table

variable {table : Table}

/-- One node is an input of another. -/
def HasInput (table : Table) (id input : NodeId) : Prop :=
  ∃ node, table.node? id = some node ∧ input ∈ node.children

/-- Whatever is reached by going from inputs to their inputs stands further in front. -/
theorem WellFormed.lt_of_transGen_hasInput (wellFormed : table.WellFormed) {id input : NodeId}
    (path : Relation.TransGen table.HasInput id input) : input < id := by
  have step {id input : NodeId} (has : table.HasInput id input) : input < id := by
    rcases has with ⟨node, found, member⟩
    exact (wellFormed.stands found).child_lt input member
  induction path with
  | single has => exact step has
  | tail _ has ih => exact Nat.lt_trans (step has) ih

/-- An edit that either answers with an error and the old table or succeeds leaves the old
table wherever it answers with an error. -/
private theorem unchanged_of_error {α : Type} {outcome : Except TableError α × Table}
    (cases : (∃ error, outcome = (.error error, table)) ∨ ∃ value, outcome.1 = .ok value)
    {error : TableError} (failed : outcome.1 = .error error) : outcome.2 = table := by
  rcases cases with ⟨_, refused⟩ | ⟨_, succeeded⟩
  · rw [refused]
  · rw [succeeded] at failed
    cases failed

theorem addImage_unchanged {image : Image} {error : TableError}
    (failed : (table.addImage image).1 = .error error) : (table.addImage image).2 = table :=
  unchanged_of_error ((table.addImage_cases image).imp_right fun ⟨_, added⟩ => ⟨_, by rw [added]⟩)
    failed

theorem push_unchanged {name : String} {kind : TextureKind} {children : List NodeId}
    {error : TableError} (failed : (table.push name kind children).1 = .error error) :
    (table.push name kind children).2 = table :=
  unchanged_of_error
    ((table.push_cases name kind children).imp_right fun ⟨_, pushed⟩ => ⟨_, by rw [pushed]⟩) failed

theorem replace_unchanged {id : NodeId} {kind : TextureKind} {children : List NodeId}
    {error : TableError} (failed : (table.replace id kind children).1 = .error error) :
    (table.replace id kind children).2 = table :=
  unchanged_of_error
    ((table.replace_cases id kind children).imp_right fun ⟨_, _, _, replaced⟩ =>
      ⟨_, by rw [replaced]⟩)
    failed

theorem remove_unchanged {id : NodeId} {error : TableError}
    (failed : (table.remove id).1 = .error error) : (table.remove id).2 = table :=
  unchanged_of_error
    ((table.remove_cases id).imp_right fun ⟨_, _, _, taken⟩ => ⟨_, by rw [taken]⟩) failed

/-- Nodes of a table that edits have made have the inputs that their kinds ask for, all of
them earlier; images and bands that they name are there and sound; and every edit that is
refused leaves the table as it was. -/
theorem Built.invariant (built : table.Built) :
    (∀ id node, table.node? id = some node →
      node.children.length = node.kind.arity ∧
      (∀ child ∈ node.children, child < id) ∧
      (∀ image gain mapping, node.kind = .imageMap image gain mapping →
        ∃ stored, table.image? image = some stored) ∧
      ∀ band, node.kind = .band band →
        band.offsets.length = band.values.length ∧ band.offsets.length ≤ 16 ∧
        (∀ offset ∈ band.offsets, offset.isFinite) ∧ band.offsets.Pairwise (· ≤ ·)) ∧
    (∀ id, ¬ Relation.TransGen table.HasInput id id) ∧
    (∀ image ∈ table.images,
      image.width.toNat * image.height.toNat = image.pixels.length ∧ 0 < image.pixels.length) ∧
    (∀ image error, (table.addImage image).1 = .error error →
      (table.addImage image).2 = table) ∧
    (∀ name kind children error, (table.push name kind children).1 = .error error →
      (table.push name kind children).2 = table) ∧
    (∀ id kind children error, (table.replace id kind children).1 = .error error →
      (table.replace id kind children).2 = table) ∧
    ∀ id error, (table.remove id).1 = .error error → (table.remove id).2 = table := by
  have wellFormed := built.wellFormed
  refine ⟨?_, ?_, ?_, fun _ _ => addImage_unchanged, fun _ _ _ _ => push_unchanged,
    fun _ _ _ _ => replace_unchanged, fun _ _ => remove_unchanged⟩
  · intro id node found
    have stands := wellFormed.stands found
    have fits := stands.fits
    refine ⟨stands.children_length, stands.child_lt, ?_, ?_⟩
    · intro image gain mapping kind
      rw [kind] at fits
      exact ⟨_, List.getElem?_eq_getElem fits⟩
    · intro band kind
      rw [kind] at fits
      exact ⟨fits.paired, fits.bounded, fits.finite, fits.pairwise_le⟩
  · intro id circle
    exact Nat.lt_irrefl id (wellFormed.lt_of_transGen_hasInput circle)
  · intro image member
    have sound := wellFormed.image image member
    have area_eq : image.width.toNat * image.height.toNat = image.pixels.length :=
      sound.pixels_length.symm
    exact ⟨area_eq, area_eq ▸ sound.area_pos⟩

/-- A band with a sharp step, over a number, and a picture that is brightened by the number. -/
def striped : Table where
  nodes := [
    ⟨"amount", .constFloat 0.5, []⟩,
    ⟨"stripes", .band ⟨[0, 0.5, 0.5, 1], [0, 0, 1, 1].map Vec3.splat⟩, [0]⟩,
    ⟨"picture", .imageMap 0 1 .identity, []⟩,
    ⟨"bright", .add, [0, 2]⟩]
  images := [⟨"dot", 1, 1, [Vec3.zero]⟩]

/-- One edit on the way is refused: the second texture asks to be its own input. -/
theorem built_striped : Built striped :=
  ((((((Built.empty.addImage ⟨"dot", 1, 1, [Vec3.zero]⟩).push "amount" (.constFloat 0.5) []).push
    "loop" .abs [1]).push
    "stripes" .abs [0]).replace
    1 (.band ⟨[0, 0.5, 0.5, 1], [0, 0, 1, 1].map Vec3.splat⟩) [0]).push
    "picture" (.imageMap 0 1 .identity) []).push
    "bright" .add [0, 2]

theorem invariant_striped :
    Built striped ∧ (striped.push "late" .abs [4]).2 = striped ∧
      (striped.remove 0).2 = striped ∧
      ([0, 0.5, 0.5, 1] : List Binary32).Pairwise (· ≤ ·) := by
  obtain ⟨nodes, _, _, _, pushes, _, removes⟩ := built_striped.invariant
  refine ⟨built_striped, pushes _ _ _ (.danglingChild 4 4) rfl,
    removes _ (.stillReferenced 0 1) rfl, ?_⟩
  exact ((nodes 1 _ rfl).2.2.2 _ rfl).2.2.2

end Table

end TextureGraph
