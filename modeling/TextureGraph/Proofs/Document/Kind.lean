import Mathlib.Data.List.Induction
import TextureGraph.Document.Lowering
import TextureGraph.Proofs.Outcome

/-!
# The kind of a texture

The kind that a texture has is one that its tag names, and the picture that it shows is the
last one of the document that has the name that is asked for.
-/

namespace TextureGraph

open Outcome

/-! ## The last image of a name -/

/-- An image of a name, behind which there is no other one of that name. -/
structure Document.LastImage (document : Document) (name : String) (position : ImageId) :
    Prop where
  exists_image : ∃ image, document.images[position]? = some image ∧ image.name = name
  name_ne : ∀ later image, position < later → document.images[later]? = some image →
    image.name ≠ name

/-- Searched from its end, a list shows the last element of a name. -/
private theorem lastIndex_eq_some {images : List Image} {name : String} {position : Nat}
    (found : (images.zipIdx.reverse.find? (·.1.name == name)).map (·.2) = some position) :
    (∃ image, images[position]? = some image ∧ image.name = name) ∧
      ∀ later image, position < later → images[later]? = some image → image.name ≠ name := by
  induction images using List.reverseRecOn with
  | nil => cases found
  | append_singleton front last ih =>
      have size : (front ++ [last]).length = front.length + 1 := List.length_append
      have atEnd : (front ++ [last])[front.length]? = some last := List.getElem?_concat_length
      simp only [List.zipIdx_append, List.reverse_append, List.zipIdx_singleton,
        List.reverse_singleton, List.singleton_append, List.find?_cons, Nat.zero_add] at found
      split at found
      next named =>
        obtain rfl : front.length = position := Option.some.inj found
        refine ⟨⟨last, atEnd, beq_iff_eq.mp named⟩, fun later image behind standing => ?_⟩
        have inside := (List.getElem?_eq_some_iff.mp standing).1
        omega
      next other =>
        obtain ⟨⟨image, standing, named⟩, others⟩ := ih found
        have inside := (List.getElem?_eq_some_iff.mp standing).1
        refine ⟨⟨image, by rwa [List.getElem?_append_left inside], named⟩, ?_⟩
        intro later laterImage behind laterStanding
        by_cases early : later < front.length
        · rw [List.getElem?_append_left early] at laterStanding
          exact others later laterImage behind laterStanding
        · have laterInside := (List.getElem?_eq_some_iff.mp laterStanding).1
          have atLast : later = front.length := by omega
          rw [atLast, atEnd] at laterStanding
          cases laterStanding
          exact beq_eq_false_iff_ne.mp other

theorem Document.lastImage_of_imageIndex? {document : Document} {name : String}
    {position : ImageId} (found : document.imageIndex? name = some position) :
    document.LastImage name position :=
  ⟨(lastIndex_eq_some found).1, (lastIndex_eq_some found).2⟩

theorem Document.LastImage.lt_length {document : Document} {name : String} {position : ImageId}
    (last : document.LastImage name position) : position < document.images.length := by
  rcases last.exists_image with ⟨_, standing, _⟩
  exact (List.getElem?_eq_some_iff.mp standing).1

namespace TextureEntry

variable {entry : TextureEntry} {document : Document} {kind : TextureKind}

/-- A texture is of a kind of the tag that it gives. -/
theorem tag_eq_of_kind (made : entry.kind document = .ok kind) : kind.tag = entry.tag := by
  simp only [TextureEntry.kind] at made
  split at made
  -- What is left of each case is which of its parameters may have been refused.
  all_goals
    simp only [bind_eq_ok_iff, pure_eq_ok, Except.ok.injEq, reduceCtorEq] at made
  all_goals
    first
    | obtain rfl := made
    | obtain ⟨_, _, rfl⟩ := made
    | obtain ⟨_, _, _, _, rfl⟩ := made
    exact Eq.symm ‹_›

/-- A texture shows the last image of the name that it gives. -/
theorem lastImage_of_kind {image : ImageId} {gain : Binary32} {mapping : UvMapping}
    (made : entry.kind document = .ok (.imageMap image gain mapping)) :
    ∃ name, entry.params.string? "image" = some name ∧ document.LastImage name image := by
  have tagged : entry.tag = "imagemap" := (tag_eq_of_kind made).symm
  simp only [TextureEntry.kind, tagged, bind_eq_ok_iff, pure_eq_ok, Except.ok.injEq,
    TextureKind.imageMap.injEq] at made
  obtain ⟨_, shown, _, _, rfl, _, _⟩ := made
  rw [imageOf] at shown
  cases named : entry.params.string? "image" with
  | none =>
      rw [named] at shown
      cases shown
  | some name =>
      simp only [named] at shown
      cases found : document.imageIndex? name with
      | none =>
          rw [found] at shown
          cases shown
      | some position =>
          rw [found] at shown
          cases shown
          exact ⟨name, rfl, Document.lastImage_of_imageIndex? found⟩

end TextureEntry

end TextureGraph
