import TextureGraph.Proofs.Document.Cycles

/-!
# Arrangements of textures

An order that is found is an arrangement: it lists the position of every texture once, behind
the positions of all textures that feed it. One is found for exactly the documents whose names
differ, whose inputs are there and in which no texture feeds itself.
-/

namespace TextureGraph

namespace Document

/-- Positions of the textures that feed the one at a position. -/
def inputsAt (document : Document) (i : Nat) : List Nat :=
  document.sourceIndices[i]?.getD []

/-- All positions of a document, each behind those of the textures that feed the one there. -/
structure Arrangement (document : Document) (positions : List Nat) : Prop where
  perm : positions.Perm (List.range document.textures.length)
  behind : ∀ (i j : Nat) (entry : TextureEntry), document.textures[i]? = some entry →
    ∀ source ∈ entry.inputs.values, document.names[j]? = some source →
      positions.idxOf j < positions.idxOf i

variable {document : Document} {positions : List Nat} {i j : Nat}

theorem sourceIndices_eq_inputsAt (inside : i < document.textures.length) :
    document.sourceIndices[i]? = some (document.inputsAt i) := by
  have inRange : i < document.sourceIndices.length := by
    rwa [length_sourceIndices]
  rw [inputsAt, List.getElem?_eq_getElem inRange, Option.getD_some]

theorem lt_length_of_mem_inputsAt (feeds : j ∈ document.inputsAt i) :
    i < document.textures.length := by
  by_contra outside
  have missing : document.sourceIndices[i]? = none := by
    rw [List.getElem?_eq_none_iff, length_sourceIndices]
    exact Nat.not_lt.mp outside
  rw [inputsAt, missing] at feeds
  cases feeds

/-- A texture feeds another one if it has the name of one of its inputs. -/
theorem mem_inputsAt_iff (nodup : document.names.Nodup) {entry : TextureEntry}
    (found : document.textures[i]? = some entry) :
    j ∈ document.inputsAt i ↔
      ∃ source ∈ entry.inputs.values, document.names[j]? = some source := by
  rw [inputsAt, sourceIndices_getElem? found, Option.getD_some, List.mem_filterMap]
  constructor
  · rintro ⟨source, given, position⟩
    exact ⟨source, given, (findIdx?_beq_eq_some_iff nodup).mp position⟩
  · rintro ⟨source, given, named⟩
    exact ⟨source, given, (findIdx?_beq_eq_some_iff nodup).mpr named⟩

/-- Wherever a texture is placed, all that feeds it is placed before. -/
theorem idxOf_lt_of_mem_placement (placed : i ∈ document.placement)
    (feeds : j ∈ document.inputsAt i) :
    j ∈ document.placement ∧ document.placement.idxOf j < document.placement.idxOf i := by
  have distinct := document.nodup_placement
  have inTurn := document.placing_placement.inTurn
  rcases List.append_of_mem placed with ⟨before, after, placement_eq⟩
  rw [placement_eq] at distinct inTurn ⊢
  obtain ⟨_, ⟨inputs, inputsFound, supplied⟩, _⟩ := inTurn_append_iff.mp inTurn
  cases (sourceIndices_eq_inputsAt (lt_length_of_mem_inputsAt feeds)).symm.trans inputsFound
  have early : j ∈ before := supplied j feeds
  constructor
  · exact List.mem_append_left _ early
  · exact idxOf_lt_idxOf_of_mem distinct early

/-! ## Orders that are found -/

theorem mem_of_order (found : document.order = .ok positions) :
    i ∈ positions ↔ i < document.textures.length := by
  rw [(perm_range_of_order found).mem_iff, List.mem_range]

theorem nodup_of_order (found : document.order = .ok positions) : positions.Nodup :=
  (perm_range_of_order found).nodup_iff.mpr List.nodup_range

/-- What feeds a texture stands before it. -/
theorem idxOf_lt_of_mem_inputsAt (found : document.order = .ok positions)
    (feeds : j ∈ document.inputsAt i) : positions.idxOf j < positions.idxOf i := by
  have placed := (mem_of_order found).mpr (lt_length_of_mem_inputsAt feeds)
  obtain ⟨_, _, rfl, _⟩ := order_eq_ok_iff.mp found
  exact (idxOf_lt_of_mem_placement placed feeds).2

theorem arrangement_of_order (found : document.order = .ok positions) :
    document.Arrangement positions := by
  have distinct := (orderable_of_order found).names_nodup
  constructor
  · exact perm_range_of_order found
  · intro i j entry standing source given named
    apply idxOf_lt_of_mem_inputsAt found
    exact (mem_inputsAt_iff distinct standing).mpr ⟨source, given, named⟩

/-- An order is found just if all names differ, each input names a texture and no texture feeds
itself, be it directly or through others. What is found is an arrangement of the textures,
whatever number of slots one of them feeds. -/
theorem order_sound_and_complete (document : Document) :
    ((∃ positions, document.order = .ok positions) ↔
      document.names.Nodup ∧ document.SourcesKnown ∧ document.Acyclic) ∧
    ∀ positions, document.order = .ok positions → document.Arrangement positions := by
  constructor
  · rw [← orderable_iff]
    constructor
    · rintro ⟨positions, found⟩
      exact orderable_of_order found
    · intro orderable
      exact orderable.exists_order
  · intro positions found
    exact arrangement_of_order found

end Document

end TextureGraph
