import TextureGraph.Document.Basic

/-!
# Dependencies of a texture

The names that a texture depends on, through any number of inputs, and the document
that keeps only what some textures depend on. Names of no texture count as
dependencies too, and references in a circle do no harm.
-/

namespace TextureGraph

namespace Document

/-- Names that feed the texture of a name, none if there is no such texture. -/
def sourcesOf (document : Document) (name : String) : List String :=
  match document.texture? name with
  | some entry => entry.inputs.values
  | none => []

theorem sourcesOf_eq_nil {document : Document} {name : String}
    (absent : name ∉ document.names) : document.sourcesOf name = [] := by
  unfold sourcesOf texture?
  rw [List.find?_eq_none.mpr]
  intro entry entry_mem
  simp only [beq_iff_eq]
  rintro rfl
  exact absent (List.mem_map_of_mem (List.mem_reverse.mp entry_mem))

private theorem length_filter_insert_lt {names visited : List String} {name : String}
    (listed : name ∈ names) (fresh : name ∉ visited) :
    (names.filter (· ∉ name :: visited)).length < (names.filter (· ∉ visited)).length := by
  have smaller : names.filter (· ∉ name :: visited) =
      (names.filter (· ∉ visited)).filter (· ≠ name) := by
    rw [List.filter_filter]
    congr 1
    funext other
    simp [not_or]
  rw [smaller]
  apply List.length_filter_lt_length_iff_exists.mpr
  exact ⟨name, by simp [listed, fresh], by simp⟩

/-- Visit the names of a stack and, before the rest of it, what they depend on. The
names visited last stand in front. -/
def visitNames (document : Document) (visited : List String) : List String → List String
  | [] => visited
  | name :: stack =>
      if name ∈ visited then visitNames document visited stack
      else visitNames document (name :: visited) (document.sourcesOf name ++ stack)
termination_by stack => ((document.names.filter (· ∉ visited)).length, stack.length)
decreasing_by
  · exact Prod.Lex.right _ (by simp)
  · by_cases listed : name ∈ document.names
    · exact Prod.Lex.left _ _ (length_filter_insert_lt listed ‹_›)
    · rw [sourcesOf_eq_nil listed]
      have unchanged : document.names.filter (· ∉ name :: visited) =
          document.names.filter (· ∉ visited) := by
        apply List.filter_congr
        intro other other_mem
        have differs : other ≠ name := fun same => listed (same ▸ other_mem)
        simp [differs]
      rw [unchanged]
      exact Prod.Lex.right _ (by simp)

/-- All names that a name depends on, itself included. -/
def dependencies (document : Document) (start : String) : List String :=
  document.visitNames [] [start]

/-- Keep the textures that some of the root names depend on. -/
def keepDependencies (document : Document) (roots : List String) : Document :=
  let kept := roots.flatMap document.dependencies
  { document with textures := document.textures.filter (kept.contains ·.name) }

end Document

end TextureGraph
