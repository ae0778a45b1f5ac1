import TextureGraph.Proofs.Document.Part
import TextureGraph.Proofs.Document.Walk
import TextureGraph.Proofs.Program.Composition

/-!
# Documents that keep what is used

A document that keeps only what some textures depend on is part of the document, so nothing
that it keeps has changed.
-/

namespace TextureGraph.Document

open Machine

variable {document : Document}

/-- Names that bring along all that feeds their textures. -/
def SourceClosed (document : Document) (names : List String) : Prop :=
  ∀ name ∈ names, document.sourcesOf name ⊆ names

theorem sourceClosed_dependencies (start : String) :
    document.SourceClosed (document.dependencies start) := by
  have run := reaches_visitNames document [] [start]
  have closed := ((Exploring.begin document start).run run).sourcesOf_subset
  simp only [List.append_nil] at closed
  exact closed

/-- What is kept of a document is part of it. -/
theorem Orderable.part_keepDependencies (orderable : document.Orderable) (roots : List String) :
    (document.keepDependencies roots).Part document id where
  settings_eq := rfl
  images_eq := rfl
  names_nodup := orderable.names_nodup.sublist (List.filter_sublist.map _)
  rename_mem entry member := by
    have same : entry.rename id = entry := TextureEntry.rename_eq_self fun _ _ => rfl
    rw [same]
    exact (List.mem_filter.mp member).1
  sourcesKnown entry member source feeds := by
    rcases List.mem_filter.mp member with ⟨entryMember, kept⟩
    rw [List.contains_iff_mem, List.mem_flatMap] at kept
    rcases kept with ⟨root, root_mem, depends⟩
    have sources_eq := sourcesOf_eq_values orderable.names_nodup entryMember
    have sourceKept := sourceClosed_dependencies root _ depends (sources_eq ▸ feeds)
    rcases List.mem_map.mp (orderable.sourcesKnown entry entryMember source feeds) with
      ⟨feeder, feederMember, rfl⟩
    refine List.mem_map_of_mem (List.mem_filter.mpr ⟨feederMember, ?_⟩)
    rw [List.contains_iff_mem]
    exact List.mem_flatMap.mpr ⟨root, root_mem, sourceKept⟩

/-- A document that compiles also compiles without the textures that none of some roots
depends on. Nodes of the same names may then stand at other positions. But for these
positions each texture that is kept has the same code, which needs as much of a stack, and
it has the same values, whether it is evaluated or run. -/
theorem compile_keepDependencies {table : Table} {program : Program}
    (compiled : document.compile = .ok (table, program)) (roots : List String) :
    ∃ kept keptProgram move,
      (document.keepDependencies roots).compile = .ok (kept, keptProgram) ∧
      (∀ name id, kept.find? name = some id → table.find? name = some (move id)) ∧
      ∀ entry ∈ (document.keepDependencies roots).textures,
        ∃ id, kept.find? entry.name = some id ∧
          ∀ kind, ∃ keptSpan span code,
            keptProgram.span? id kind = some keptSpan ∧
            program.span? (move id) kind = some span ∧
            span.stackDepth = keptSpan.stackDepth ∧
            keptProgram.code? id kind = some code ∧
            program.code? (move id) kind = some (code.map (·.renumber move)) ∧
            ∀ hit, ∃ value, Answers document.settings keptProgram kept id kind hit value ∧
              Answers document.settings program table (move id) kind hit value := by
  have lowered := (compile_eq_ok_iff.mp compiled).1
  have isPart := (lowerable_of_lower lowered).orderable.part_keepDependencies roots
  rcases isPart.exists_compile compiled with
    ⟨kept, keptProgram, move, keptCompiled, located, answers⟩
  refine ⟨kept, keptProgram, move, keptCompiled, located, fun entry member => ?_⟩
  rcases answers entry member with ⟨id, found, answers⟩
  refine ⟨id, found, fun kind => ?_⟩
  rcases answers kind with ⟨code, keptSpan, span, keptPlaces, places, values⟩
  refine ⟨keptSpan, span, code.instructions, keptPlaces.span?_eq, places.span?_eq, ?_,
    keptPlaces.code?_eq, places.code?_eq, values⟩
  rw [places.stackDepth_eq, keptPlaces.stackDepth_eq, Code.renumber]

/-- One of the roots is no texture at all. -/
theorem compile_keepDependencies_doubled :
    ∃ table program kept keptProgram id keptId,
      doubled.compile = .ok (table, program) ∧
      (doubled.keepDependencies ["sum", "ghost"]).compile = .ok (kept, keptProgram) ∧
      table.find? "sum" = some id ∧ kept.find? "sum" = some keptId ∧
      ∀ hit, ∃ value, Answers .standard keptProgram kept keptId .bump hit value ∧
        Answers .standard program table id .bump hit value := by
  rcases exists_compile_doubled with ⟨table, program, compiled⟩
  obtain ⟨kept, keptProgram, move, keptCompiled, located, answers⟩ :=
    compile_keepDependencies compiled ["sum", "ghost"]
  have sum_mem : doubled.textures[2] ∈ (doubled.keepDependencies ["sum", "ghost"]).textures := by
    simp [keepDependencies, dependencies, visitNames, sourcesOf, texture?, Dictionary.values,
      Dictionary.ofList, Dictionary.insert, Dictionary.empty, doubled]
  rcases answers _ sum_mem with ⟨id, found, answers⟩
  obtain ⟨_, _, _, _, _, _, _, _, values⟩ := answers .bump
  exact ⟨table, program, kept, keptProgram, move id, id, compiled, keptCompiled,
    located _ _ found, found, values⟩

end TextureGraph.Document
