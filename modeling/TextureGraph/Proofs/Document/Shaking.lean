import TextureGraph.Proofs.Document.Dependencies

/-!
# Keeping what is used, and again

The walk over what a name depends on finds the names that lead to it, whatever the document:
names may be given twice, inputs may name no texture, and textures may feed themselves. What is
kept of a document brings along all that it depends on, so it depends on the same names as
before. Keeping less of it is therefore the same as keeping less of the document.
-/

namespace TextureGraph.Document

/-- A name depends on itself, on what feeds the texture that counts for it, and on what that
depends on. -/
def DependsOn (document : Document) : String → String → Prop :=
  Relation.ReflTransGen fun name source => source ∈ document.sourcesOf name

variable {document : Document} {start name : String} {roots : List String}

/-- A walk that has ended has visited just the names that its start depends on. -/
theorem mem_iff_dependsOn_of_run {visited : List String}
    (run : Relation.ReflTransGen document.Round ⟨[], [start]⟩ ⟨visited, []⟩) :
    name ∈ visited ↔ document.DependsOn start name := by
  obtain ⟨start_mem, sourcesOf_subset, inside⟩ := (Exploring.begin document start).run run
  simp only [List.append_nil] at start_mem sourcesOf_subset inside
  constructor
  · refine inside {name | document.DependsOn start name} .refl ?_ name
    intro other depends source feeds
    exact depends.tail feeds
  · intro depends
    induction depends with
    | refl => exact start_mem
    | tail _ feeds ih => exact sourcesOf_subset _ ih feeds

theorem mem_dependencies_iff : name ∈ document.dependencies start ↔ document.DependsOn start name :=
  mem_iff_dependsOn_of_run (reaches_visitNames document [] [start])

instance (document : Document) (start name : String) :
    Decidable (document.DependsOn start name) :=
  decidable_of_iff _ mem_dependencies_iff

/-- Names that some of the roots depend on. -/
def Used (document : Document) (roots : List String) (name : String) : Prop :=
  ∃ root ∈ roots, document.DependsOn root name

theorem mem_flatMap_dependencies_iff :
    name ∈ roots.flatMap document.dependencies ↔ document.Used roots name := by
  rw [List.mem_flatMap]
  exact exists_congr fun root => and_congr_right fun _ => mem_dependencies_iff

instance (document : Document) (roots : List String) (name : String) :
    Decidable (document.Used roots name) :=
  decidable_of_iff _ mem_flatMap_dependencies_iff

theorem Used.of_mem (member : name ∈ roots) : document.Used roots name :=
  ⟨name, member, .refl⟩

theorem Used.trans {source : String} (used : document.Used roots name)
    (depends : document.DependsOn name source) : document.Used roots source := by
  rcases used with ⟨root, root_mem, path⟩
  exact ⟨root, root_mem, path.trans depends⟩

/-! ## What is kept -/

/-- The textures that are kept are those with names that are used. -/
theorem textures_keepDependencies (document : Document) (roots : List String) :
    (document.keepDependencies roots).textures =
      document.textures.filter fun entry => document.Used roots entry.name := by
  refine List.filter_congr fun entry _ => ?_
  rw [Bool.eq_iff_iff, List.contains_iff_mem, decide_eq_true_iff]
  exact mem_flatMap_dependencies_iff

/-- All textures of a name are kept together, and so the same one of them counts. -/
theorem texture?_keepDependencies (used : document.Used roots name) :
    (document.keepDependencies roots).texture? name = document.texture? name := by
  rw [texture?, textures_keepDependencies, ← List.filter_reverse, List.find?_filter, texture?]
  congr 1
  funext entry
  by_cases same : entry.name = name
  · simp [same, used]
  · simp [same]

theorem sourcesOf_keepDependencies (used : document.Used roots name) :
    (document.keepDependencies roots).sourcesOf name = document.sourcesOf name := by
  rw [sourcesOf, texture?_keepDependencies used, sourcesOf]

/-- Names that are used depend on as much as before. -/
theorem dependsOn_keepDependencies_iff (used : document.Used roots start) :
    (document.keepDependencies roots).DependsOn start name ↔ document.DependsOn start name := by
  constructor
  · intro depends
    induction depends with
    | refl => exact .refl
    | tail _ feeds ih =>
        rw [sourcesOf_keepDependencies (used.trans ih)] at feeds
        exact ih.tail feeds
  · intro depends
    induction depends with
    | refl => exact .refl
    | tail path feeds ih =>
        rw [← sourcesOf_keepDependencies (used.trans path)] at feeds
        exact ih.tail feeds

theorem used_keepDependencies_iff {inner : List String}
    (used : ∀ root ∈ inner, document.Used roots root) :
    (document.keepDependencies roots).Used inner name ↔ document.Used inner name :=
  exists_congr fun root => and_congr_right fun member =>
    dependsOn_keepDependencies_iff (used root member)

/-! ## Keeping twice -/

/-- What is kept for names that are used is what is kept for them at once. -/
theorem keepDependencies_of_used {inner : List String}
    (used : ∀ root ∈ inner, document.Used roots root) :
    (document.keepDependencies roots).keepDependencies inner =
      document.keepDependencies inner := by
  have textures_eq : ((document.keepDependencies roots).keepDependencies inner).textures =
      (document.keepDependencies inner).textures := by
    rw [textures_keepDependencies, textures_keepDependencies, textures_keepDependencies,
      List.filter_filter]
    refine List.filter_congr fun entry _ => ?_
    rw [Bool.eq_iff_iff, Bool.and_eq_true, decide_eq_true_iff, decide_eq_true_iff,
      decide_eq_true_iff, used_keepDependencies_iff used]
    refine and_iff_left_of_imp ?_
    rintro ⟨root, root_mem, depends⟩
    exact (used root root_mem).trans depends
  exact congrArg (fun textures => { document with textures }) textures_eq

/-- What is kept for some names, and of that what is kept for names that they depend on, is what
is kept for the latter at once. So keeping it again changes nothing. Kept are the textures with
names that are used, unchanged and in the order of the document, and everything else in it. -/
theorem keepDependencies_compose (document : Document) :
    (∀ roots inner : List String,
      (∀ name ∈ inner, ∃ root ∈ roots, name ∈ document.dependencies root) →
      (document.keepDependencies roots).keepDependencies inner =
        document.keepDependencies inner) ∧
    (∀ roots, (document.keepDependencies roots).keepDependencies roots =
      document.keepDependencies roots) ∧
    ∀ roots,
      (document.keepDependencies roots).textures =
        document.textures.filter (fun entry => document.Used roots entry.name) ∧
      (document.keepDependencies roots).version = document.version ∧
      (document.keepDependencies roots).settings = document.settings ∧
      (document.keepDependencies roots).images = document.images := by
  refine ⟨fun roots inner reached => ?_, fun roots => ?_, fun roots => ?_⟩
  · apply keepDependencies_of_used
    intro name member
    rcases reached name member with ⟨root, root_mem, found⟩
    exact ⟨root, root_mem, mem_dependencies_iff.mp found⟩
  · exact keepDependencies_of_used fun _ => Used.of_mem
  · exact ⟨textures_keepDependencies document roots, rfl, rfl, rfl⟩

/-- Two textures of one name, the second of which counts and is in a cycle; the first one is fed
by no texture. -/
def frayed : Document where
  version := "1"
  settings := .standard
  images := []
  textures := [
    ⟨"weft", "abs", .empty, .ofList [("texture", "thread")]⟩,
    ⟨"warp", "abs", .empty, .ofList [("texture", "weft")]⟩,
    ⟨"cloth", "abs", .empty, .ofList [("texture", "warp")]⟩,
    ⟨"weft", "abs", .empty, .ofList [("texture", "warp")]⟩]

/-- The cloth depends on the cycle, which is kept with both textures of one name. -/
theorem keepDependencies_compose_frayed :
    "weft" ∈ frayed.dependencies "cloth" ∧
      (frayed.keepDependencies ["cloth"]).keepDependencies ["weft"] =
        frayed.keepDependencies ["weft"] ∧
      (frayed.keepDependencies ["weft"]).names = ["weft", "warp", "weft"] := by
  have reached : "weft" ∈ frayed.dependencies "cloth" :=
    mem_dependencies_iff.mpr (.tail (.single (by decide : "warp" ∈ frayed.sourcesOf "cloth"))
      (by decide : "weft" ∈ frayed.sourcesOf "warp"))
  refine ⟨reached, ?_, ?_⟩
  · exact (keepDependencies_compose frayed).1 ["cloth"] ["weft"] (by simpa using reached)
  · simp [names, keepDependencies, dependencies, visitNames, sourcesOf, texture?,
      Dictionary.values, Dictionary.ofList, Dictionary.insert, Dictionary.empty, frayed]

end TextureGraph.Document
