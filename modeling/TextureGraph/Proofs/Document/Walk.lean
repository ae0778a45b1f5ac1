import Mathlib.Algebra.BigOperators.Group.Finset.Basic
import Mathlib.Order.Bounds.Defs
import TextureGraph.Document.Dependencies
import TextureGraph.Proofs.Document.Cycles

/-!
# The walk over what a name depends on

A walk takes one name after another off a stack and puts on it what feeds that name, in any
order. Each round uses up one of finitely many names that may ever be put there, so every walk
ends, round cycles and at names of no texture too. Whatever the order, it ends with the least
set of names that holds the start and all inputs of the textures in it.
-/

namespace TextureGraph

namespace Document

/-- Names that have been visited, and names that wait for it. -/
structure Walk where
  visited : List String
  stack : List String

/-- One round of a walk. What feeds a name is put on the stack in any order. -/
inductive Round (document : Document) : Walk → Walk → Prop where
  | seen {visited stack : List String} {name : String} (old : name ∈ visited) :
      Round document ⟨visited, name :: stack⟩ ⟨visited, stack⟩
  | fresh {visited stack sources : List String} {name : String} (new : name ∉ visited)
      (perm : sources.Perm (document.sourcesOf name)) :
      Round document ⟨visited, name :: stack⟩ ⟨name :: visited, sources ++ stack⟩

/-- With the name of a texture, a set holds the names of its inputs. -/
def InputClosed (document : Document) (names : Set String) : Prop :=
  ∀ entry ∈ document.textures, entry.name ∈ names → ∀ source ∈ entry.inputs.values, source ∈ names

variable {document : Document} {start : String} {walk next : Walk}

/-! ## What feeds a name -/

theorem texture?_of_mem (nodup : document.names.Nodup) {entry : TextureEntry}
    (member : entry ∈ document.textures) : document.texture? entry.name = some entry := by
  rw [texture?]
  cases found : document.textures.reverse.find? (·.name == entry.name) with
  | none =>
      have missing := List.find?_eq_none.mp found entry (List.mem_reverse.mpr member)
      exact absurd (beq_self_eq_true _) missing
  | some other =>
      have otherMember := List.mem_reverse.mp (List.mem_of_find?_eq_some found)
      have same_name : other.name = entry.name := by
        simpa using List.find?_some found
      rw [List.inj_on_of_nodup_map nodup otherMember member same_name]

theorem sourcesOf_eq_values (nodup : document.names.Nodup) {entry : TextureEntry}
    (member : entry ∈ document.textures) : document.sourcesOf entry.name = entry.inputs.values := by
  rw [sourcesOf, texture?_of_mem nodup member]

theorem mem_sourcesOf_iff (nodup : document.names.Nodup) {source name : String} :
    source ∈ document.sourcesOf name ↔ document.Feeds source name := by
  constructor
  · intro feeds
    by_cases listed : name ∈ document.names
    · rcases List.mem_map.mp listed with ⟨entry, member, rfl⟩
      rw [sourcesOf_eq_values nodup member] at feeds
      exact ⟨entry, member, rfl, feeds⟩
    · rw [sourcesOf_eq_nil listed] at feeds
      cases feeds
  · rintro ⟨entry, member, rfl, given⟩
    rwa [sourcesOf_eq_values nodup member]

/-! ## Walks end -/

/-- Number of names that may still be taken off the stack: those that wait there, and those
that feed a texture which is not visited. -/
def pending (document : Document) (walk : Walk) : Nat :=
  walk.stack.length +
    ∑ name ∈ document.names.toFinset \ walk.visited.toFinset, (document.sourcesOf name).length

/-- What feeds a name that is visited now is no longer to come. -/
theorem sum_sources_eq_add {visited : List String} {name : String} (new : name ∉ visited) :
    ∑ other ∈ document.names.toFinset \ visited.toFinset, (document.sourcesOf other).length =
      (document.sourcesOf name).length +
        ∑ other ∈ document.names.toFinset \ (name :: visited).toFinset,
          (document.sourcesOf other).length := by
  rw [List.toFinset_cons, Finset.sdiff_insert]
  by_cases listed : name ∈ document.names
  · have unvisited : name ∈ document.names.toFinset \ visited.toFinset := by
      simp [listed, new]
    exact (Finset.add_sum_erase _ _ unvisited).symm
  · have absent : name ∉ document.names.toFinset \ visited.toFinset := by
      simp [listed]
    rw [Finset.erase_eq_of_notMem absent, sourcesOf_eq_nil listed, List.length_nil, Nat.zero_add]

/-- Each round takes one name for good. -/
theorem Round.pending_eq (round : document.Round walk next) :
    document.pending next + 1 = document.pending walk := by
  cases round with
  | seen old =>
      simp only [pending, List.length_cons]
      omega
  | @fresh visited stack sources name new perm =>
      simp only [pending, List.length_append, List.length_cons, perm.length_eq,
        sum_sources_eq_add new]
      omega

/-- No walk goes on for ever. -/
theorem wellFounded_round (document : Document) :
    WellFounded fun later earlier => document.Round earlier later := by
  apply Subrelation.wf (r := InvImage (· < ·) document.pending) _ (InvImage.wf _ Nat.lt_wfRel.wf)
  intro later earlier round
  have used := round.pending_eq
  change document.pending later < document.pending earlier
  omega

/-- A walk stops only when no name waits. -/
theorem exists_round (waiting : walk.stack ≠ []) : ∃ next, document.Round walk next := by
  rcases walk with ⟨visited, _ | ⟨name, stack⟩⟩
  · exact absurd rfl waiting
  · by_cases old : name ∈ visited
    · exact ⟨_, .seen old⟩
    · exact ⟨_, .fresh old (List.Perm.refl _)⟩

/-- The names that are visited are those of a walk that has ended. -/
theorem reaches_visitNames (document : Document) (visited stack : List String) :
    Relation.ReflTransGen document.Round ⟨visited, stack⟩
      ⟨document.visitNames visited stack, []⟩ := by
  fun_induction visitNames document visited stack with
  | case1 visited => exact .refl
  | case2 visited name stack old ih => exact .head (.seen old) ih
  | case3 visited name stack new ih => exact .head (.fresh new (List.Perm.refl _)) ih

/-! ## Walks visit the least closed set -/

/-- What holds all along a walk. -/
structure Exploring (document : Document) (start : String) (walk : Walk) : Prop where
  start_mem : start ∈ walk.visited ++ walk.stack
  sourcesOf_subset : ∀ name ∈ walk.visited, document.sourcesOf name ⊆ walk.visited ++ walk.stack
  /-- Names stay inside every set that holds the start and, with a name, all that feeds it. -/
  inside : ∀ names : Set String, start ∈ names →
    (∀ name ∈ names, ∀ source ∈ document.sourcesOf name, source ∈ names) →
    ∀ name ∈ walk.visited ++ walk.stack, name ∈ names

namespace Exploring

theorem begin (document : Document) (start : String) : document.Exploring start ⟨[], [start]⟩ where
  start_mem := List.mem_singleton_self start
  sourcesOf_subset := nofun
  inside names holds _ name member := by
    rw [List.nil_append, List.mem_singleton] at member
    exact member ▸ holds

theorem round (exploring : document.Exploring start walk) (round : document.Round walk next) :
    document.Exploring start next := by
  obtain ⟨start_mem, sourcesOf_subset, inside⟩ := exploring
  cases round with
  | @seen visited stack name old =>
      -- The name that is dropped is among those visited.
      have kept : visited ++ name :: stack ⊆ visited ++ stack := by
        intro other member
        rcases List.mem_append.mp member with before | waiting
        · exact List.mem_append_left _ before
        · rcases List.mem_cons.mp waiting with rfl | later
          · exact List.mem_append_left _ old
          · exact List.mem_append_right _ later
      constructor
      · exact kept start_mem
      · exact fun other member => List.Subset.trans (sourcesOf_subset other member) kept
      · intro names holds closed other member
        apply inside names holds closed
        simp only [List.mem_append, List.mem_cons] at member ⊢
        tauto
  | @fresh visited stack sources name new perm =>
      have kept : visited ++ name :: stack ⊆ (name :: visited) ++ (sources ++ stack) := by
        intro other member
        simp only [List.mem_append, List.mem_cons] at member ⊢
        tauto
      constructor
      · exact kept start_mem
      · intro other member source feeds
        rcases List.mem_cons.mp member with rfl | before
        · exact List.mem_append_right _ (List.mem_append_left _ (perm.mem_iff.mpr feeds))
        · exact kept (sourcesOf_subset other before feeds)
      · intro names holds closed other member
        have name_mem : name ∈ names := inside names holds closed name (by simp)
        simp only [List.mem_append, List.mem_cons] at member
        rcases member with (rfl | before) | feeds | later
        · exact name_mem
        · exact inside names holds closed other (by simp [before])
        · exact closed name name_mem other (perm.mem_iff.mp feeds)
        · exact inside names holds closed other (by simp [later])

theorem run (exploring : document.Exploring start walk)
    (run : Relation.ReflTransGen document.Round walk next) : document.Exploring start next := by
  induction run with
  | refl => exact exploring
  | tail _ last ih => exact ih.round last

end Exploring

/-- A walk that has ended has visited the least set of names that holds its start and all inputs
of the textures in it. -/
theorem isLeast_of_run (nodup : document.names.Nodup) {visited : List String}
    (run : Relation.ReflTransGen document.Round ⟨[], [start]⟩ ⟨visited, []⟩) :
    IsLeast {names : Set String | start ∈ names ∧ document.InputClosed names}
      {name | name ∈ visited} := by
  obtain ⟨start_mem, sourcesOf_subset, inside⟩ := (Exploring.begin document start).run run
  simp only [List.append_nil] at start_mem sourcesOf_subset inside
  constructor
  · apply And.intro start_mem
    intro entry member entryVisited source given
    apply sourcesOf_subset entry.name entryVisited
    rwa [sourcesOf_eq_values nodup member]
  · rintro names ⟨holds, closed⟩ name member
    apply inside names holds _ name member
    intro other other_mem source feeds
    rcases (mem_sourcesOf_iff nodup).mp feeds with ⟨entry, listed, rfl, given⟩
    exact closed entry listed other_mem source given

/-- The names that a name depends on are found by a walk, and every walk from there ends and
finds the same ones: the least set that holds the name, be it that of a texture or not, and with
the name of a texture those of its inputs. Textures may feed themselves, and inputs may name no
texture. -/
theorem dependencies_isLeast (nodup : document.names.Nodup) (start : String) :
    WellFounded (fun later earlier => document.Round earlier later) ∧
    (∀ walk : Walk, walk.stack ≠ [] → ∃ next, document.Round walk next) ∧
    (∀ visited, Relation.ReflTransGen document.Round ⟨[], [start]⟩ ⟨visited, []⟩ →
      IsLeast {names : Set String | start ∈ names ∧ document.InputClosed names}
        {name | name ∈ visited}) ∧
    Relation.ReflTransGen document.Round ⟨[], [start]⟩ ⟨document.dependencies start, []⟩ ∧
    IsLeast {names : Set String | start ∈ names ∧ document.InputClosed names}
      {name | name ∈ document.dependencies start} := by
  have run := reaches_visitNames document [] [start]
  refine ⟨document.wellFounded_round, ?_, ?_, run, isLeast_of_run nodup run⟩
  · intro walk waiting
    exact exists_round waiting
  · intro visited ended
    exact isLeast_of_run nodup ended

/-- Two textures that feed each other, one of them fed by no texture too, and one that hangs on
them. -/
def tangled : Document where
  version := "1"
  settings := .standard
  images := []
  textures := [
    ⟨"warp", "add", .empty, .ofList [("texture1", "weft"), ("texture2", "thread")]⟩,
    ⟨"weft", "abs", .empty, .ofList [("texture", "warp")]⟩,
    ⟨"cloth", "abs", .empty, .ofList [("texture", "weft")]⟩]

theorem dependencies_isLeast_tangled :
    tangled.names.Nodup ∧ "thread" ∉ tangled.names ∧
      IsLeast {names : Set String | "warp" ∈ names ∧ tangled.InputClosed names}
        {name | name ∈ tangled.dependencies "warp"} ∧
      "thread" ∈ tangled.dependencies "warp" ∧ "cloth" ∉ tangled.dependencies "warp" := by
  have nodup : tangled.names.Nodup := by decide
  obtain ⟨_, _, _, _, least⟩ := dependencies_isLeast nodup "warp"
  obtain ⟨start_mem, closed⟩ := least.1
  have thread_mem : "thread" ∈ tangled.dependencies "warp" :=
    closed tangled.textures[0] (by simp [tangled]) start_mem "thread" (by decide)
  have unused : ∀ entry ∈ tangled.textures, ∀ source ∈ entry.inputs.values, source ≠ "cloth" := by
    decide
  have smaller : tangled.InputClosed {name | name ≠ "cloth"} :=
    fun entry member _ source given => unused entry member source given
  have cloth_not_mem : "cloth" ∉ tangled.dependencies "warp" := fun member =>
    least.2 ⟨by decide, smaller⟩ member rfl
  exact ⟨nodup, by decide, least, thread_mem, cloth_not_mem⟩

end Document

end TextureGraph
