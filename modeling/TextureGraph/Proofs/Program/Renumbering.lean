import TextureGraph.Proofs.Program.Layout
import TextureGraph.Proofs.Table.Relocation

/-!
# Code of nodes that stand elsewhere

Instructions name the nodes they are for by their positions. Where nodes stand at other
positions, their code names them there and is otherwise the same: as many instructions, in
the same order, with the same need of stack slots.
-/

namespace TextureGraph

open Outcome

/-- An instruction for a node that stands elsewhere. -/
def Instruction.renumber (move : NodeId → NodeId) (instruction : Instruction) : Instruction :=
  ⟨move instruction.node, instruction.op⟩

namespace Code

variable {move : NodeId → NodeId} {id : NodeId} {kind : EvalKind}

/-- Code for nodes that stand elsewhere. -/
def renumber (move : NodeId → NodeId) (code : Code) : Code :=
  ⟨code.instructions.map (·.renumber move), code.depth⟩

theorem renumber_leaf : (leaf id kind).renumber move = leaf (move id) kind := rfl

theorem renumber_combinator (inputs : List Code) :
    (combinator id kind inputs).renumber move =
      combinator (move id) kind (inputs.map (·.renumber move)) := by
  simp [renumber, combinator, List.map_flatMap, List.flatMap_map, Instruction.renumber,
    Function.comp_def]

theorem renumber_genericBump (sample : Code) :
    (genericBump id sample).renumber move = genericBump (move id) (sample.renumber move) := by
  simp [renumber, genericBump, Instruction.renumber, List.map_dropLast]

theorem renumber_triplanar (c0 c1 c2 : Code) :
    (triplanar id kind c0 c1 c2).renumber move =
      triplanar (move id) kind (c0.renumber move) (c1.renumber move) (c2.renumber move) := by
  simp [renumber, triplanar, Instruction.renumber]

theorem renumber_distort (offset moved : Code) :
    (distort id kind offset moved).renumber move =
      distort (move id) kind (offset.renumber move) (moved.renumber move) := by
  simp [renumber, distort, Instruction.renumber]

/-- The first code names nodes where they stand, the second one where they have moved to. -/
def Moved (move : NodeId → NodeId) (code moved : Code) : Prop :=
  code.renumber move = moved

theorem map_eq_of_forall₂_moved {codes moved : List Code}
    (each : List.Forall₂ (Moved move) codes moved) : codes.map (·.renumber move) = moved := by
  rw [Outcome.map_eq_map_of_forall₂ each, List.map_id']

/-- Code by a rule is the same where the code of the inputs is. -/
theorem agree_ofRule (id : NodeId) (kind : EvalKind) (rule : Rule)
    {input inputMoved : Nat → EvalKind → Except CompileError Code}
    {sample sampleMoved : Except CompileError Code}
    (inputs : ∀ slot inputKind,
      Agree (Moved move) (input slot inputKind) (inputMoved slot inputKind))
    (samples : Agree (Moved move) sample sampleMoved) :
    Agree (Moved move) (ofRule id kind rule input sample)
      (ofRule (move id) kind rule inputMoved sampleMoved) := by
  cases rule with
  | leaf => exact .ok renumber_leaf
  | combinator children =>
      refine (Agree.mapM children fun child _ => inputs _ _).bind ?_
      intro codes moved each
      rw [← map_eq_of_forall₂_moved each]
      exact .ok (renumber_combinator codes)
  | genericBump =>
      refine samples.bind ?_
      rintro code _ rfl
      exact .ok (renumber_genericBump code)
  | triplanar mapping =>
      refine (inputs 0 .spectrum).bind ?_
      rintro c0 _ rfl
      refine (inputs 1 .spectrum).bind ?_
      rintro c1 _ rfl
      refine (inputs 2 .spectrum).bind ?_
      rintro c2 _ rfl
      exact .ok (renumber_triplanar c0 c1 c2)
  | distort strength =>
      refine (inputs 1 .spectrum).bind ?_
      rintro offset _ rfl
      refine (inputs 0 kind).bind ?_
      rintro moved _ rfl
      exact .ok (renumber_distort offset moved)

end Code

namespace Table.Relocation

open CompileError

variable {source target : Table} {inside : NodeId → Prop} {move : NodeId → NodeId}

/-- The code of a node wherever it stands. -/
theorem agree_nodeCode (relocation : source.Relocation target inside move) (limit budget : Nat)
    {id : NodeId} (holds : inside id) (kind : EvalKind) :
    Agree (Code.Moved move) (source.nodeCode limit budget id kind)
      (target.nodeCode limit budget (move id) kind) := by
  induction budget generalizing id kind with
  | zero => exact .error _ _
  | succ budget ih =>
      rcases relocation.found holds with ⟨node, found⟩
      rcases relocation.moved holds found with ⟨name, moved⟩
      rw [Table.nodeCode, Table.nodeCode, found, moved, demand_some, demand_some, ok_bind, ok_bind]
      refine Code.agree_ofRule id kind (node.kind.rule kind) ?_ (ih holds .float)
      intro slot inputKind
      rw [Node.relocate_child?]
      cases filled : node.child? slot with
      | none => exact .error _ _
      | some child =>
          exact ih (relocation.child holds found child (List.mem_of_getElem? filled)) inputKind

theorem agree_kindCodes (relocation : source.Relocation target inside move) (limit : Nat)
    {id : NodeId} (holds : inside id) (node : Node) (name : String) :
    Agree (fun codes moved => moved = codes.map (·.renumber move)) (source.kindCodes limit id node)
      (target.kindCodes limit (move id) (node.relocate name move)) := by
  have capacity : Agree (fun _ _ => True)
      ((node.kind.checkCapacity id).mapError CompileError.capacity)
      ((node.kind.checkCapacity (move id)).mapError CompileError.capacity) := by
    unfold TextureKind.checkCapacity
    split
    · split
      · exact .error _ _
      · exact .ok trivial
    · exact .ok trivial
  refine capacity.bind fun _ _ _ => ?_
  refine (relocation.agree_nodeCode limit (limit + 1) holds .float).bind ?_
  rintro float _ rfl
  refine (relocation.agree_nodeCode limit (limit + 1) holds .spectrum).bind ?_
  rintro spectrum _ rfl
  refine (relocation.agree_nodeCode limit (limit + 1) holds .bump).bind ?_
  rintro bump _ rfl
  exact .ok rfl

/-- Where a table compiles, so does one that it holds as a whole, to codes that name nodes
by other positions. -/
theorem exists_codes (relocation : source.Relocation target (· < source.size) move) {limit : Nat}
    {codes : List (PerKind Code)} (made : target.codes limit = .ok codes) :
    ∃ own, source.codes limit = .ok own ∧ ∀ id nodeCodes, own[id]? = some nodeCodes →
      codes[move id]? = some (nodeCodes.map (·.renumber move)) := by
  have each {id : NodeId} {node : Node} (found : source.node? id = some node) :
      ∃ nodeCodes, source.kindCodes limit id node = .ok nodeCodes ∧
        codes[move id]? = some (nodeCodes.map (·.renumber move)) := by
    have holds : id < source.size := (List.getElem?_eq_some_iff.mp found).1
    rcases relocation.moved holds found with ⟨name, moved⟩
    rcases Table.exists_getElem?_codes made moved with ⟨_, codesFound, codesMade⟩
    rcases (relocation.agree_kindCodes limit holds node name).exists_of_eq_ok codesMade with
      ⟨nodeCodes, ownMade, rfl⟩
    exact ⟨nodeCodes, ownMade, codesFound⟩
  obtain ⟨own, ownMade⟩ : ∃ own, source.codes limit = .ok own :=
    Table.exists_codes_eq_ok fun _ _ found => (each found).imp fun _ => And.left
  refine ⟨own, ownMade, ?_⟩
  intro id nodeCodes ownFound
  have holds : id < source.size :=
    Table.codes_length ownMade ▸ (List.getElem?_eq_some_iff.mp ownFound).1
  have found : source.node? id = some source.nodes[id] := List.getElem?_eq_getElem holds
  rcases each found with ⟨_, codesMade, codesFound⟩
  rcases Table.exists_getElem?_codes ownMade found with ⟨_, again, againMade⟩
  cases ownFound.symm.trans again
  cases codesMade.symm.trans againMade
  exact codesFound

/-- A table that is held as a whole by one that compiles has the same spans, apart from
where they start and by which positions they name the nodes. -/
theorem exists_compile (relocation : source.Relocation target (· < source.size) move)
    {config : Config} {program : Program} (compiled : target.compile config = .ok program) :
    ∃ own, source.compile config = .ok own ∧ ∀ id kind, id < source.size →
      ∃ code ownSpan span, own.Places id kind code ownSpan ∧
        program.Places (move id) kind (code.renumber move) span := by
  rcases Table.exists_codes_of_compile compiled with ⟨codes, made, rfl⟩
  rcases relocation.exists_codes made with ⟨own, ownMade, moved⟩
  refine ⟨.ofCodes config.bumpSampleDistance own, ?_, ?_⟩
  · rw [Table.compile_eq_map_codes, ownMade, map_ok]
  · intro id kind holds
    have found : source.node? id = some source.nodes[id] := List.getElem?_eq_getElem holds
    rcases Table.exists_getElem?_codes ownMade found with ⟨nodeCodes, ownFound, _⟩
    obtain ⟨ownSpan, ownPlaces⟩ := Program.ofCodes_places ownFound kind
    obtain ⟨span, places⟩ := Program.ofCodes_places (moved id _ ownFound) kind
    rw [PerKind.get_map] at places
    exact ⟨_, ownSpan, span, ownPlaces, places⟩

end Table.Relocation

end TextureGraph
