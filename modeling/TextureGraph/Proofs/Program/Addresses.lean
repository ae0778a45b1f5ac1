import TextureGraph.Proofs.Program.Composition
import TextureGraph.Proofs.Program.Locality

/-!
# The address table of a program

The spans of a program, node by node and kind by kind, lie back to back and cover its
instructions. Each of them ends with the instruction of its own node and names no node that
its own cannot reach, and the program reserves as many slots as the span that needs most.
-/

namespace TextureGraph

/-- One behind the other, the values of a node stand at a fixed distance from its position. -/
theorem PerKind.getElem?_flatMap_toList {α : Type} (values : List (PerKind α)) (id : Nat)
    (kind : EvalKind) :
    (values.flatMap toList)[3 * id + kind.index]? = (values[id]?).map (·.get kind) := by
  induction values generalizing id with
  | nil => rfl
  | cons first rest ih =>
      cases id with
      | zero => cases kind <;> rfl
      | succ id =>
          have behind :
              3 * (id + 1) + kind.index = first.toList.length + (3 * id + kind.index) := by
            change 3 * (id + 1) + kind.index = 3 + (3 * id + kind.index)
            omega
          rw [List.flatMap_cons, behind, List.getElem?_append_right (Nat.le_add_right _ _),
            Nat.add_sub_cancel_left, ih, List.getElem?_cons_succ]

/-- Three values for each node. -/
theorem PerKind.length_flatMap_toList {α : Type} (values : List (PerKind α)) :
    (values.flatMap toList).length = 3 * values.length := by
  induction values with
  | nil => rfl
  | cons first rest ih =>
      rw [List.flatMap_cons, List.length_append, ih, List.length_cons]
      change 3 + 3 * rest.length = 3 * (rest.length + 1)
      omega

/-! ## Spans back to back -/

/-- Spans that lie back to back from one position up to another. -/
def Span.Tiles : (start : Nat) → List Span → (stop : Nat) → Prop
  | start, [], stop => start = stop
  | start, span :: rest, stop => span.start = start ∧ Tiles span.stop rest stop

namespace Program

/-- The spans of codes that are laid out tile what their instructions take. -/
theorem tiles_layOut (start : Nat) (codes : List (PerKind Code)) :
    Span.Tiles start ((layOut start codes).flatMap PerKind.toList)
      (start + (codes.flatMap block).length) := by
  induction codes generalizing start with
  | nil => rfl
  | cons first rest ih =>
      have behind : (spansFrom start first).bump.stop = start + (block first).length := by
        simp only [spansFrom, Span.stop, block, PerKind.toList, List.flatMap_cons,
          List.flatMap_nil, List.length_append, List.length_nil]
        omega
      refine ⟨rfl, rfl, rfl, ?_⟩
      rw [behind, List.flatMap_cons, List.length_append, ← Nat.add_assoc]
      exact ih _

/-- Spans that tile a stretch of a program hold its instructions, in order. -/
theorem flatMap_slice_of_tiles (program : Program) {start stop : Nat} {spans : List Span}
    (tiles : Span.Tiles start spans stop) :
    spans.flatMap program.slice = (program.instructions.drop start).take (stop - start) ∧
      start ≤ stop := by
  induction spans generalizing start with
  | nil =>
      cases tiles
      simp
  | cons span rest ih =>
      rcases tiles with ⟨rfl, restTiles⟩
      rcases ih restTiles with ⟨held, inOrder⟩
      have split : stop - span.start = span.length + (stop - span.stop) := by
        rw [Span.stop] at inOrder ⊢
        omega
      constructor
      · rw [List.flatMap_cons, held, split, List.take_add, List.drop_drop, slice, Span.stop]
      · exact Nat.le_trans (Nat.le_add_right _ _) inOrder

/-- The greatest of some counts is one of them. -/
theorem foldl_max_mem {counts : List Nat} (nonempty : counts ≠ []) :
    counts.foldl max 0 ∈ counts := by
  rw [List.foldl_max_eq_max nonempty, Nat.zero_max]
  exact List.max_mem nonempty

/-- The slots that a program reserves are the most that any of its spans needs. -/
theorem ofCodes_maxStackDepth (distance : Binary32) (codes : List (PerKind Code)) :
    (ofCodes distance codes).maxStackDepth =
      ((ofCodes distance codes).spans.map Span.stackDepth).foldl max 0 :=
  congrArg (List.foldl max 0) (stackDepths_layOut 0 codes).symm

end Program

/-! ## Programs of tables -/

namespace Table

variable {table : Table} {config : Config} {program : Program} {id : NodeId} {kind : EvalKind}

/-- Code names only nodes that its own node reaches. -/
theorem reaches_of_nodeCode {limit budget : Nat} {code : Code}
    (made : table.nodeCode limit budget id kind = .ok code) :
    ∀ instruction ∈ code.instructions, table.Reaches id instruction.node := by
  refine forall_mem_instructions_of_nodeCode
    (fun id _ instruction => table.Reaches id instruction.node) ?_ ?_ made
  · intro id node kind op _ _
    exact .refl
  · intro id node kind input inputKind instruction found among _ reaches
    obtain rfl | isInput := among
    · exact reaches
    · exact .head ⟨node, found, isInput⟩ reaches

/-- What an address table says about one node under one kind of evaluation: a span, found at
the place of the node and the kind among all spans, whose instructions end with that of the
node and name only nodes that it reaches. -/
structure Addresses (table : Table) (program : Program) (id : NodeId) (kind : EvalKind)
    (span : Span) (before : List Instruction) : Prop where
  span?_eq : program.span? id kind = some span
  getElem?_spans : program.spans[3 * id + kind.index]? = some span
  code?_eq : program.code? id kind = some (before ++ [⟨id, .eval kind⟩])
  length_eq : span.length = before.length + 1
  reaches : ∀ instruction ∈ before ++ [⟨id, .eval kind⟩], table.Reaches id instruction.node
  width_le : kind.width ≤ span.stackDepth

theorem exists_addresses_of_compile (compiled : table.compile config = .ok program)
    (inside : id < table.size) (kind : EvalKind) :
    ∃ span before, table.Addresses program id kind span before := by
  have found : table.node? id = some table.nodes[id] := List.getElem?_eq_getElem inside
  rcases exists_places_of_compile compiled found kind with ⟨code, span, made, places⟩
  rcases part?_instructions_eq_append compiled found places.part?_eq with ⟨before, ends⟩
  have reaches := reaches_of_nodeCode made
  have code?_eq := places.code?_eq
  have length_eq := places.length_eq
  rw [ends] at reaches code?_eq length_eq
  refine ⟨span, before, places.span?_eq, ?_, code?_eq, ?_, reaches, ?_⟩
  · rw [Program.spans, PerKind.getElem?_flatMap_toList]
    exact places.span?_eq
  · rw [length_eq, List.length_append, List.length_singleton]
  · rw [places.stackDepth_eq]
    exact width_le_depth_of_nodeCode made

/-- A program has code for the nodes of its table and for nothing else. -/
theorem exists_code?_iff (compiled : table.compile config = .ok program) :
    (∃ instructions, program.code? id kind = some instructions) ↔ id < table.size := by
  constructor
  · rintro ⟨instructions, coded⟩
    by_contra outside
    have unspanned : program.span? id kind = none := by
      rw [Program.span?, List.getElem?_eq_none, Option.map_none]
      rw [← nodeCount_of_compile compiled] at outside
      exact Nat.not_lt.mp outside
    simp [Program.code?, unspanned] at coded
  · intro inside
    rcases exists_addresses_of_compile compiled inside kind with ⟨_, _, addresses⟩
    exact ⟨_, addresses.code?_eq⟩

/-- The address table of a program that is compiled. Its spans lie back to back from the first
instruction to the last, three for each node; those of a node end with its own instruction and
stay among the nodes that it reaches; and the program reserves what the neediest span needs. -/
theorem addresses_of_compile (compiled : table.compile config = .ok program) :
    Span.Tiles 0 program.spans program.instructions.length ∧
    program.spans.flatMap program.slice = program.instructions ∧
    program.nodeCount = table.size ∧ program.spans.length = 3 * program.nodeCount ∧
    (∀ id kind, id < program.nodeCount →
      ∃ span before, table.Addresses program id kind span before) ∧
    (∀ id kind, (∃ instructions, program.code? id kind = some instructions) ↔
      id < program.nodeCount) ∧
    (∀ span ∈ program.spans, span.stackDepth ≤ program.maxStackDepth) ∧
    (program.nodeCount = 0 → program.maxStackDepth = 0) ∧
    (0 < program.nodeCount → ∃ span ∈ program.spans, span.stackDepth = program.maxStackDepth) := by
  have count := nodeCount_of_compile compiled
  rw [count]
  rcases exists_codes_of_compile compiled with ⟨codes, _, laidOut⟩
  have tiles : Span.Tiles 0 program.spans program.instructions.length := by
    rw [laidOut, ← Nat.zero_add (List.length _)]
    exact Program.tiles_layOut 0 codes
  have held := (program.flatMap_slice_of_tiles tiles).1
  rw [List.drop_zero, Nat.sub_zero, List.take_length] at held
  have spanCount : program.spans.length = 3 * table.size := by
    rw [Program.spans, PerKind.length_flatMap_toList]
    exact congrArg (3 * ·) count
  have greatest : program.maxStackDepth = (program.spans.map Span.stackDepth).foldl max 0 := by
    rw [laidOut]
    exact Program.ofCodes_maxStackDepth _ codes
  refine ⟨tiles, held, rfl, spanCount, fun _ kind inside => ?_, fun _ _ => ?_, ?_, ?_, ?_⟩
  · exact exists_addresses_of_compile compiled inside kind
  · exact exists_code?_iff compiled
  · intro span member
    rw [greatest]
    exact Program.le_foldl_max_of_mem (List.mem_map_of_mem member)
  · intro empty
    rw [empty, Nat.mul_zero] at spanCount
    rw [greatest, List.length_eq_zero_iff.mp spanCount]
    rfl
  · intro nonempty
    have needed : program.spans.map Span.stackDepth ≠ [] := by
      rw [← List.length_pos_iff, List.length_map, spanCount]
      exact Nat.mul_pos (by decide) nonempty
    rw [greatest]
    exact List.mem_map.mp (Program.foldl_max_mem needed)

/-- Twelve spans cover the program of four nodes. The last one holds the bump of the
projection, and there is no code for a fifth node. -/
theorem addresses_of_compile_nested :
    ∃ program span before, nested.compile .standard = .ok program ∧
      Span.Tiles 0 program.spans program.instructions.length ∧ program.spans.length = 12 ∧
      program.spans[11]? = some span ∧
      program.code? 3 .bump = some (before ++ [⟨3, .eval .bump⟩]) ∧
      ¬ (∃ instructions, program.code? 4 .float = some instructions) ∧
      span.stackDepth ≤ program.maxStackDepth := by
  obtain ⟨program, compiled⟩ : ∃ program, nested.compile .standard = .ok program := ⟨_, rfl⟩
  obtain ⟨tiles, _, count, spanCount, addressed, coded, reserved, _⟩ :=
    addresses_of_compile compiled
  have four : program.nodeCount = 4 := count
  rw [four] at spanCount addressed coded
  obtain ⟨span, before, addresses⟩ := addressed 3 .bump (by decide)
  exact ⟨program, span, before, compiled, tiles, spanCount, addresses.getElem?_spans,
    addresses.code?_eq, fun beyond => absurd ((coded 4 .float).mp beyond) (by decide),
    reserved span (List.mem_of_getElem? addresses.getElem?_spans)⟩

end Table

end TextureGraph
