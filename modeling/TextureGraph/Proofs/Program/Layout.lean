import TextureGraph.Proofs.Program.Emission

/-!
# Layout of programs

A program is the codes of all nodes back to back, node by node and kind by kind. Its
address table says where each code starts, how long it is and how many slots it
needs, so that a span read off the table holds exactly the code of its node.
-/

namespace TextureGraph

namespace Table

/-- Codes of a node under all kinds of evaluation. -/
def kindCodes (table : Table) (limit : Nat) (id : NodeId) (node : Node) :
    Except CompileError (PerKind Code) := do
  (node.kind.checkCapacity id).mapError CompileError.capacity
  let float ← table.nodeCode limit (limit + 1) id .float
  let spectrum ← table.nodeCode limit (limit + 1) id .spectrum
  let bump ← table.nodeCode limit (limit + 1) id .bump
  return ⟨float, spectrum, bump⟩

/-- Codes of all nodes, in order. -/
def codes (table : Table) (limit : Nat) : Except CompileError (List (PerKind Code)) :=
  table.nodes.zipIdx.mapM fun (node, id) => table.kindCodes limit id node

end Table

namespace Program

/-- Instructions of one node under all kinds of evaluation. -/
def block (codes : PerKind Code) : List Instruction :=
  codes.toList.flatMap Code.instructions

/-- Spans of one node whose instructions start at a position. -/
def spansFrom (start : Nat) (codes : PerKind Code) : PerKind Span :=
  let afterFloat := start + codes.float.instructions.length
  let afterSpectrum := afterFloat + codes.spectrum.instructions.length
  ⟨⟨start, codes.float.instructions.length, codes.float.depth⟩,
   ⟨afterFloat, codes.spectrum.instructions.length, codes.spectrum.depth⟩,
   ⟨afterSpectrum, codes.bump.instructions.length, codes.bump.depth⟩⟩

/-- Spans of nodes that lie back to back from a position on. -/
def layOut (start : Nat) : List (PerKind Code) → List (PerKind Span)
  | [] => []
  | codes :: rest => spansFrom start codes :: layOut (start + (block codes).length) rest

/-- Program of the codes of all nodes. -/
def ofCodes (distance : Binary32) (codes : List (PerKind Code)) : Program where
  instructions := codes.flatMap block
  nodeSpans := layOut 0 codes
  maxStackDepth := ((codes.flatMap PerKind.toList).map Code.depth).foldl max 0
  bumpSampleDistance := distance

end Program

/-! ## The generator lays codes out -/

namespace Table

variable (table : Table) (limit : Nat)

theorem run_emitSpan (id : NodeId) (kind : EvalKind) (emitted : Array Instruction) :
    (table.emitSpan limit id kind).run emitted =
      (table.nodeCode limit (limit + 1) id kind).map fun code =>
        (⟨emitted.size, code.instructions.length, code.depth⟩,
          emitted ++ code.instructions.toArray) := by
  simp only [emitSpan, StateT.run_bind, StateT.run_get, Outcome.pure_eq_ok, Outcome.ok_bind,
    emitNode_appends table limit (limit + 1) id kind emitted]
  cases table.nodeCode limit (limit + 1) id kind with
  | error e => rfl
  | ok code => simp

theorem run_emitSpans (id : NodeId) (node : Node) (emitted : Array Instruction) :
    (table.emitSpans limit id node).run emitted =
      (table.kindCodes limit id node).map fun codes =>
        (Program.spansFrom emitted.size codes, emitted ++ (Program.block codes).toArray) := by
  rw [emitSpans, kindCodes]
  cases (node.kind.checkCapacity id).mapError CompileError.capacity with
  | error e => rfl
  | ok =>
      simp only [liftM, monadLift, MonadLift.monadLift, StateT.run_bind, StateT.run_lift,
        StateT.run_pure, run_emitSpan, Outcome.pure_eq_ok, Outcome.ok_bind]
      cases table.nodeCode limit (limit + 1) id .float with
      | error e => rfl
      | ok float =>
          cases table.nodeCode limit (limit + 1) id .spectrum with
          | error e => rfl
          | ok spectrum =>
              cases table.nodeCode limit (limit + 1) id .bump with
              | error e => rfl
              | ok bump => simp [Program.spansFrom, Program.block, PerKind.toList]

/-- The spans and the instructions of several nodes, emitted one behind the other. -/
theorem run_mapM_emitSpans (nodes : List (Node × NodeId)) (emitted : Array Instruction) :
    (nodes.mapM fun (node, id) => table.emitSpans limit id node).run emitted =
      (nodes.mapM fun (node, id) => table.kindCodes limit id node).map fun codes =>
        (Program.layOut emitted.size codes, emitted ++ (codes.flatMap Program.block).toArray) := by
  induction nodes generalizing emitted with
  | nil => simp [Program.layOut]
  | cons head rest ih =>
      simp only [List.mapM_cons, StateT.run_bind, run_emitSpans]
      cases table.kindCodes limit head.2 head.1 with
      | error e => rfl
      | ok codes =>
          simp only [Outcome.map_ok, Outcome.ok_bind, ih]
          cases rest.mapM fun (node, id) => table.kindCodes limit id node with
          | error e => rfl
          | ok others => simp [Program.layOut]

end Table

namespace Program

/-- An address table lists the slots that each code needs. -/
theorem stackDepths_layOut (start : Nat) (codes : List (PerKind Code)) :
    ((layOut start codes).flatMap PerKind.toList).map Span.stackDepth =
      (codes.flatMap PerKind.toList).map Code.depth := by
  induction codes generalizing start with
  | nil => rfl
  | cons codes rest ih => simp [layOut, spansFrom, PerKind.toList, ih]

end Program

/-- Compiling a table lays out the codes of its nodes. -/
theorem Table.compile_eq_map_codes (table : Table) (config : Config) :
    table.compile config =
      (table.codes config.maxCompileDepth).map (Program.ofCodes config.bumpSampleDistance) := by
  simp only [compile, emitAll, codes, run_mapM_emitSpans]
  cases table.nodes.zipIdx.mapM fun (node, id) =>
    table.kindCodes config.maxCompileDepth id node with
  | error e => rfl
  | ok codes =>
      simp [Program.ofCodes, Program.stackDepths_layOut]

/-! ## Where a code lies -/

namespace Program

theorem layOut_length (start : Nat) (codes : List (PerKind Code)) :
    (layOut start codes).length = codes.length := by
  induction codes generalizing start with
  | nil => rfl
  | cons codes rest ih => simp [layOut, ih]

/-- The spans of a node start behind the instructions of all nodes before it. -/
theorem layOut_getElem? (start : Nat) (codes : List (PerKind Code)) (id : NodeId) :
    (layOut start codes)[id]? =
      (codes[id]?).map (spansFrom (start + ((codes.take id).flatMap block).length)) := by
  induction codes generalizing start id with
  | nil => rfl
  | cons first rest ih =>
      cases id with
      | zero => simp [layOut]
      | succ id => simp [layOut, ih, Nat.add_assoc]

theorem layOut_append (start : Nat) (before after : List (PerKind Code)) :
    layOut start (before ++ after) =
      layOut start before ++ layOut (start + (before.flatMap block).length) after := by
  induction before generalizing start with
  | nil => rfl
  | cons first rest ih =>
      simp only [List.cons_append, layOut, ih, List.flatMap_cons, List.length_append,
        Nat.add_assoc]

/-- A span of a program that holds a given code. -/
structure Places (program : Program) (id : NodeId) (kind : EvalKind) (code : Code) (span : Span) :
    Prop where
  span?_eq : program.span? id kind = some span
  length_eq : span.length = code.instructions.length
  stackDepth_eq : span.stackDepth = code.depth
  stop_le : span.stop ≤ program.instructions.length
  slice_eq : program.slice span = code.instructions
  stackDepth_le : span.stackDepth ≤ program.maxStackDepth

/-- The code under one kind lies in the block of its node where its span starts. -/
theorem exists_block_eq_append (start : Nat) (codes : PerKind Code) (kind : EvalKind) :
    ∃ before after, block codes = before ++ (codes.get kind).instructions ++ after ∧
      (spansFrom start codes).get kind =
        ⟨start + before.length, (codes.get kind).instructions.length, (codes.get kind).depth⟩ := by
  cases kind with
  | float =>
      exact ⟨[], codes.spectrum.instructions ++ codes.bump.instructions,
        by simp [block, PerKind.toList, PerKind.get], rfl⟩
  | spectrum =>
      exact ⟨codes.float.instructions, codes.bump.instructions,
        by simp [block, PerKind.toList, PerKind.get], rfl⟩
  | bump =>
      exact ⟨codes.float.instructions ++ codes.spectrum.instructions, [],
        by simp [block, PerKind.toList, PerKind.get],
        by simp [spansFrom, PerKind.get, Nat.add_assoc]⟩

/-- A stretch of instructions is the slice of the span that starts where it starts. -/
theorem slice_eq_of_instructions_eq_append {program : Program} (span : Span)
    {before code after : List Instruction}
    (split : program.instructions = before ++ code ++ after)
    (start : span.start = before.length) (length : span.length = code.length) :
    span.stop ≤ program.instructions.length ∧ program.slice span = code := by
  constructor
  · simp only [Span.stop, split, start, length, List.length_append]
    omega
  · simp [slice, split, start, length]

/-- The instructions of a node stand between those of the nodes before and behind it. -/
theorem flatMap_block_eq {codes : List (PerKind Code)} {id : NodeId} (inside : id < codes.length) :
    codes.flatMap block = (codes.take id).flatMap block ++
      (block codes[id] ++ (codes.drop (id + 1)).flatMap block) := by
  rw [← List.flatMap_cons, ← List.flatMap_append, ← List.drop_eq_getElem_cons inside,
    List.take_append_drop]

/-- Spans lie between where the first one starts and where the instructions end. -/
theorem layOut_within {start : Nat} {codes : List (PerKind Code)} {id : NodeId}
    {spans : PerKind Span} (found : (layOut start codes)[id]? = some spans) (kind : EvalKind) :
    start ≤ (spans.get kind).start ∧
      (spans.get kind).stop ≤ start + (codes.flatMap block).length := by
  rw [layOut_getElem?, Option.map_eq_some_iff] at found
  rcases found with ⟨nodeCodes, codesFound, rfl⟩
  rcases List.getElem?_eq_some_iff.mp codesFound with ⟨inside, rfl⟩
  obtain ⟨before, after, split, spanned⟩ :=
    exists_block_eq_append (start + ((codes.take id).flatMap block).length) codes[id] kind
  rw [spanned, Span.stop, flatMap_block_eq inside, split]
  simp only [List.length_append]
  omega

/-- No count is above the greatest one. -/
theorem le_foldl_max_of_mem {count : Nat} {counts : List Nat} (member : count ∈ counts) :
    count ≤ counts.foldl max 0 := by
  rw [List.foldl_max_eq_max (List.ne_nil_of_mem member)]
  exact Nat.le_trans (List.le_max_of_mem member) (Nat.le_max_right _ _)

theorem ofCodes_places {distance : Binary32} {codes : List (PerKind Code)} {id : NodeId}
    {nodeCodes : PerKind Code} (found : codes[id]? = some nodeCodes) (kind : EvalKind) :
    ∃ span, (ofCodes distance codes).Places id kind (nodeCodes.get kind) span := by
  rcases List.getElem?_eq_some_iff.mp found with ⟨inside, rfl⟩
  obtain ⟨before, after, split, spanned⟩ :=
    exists_block_eq_append ((codes.take id).flatMap block).length codes[id] kind
  have instructions_eq : (ofCodes distance codes).instructions =
      ((codes.take id).flatMap block ++ before) ++ (codes[id].get kind).instructions ++
        (after ++ (codes.drop (id + 1)).flatMap block) := by
    rw [ofCodes, flatMap_block_eq inside, split]
    simp only [List.append_assoc]
  obtain ⟨stop_le, slice_eq⟩ := slice_eq_of_instructions_eq_append
    ((spansFrom ((codes.take id).flatMap block).length codes[id]).get kind)
    instructions_eq (by rw [spanned, List.length_append]) (congrArg Span.length spanned)
  have depth_mem : (codes[id].get kind).depth ∈ (codes.flatMap PerKind.toList).map Code.depth := by
    refine List.mem_map_of_mem (List.mem_flatMap.mpr ⟨codes[id], List.getElem_mem inside, ?_⟩)
    cases kind <;> simp [PerKind.get, PerKind.toList]
  refine ⟨_, ?_, ?_, ?_, stop_le, slice_eq, ?_⟩
  · simp [span?, ofCodes, layOut_getElem?, found]
  · exact congrArg Span.length spanned
  · exact congrArg Span.stackDepth spanned
  · rw [spanned]
    exact le_foldl_max_of_mem depth_mem

end Program

/-! ## Programs of tables -/

namespace Table

variable {table : Table} {config : Config} {program : Program} {id : NodeId} {node : Node}
  {kind : EvalKind}

theorem zipIdx_getElem?_of_node? (found : table.node? id = some node) :
    table.nodes.zipIdx[id]? = some (node, id) := by
  rw [List.getElem?_zipIdx, Nat.zero_add]
  exact congrArg (Option.map fun node => (node, id)) found

theorem codes_length {limit : Nat} {codes : List (PerKind Code)}
    (made : table.codes limit = .ok codes) : codes.length = table.size := by
  rw [← (Outcome.mapM_eq_ok_iff.mp made).length_eq, List.length_zipIdx, size]

/-- Among the codes of a table those of a node stand where the node does. -/
theorem exists_getElem?_codes {limit : Nat} {codes : List (PerKind Code)}
    (made : table.codes limit = .ok codes) (found : table.node? id = some node) :
    ∃ nodeCodes, codes[id]? = some nodeCodes ∧ table.kindCodes limit id node = .ok nodeCodes :=
  Outcome.exists_getElem?_of_forall₂ (Outcome.mapM_eq_ok_iff.mp made)
    (zipIdx_getElem?_of_node? found)

/-- The nodes of a table have codes together if each of them has. -/
theorem exists_codes_eq_ok {limit : Nat}
    (each : ∀ id node, table.node? id = some node →
      ∃ nodeCodes, table.kindCodes limit id node = .ok nodeCodes) :
    ∃ codes, table.codes limit = .ok codes := by
  have listed : ∀ entry ∈ table.nodes.zipIdx,
      ∃ nodeCodes, table.kindCodes limit entry.2 entry.1 = .ok nodeCodes := by
    rintro ⟨node, id⟩ member
    exact each id node (List.mem_zipIdx_iff_getElem?.mp member)
  rcases Outcome.exists_forall₂ listed with ⟨codes, made⟩
  exact ⟨codes, Outcome.mapM_eq_ok_iff.mpr made⟩

/-- A program that is compiled is laid out from the codes of its table. -/
theorem exists_codes_of_compile (compiled : table.compile config = .ok program) :
    ∃ codes, table.codes config.maxCompileDepth = .ok codes ∧
      program = .ofCodes config.bumpSampleDistance codes := by
  rw [compile_eq_map_codes] at compiled
  cases made : table.codes config.maxCompileDepth with
  | error e =>
      rw [made] at compiled
      cases compiled
  | ok codes =>
      rw [made] at compiled
      cases compiled
      exact ⟨codes, rfl, rfl⟩

theorem nodeCount_of_compile (compiled : table.compile config = .ok program) :
    program.nodeCount = table.size := by
  rcases exists_codes_of_compile compiled with ⟨codes, made, rfl⟩
  rw [Program.nodeCount, Program.ofCodes, Program.layOut_length, codes_length made]

theorem bumpSampleDistance_of_compile (compiled : table.compile config = .ok program) :
    program.bumpSampleDistance = config.bumpSampleDistance := by
  rcases exists_codes_of_compile compiled with ⟨codes, _, rfl⟩
  rfl

theorem nodeCode_of_kindCodes {limit : Nat} {codes : PerKind Code}
    (made : table.kindCodes limit id node = .ok codes) (kind : EvalKind) :
    table.nodeCode limit (limit + 1) id kind = .ok (codes.get kind) := by
  simp only [kindCodes, Outcome.bind_eq_ok_iff] at made
  rcases made with ⟨_, _, float, floatCode, spectrum, spectrumCode, bump, bumpCode, made⟩
  cases made
  cases kind with
  | float => exact floatCode
  | spectrum => exact spectrumCode
  | bump => exact bumpCode

/-- The program of a table places the code of every node under every kind. -/
theorem exists_places_of_compile (compiled : table.compile config = .ok program)
    (found : table.node? id = some node) (kind : EvalKind) :
    ∃ code span,
      table.nodeCode config.maxCompileDepth (config.maxCompileDepth + 1) id kind = .ok code ∧
      program.Places id kind code span := by
  rcases exists_codes_of_compile compiled with ⟨codes, allMade, rfl⟩
  rcases exists_getElem?_codes allMade found with ⟨nodeCodes, codesFound, made⟩
  rcases Program.ofCodes_places codesFound kind with ⟨span, places⟩
  exact ⟨nodeCodes.get kind, span, nodeCode_of_kindCodes made kind, places⟩

end Table

end TextureGraph
