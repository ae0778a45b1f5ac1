import TextureGraph.Proofs.Program.Layout
import TextureGraph.Proofs.Table.Built

/-!
# Code of a node from the spans of its inputs

What a program holds for a node is determined by what it holds for the inputs of the
node under their own spans: the instructions are emitted again, unchanged, wherever
the input is used, however deep that is nested.
-/

namespace TextureGraph

namespace Program

variable {program : Program} {id : NodeId} {kind : EvalKind} {code : Code} {span : Span}

/-- What a program holds for a node under a kind of evaluation: the instructions in
its span, and the stack slots that the span is said to need. -/
def part? (program : Program) (id : NodeId) (kind : EvalKind) : Option Code := do
  let span ← program.span? id kind
  let instructions ← program.code? id kind
  return ⟨instructions, span.stackDepth⟩

/-- What a program holds for the node in an input slot. -/
def inputPart? (program : Program) (node : Node) (slot : Nat) (kind : EvalKind) : Option Code := do
  let input ← node.child? slot
  program.part? input kind

theorem Places.code?_eq (places : program.Places id kind code span) :
    program.code? id kind = some code.instructions := by
  simp only [code?, places.span?_eq, if_pos places.stop_le, places.slice_eq]

theorem Places.part?_eq (places : program.Places id kind code span) :
    program.part? id kind = some code := by
  simp only [part?, places.span?_eq, places.code?_eq, places.stackDepth_eq, Option.bind_eq_bind,
    Option.bind_some, Option.pure_def]

end Program

/-- The lengths of codes that stand one behind the other add up. -/
theorem length_flatMap_instructions (codes : List Code) :
    (codes.flatMap Code.instructions).length =
      Generator.total (codes.map fun code => code.instructions.length) := by
  induction codes with
  | nil => rfl
  | cons code rest ih =>
      rw [List.flatMap_cons, List.length_append, ih]
      rfl

namespace Table

variable {table : Table} {config : Config} {program : Program} {id : NodeId} {node : Node}
  {kind : EvalKind}

/-- Code that was made inside the code of another node stands in the span of its own node. -/
theorem part?_eq_of_nodeCode (compiled : table.compile config = .ok program) {budget : Nat}
    (within : budget ≤ config.maxCompileDepth + 1) {code : Code}
    (made : table.nodeCode config.maxCompileDepth budget id kind = .ok code) :
    program.part? id kind = some code := by
  rcases nodeCode_eq_ok_exists_composed made with ⟨_, node, _, found, _⟩
  rcases exists_places_of_compile compiled found kind with ⟨own, span, ownMade, places⟩
  have same : own = code :=
    Except.ok.inj (ownMade.symm.trans (nodeCode_of_le within made))
  rw [← same]
  exact places.part?_eq

/-- Code names only nodes of the table that it is made from. -/
theorem node_lt_size_of_nodeCode {limit budget : Nat} {code : Code}
    (made : table.nodeCode limit budget id kind = .ok code) :
    ∀ instruction ∈ code.instructions, instruction.node < table.size := by
  refine forall_mem_instructions_of_nodeCode
    (fun _ _ instruction => instruction.node < table.size) ?_ ?_ made
  · intro id node kind op found _
    exact (List.getElem?_eq_some_iff.mp found).1
  · intro id node kind input inputKind instruction _ _ _ inside
    exact inside

/-- A program names only nodes of the table that it is compiled from. -/
theorem node_lt_size_of_compile (compiled : table.compile config = .ok program) :
    ∀ instruction ∈ program.instructions, instruction.node < table.size := by
  rcases exists_codes_of_compile compiled with ⟨codes, made, rfl⟩
  intro instruction member
  rcases List.mem_flatMap.mp member with ⟨nodeCodes, codesMember, inBlock⟩
  rcases Outcome.exists_mem_of_forall₂ (Outcome.mapM_eq_ok_iff.mp made).flip codesMember with
    ⟨⟨node, id⟩, _, kindsMade⟩
  have each (kind : EvalKind) := node_lt_size_of_nodeCode (nodeCode_of_kindCodes kindsMade kind)
  simp only [Program.block, PerKind.toList, List.flatMap_cons, List.flatMap_nil, List.append_nil,
    List.mem_append] at inBlock
  obtain inFloat | inSpectrum | inBump := inBlock
  · exact each .float instruction inFloat
  · exact each .spectrum instruction inSpectrum
  · exact each .bump instruction inBump

/-- What a program holds for a node that is an input is what it holds for the input slot. -/
theorem inputPart?_eq_of_inputHas {slot : Nat} {code : Code}
    (has : node.InputHas slot (program.part? · kind = some code)) :
    program.inputPart? node slot kind = some code := by
  rcases has with ⟨input, found, part⟩
  rw [Program.inputPart?, found]
  exact part

/-- What a program holds for a node is composed of what it holds for the inputs. -/
theorem exists_composed_part (compiled : table.compile config = .ok program)
    (found : table.node? id = some node) (kind : EvalKind) :
    ∃ code span, program.Places id kind code span ∧
      Code.Composed (program.part? · · = some ·) id node kind code := by
  rcases exists_places_of_compile compiled found kind with ⟨code, span, made, places⟩
  rcases nodeCode_succ_eq_ok_iff.mp made with ⟨other, foundOther, composed⟩
  have same : other = node := Option.some.inj (foundOther.symm.trans found)
  subst same
  exact ⟨code, span, places, composed.mono fun _ _ _ =>
    part?_eq_of_nodeCode compiled (Nat.le_succ _)⟩

/-- What a program holds for a node ends with the node's own instruction. -/
theorem part?_instructions_eq_append (compiled : table.compile config = .ok program)
    (found : table.node? id = some node) {code : Code} (part : program.part? id kind = some code) :
    ∃ before, code.instructions = before ++ [⟨id, .eval kind⟩] := by
  rcases exists_composed_part compiled found kind with ⟨own, _, places, composed⟩
  cases places.part?_eq.symm.trans part
  exact composed.instructions_eq_append

/-- The inputs of a combinator, looked up in the program one by one. -/
theorem map_inputPart?_eq_map_some {children : List ChildEval} {inputs : List Code}
    (parts : List.Forall₂ (fun child code => node.InputHas child.slot
      (program.part? · (child.resolve kind) = some code)) children inputs) :
    children.map (fun child => program.inputPart? node child.slot (child.resolve kind)) =
      inputs.map some := by
  induction parts with
  | nil => rfl
  | cons first _ ih => rw [List.map_cons, List.map_cons, ih, inputPart?_eq_of_inputHas first]

/-- The span of a node, shape by shape: its instructions, its length and its stack depth in
terms of the spans of the inputs. -/
theorem span_eq_of_rule (compiled : table.compile config = .ok program)
    (found : table.node? id = some node) (kind : EvalKind) :
    ∃ span instructions, program.span? id kind = some span ∧
      program.code? id kind = some instructions ∧ span.length = instructions.length ∧
      match node.kind.rule kind with
      | .leaf => instructions = [⟨id, .eval kind⟩] ∧ span.stackDepth = kind.width
      | .combinator children => ∃ inputs : List Code,
          children.map (fun child => program.inputPart? node child.slot (child.resolve kind)) =
            inputs.map some ∧
          instructions = inputs.flatMap Code.instructions ++ [⟨id, .eval kind⟩] ∧
          span.length = Generator.total (inputs.map fun input => input.instructions.length) + 1 ∧
          span.stackDepth = max (Generator.total (inputs.map Code.depth)) kind.width
      | .genericBump => ∃ sample before,
          program.part? id .float = some sample ∧
          sample.instructions = before ++ [⟨id, .eval .float⟩] ∧
          instructions = sample.instructions ++ [⟨id, .bumpOffsetU⟩] ++ sample.instructions ++
            [⟨id, .bumpOffsetV⟩] ++ before ++ [⟨id, .eval .bump⟩] ∧
          span.length = 3 * sample.instructions.length + 2 ∧
          span.stackDepth = 3 * sample.depth + 8
      | .triplanar _ => ∃ c0 c1 c2,
          program.inputPart? node 0 .spectrum = some c0 ∧
          program.inputPart? node 1 .spectrum = some c1 ∧
          program.inputPart? node 2 .spectrum = some c2 ∧
          instructions = [⟨id, .triplanarStep .x⟩] ++ c0.instructions ++
            [⟨id, .triplanarStep .y⟩] ++ c1.instructions ++
            [⟨id, .triplanarStep .z⟩] ++ c2.instructions ++ [⟨id, .eval kind⟩] ∧
          span.length = c0.instructions.length + c1.instructions.length +
            c2.instructions.length + 4 ∧
          span.stackDepth = 8 + (c0.depth + c1.depth + c2.depth)
      | .distort _ => ∃ offset moved,
          program.inputPart? node 1 .spectrum = some offset ∧
          program.inputPart? node 0 kind = some moved ∧
          instructions = offset.instructions ++ [⟨id, .distortSetup⟩] ++ moved.instructions ++
            [⟨id, .eval kind⟩] ∧
          span.length = offset.instructions.length + moved.instructions.length + 2 ∧
          span.stackDepth = offset.depth + 5 + moved.depth := by
  rcases exists_composed_part compiled found kind with ⟨code, span, places, composed⟩
  refine ⟨span, code.instructions, places.span?_eq, places.code?_eq, places.length_eq, ?_⟩
  rw [places.length_eq, places.stackDepth_eq]
  cases composed with
  | leaf rule =>
      rw [rule]
      exact ⟨rfl, rfl⟩
  | @combinator children inputs rule parts =>
      rw [rule]
      refine ⟨inputs, map_inputPart?_eq_map_some parts, rfl, ?_, rfl⟩
      rw [← length_flatMap_instructions, Code.combinator, List.length_append, List.length_singleton]
  | @genericBump sample rule samplePart =>
      rw [rule]
      rcases part?_instructions_eq_append compiled found samplePart with ⟨before, ends⟩
      cases TextureKind.eq_bump_of_rule_eq_genericBump rule
      refine ⟨sample, before, samplePart, ends, ?_, ?_, ?_⟩
      · simp [Code.genericBump, ends]
      · simp [Code.genericBump, ends]
        omega
      · simp only [Code.genericBump, Generator.savedStateSlots]
        omega
  | @triplanar mapping c0 c1 c2 rule part0 part1 part2 =>
      rw [rule]
      refine ⟨c0, c1, c2, inputPart?_eq_of_inputHas part0, inputPart?_eq_of_inputHas part1,
        inputPart?_eq_of_inputHas part2, rfl, ?_, ?_⟩
      · simp [Code.triplanar]
        omega
      · -- The saved slots alone are more than any result takes.
        have narrow : kind.width ≤ 3 := by cases kind <;> decide
        simp only [Code.triplanar, Generator.savedProjectionSlots]
        omega
  | @distort strength offset moved rule offsetPart movedPart =>
      rw [rule]
      refine ⟨offset, moved, inputPart?_eq_of_inputHas offsetPart,
        inputPart?_eq_of_inputHas movedPart, rfl, ?_, rfl⟩
      simp [Code.distort]
      omega

/-- The bump of a projection takes three samples of a code that itself projects and displaces. -/
theorem span_eq_of_rule_nested :
    ∃ program span sample before, nested.compile .standard = .ok program ∧
      program.span? 3 .bump = some span ∧ program.part? 3 .float = some sample ∧
      sample.instructions = before ++ [⟨3, .eval .float⟩] ∧
      program.code? 3 .bump = some (sample.instructions ++ [⟨3, .bumpOffsetU⟩] ++
        sample.instructions ++ [⟨3, .bumpOffsetV⟩] ++ before ++ [⟨3, .eval .bump⟩]) ∧
      span.length = 3 * sample.instructions.length + 2 ∧
      span.stackDepth = 3 * sample.depth + 8 := by
  obtain ⟨program, compiled⟩ : ∃ program, nested.compile .standard = .ok program := ⟨_, rfl⟩
  have found : nested.node? 3 = some ⟨"projected", .triplanar .identity, [2, 0, 1]⟩ := rfl
  obtain ⟨span, instructions, spanned, coded, _, sample, before, part, ends, composed, length,
    depth⟩ := span_eq_of_rule compiled found .bump
  subst composed
  exact ⟨program, span, sample, before, compiled, spanned, part, ends, coded, length, depth⟩

end Table

end TextureGraph
