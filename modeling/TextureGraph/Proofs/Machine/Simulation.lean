import TextureGraph.Proofs.Machine.Instructions
import TextureGraph.Proofs.Program.Layout
import TextureGraph.Proofs.Program.Nesting

/-!
# Code delivers what it stands for

The code of a node, wherever it is placed, puts the value of the node on top of the
stack and leaves the hit point as it was. The induction is on the nesting of the code;
one lemma for each rule puts the transfers of the parts together.
-/

namespace TextureGraph

/-- Instructions that combine inputs have no more operands than fit the buffer. -/
theorem TextureKind.totalWidth_le_of_rule {kind : TextureKind} {eval : EvalKind}
    {children : List ChildEval} (rule : kind.rule eval = .combinator children) :
    ChildEval.totalWidth children eval ≤ Machine.maxOperands := by
  cases kind <;> cases eval <;> cases rule <;> decide

/-- A node of a well-formed table has the value that its operands combine to. -/
theorem Table.WellFormed.exists_evaluated {table : Table} (wellFormed : table.WellFormed)
    {id : NodeId} {node : Node} (found : table.node? id = some node) {kind : EvalKind}
    {rule : Rule} (ruled : node.kind.rule kind = rule)
    (closed : node.kind.rule kind ≠ .genericBump) {distance : Binary32} {hit : HitPoint}
    {operands : List Binary32}
    (visited : Node.ruleOperands? rule (table.visit distance id node) kind hit =
      some (.ok operands))
    (width : operands.length = rule.operandWidth kind) :
    ∃ value, table.evaluate distance id kind hit = .ok value ∧ value.IsOf kind ∧
      (Combine.value? table.images node.kind kind hit).run operands = .ok (some value, []) := by
  subst ruled
  have stands := wellFormed.stands found
  have reads := Combine.reads_value? wellFormed.image stands.fits closed hit
  rcases reads.exists_run_eq_ok width with ⟨_, combined, value, rfl, isOf⟩
  exact ⟨value, evaluate_eq_ok_of_operands found stands.children_length visited combined, isOf,
    combined⟩

namespace Machine

variable {program : Program} {table : Table} {id : NodeId} {node : Node} {kind : EvalKind}

/-! ## Runs of code -/

theorem runCode_append (position : Nat) (first second : List Instruction) :
    runCode program table position (first ++ second) =
      runCode program table position first >>= fun _ =>
        runCode program table (position + first.length) second := by
  induction first generalizing position with
  | nil => simp [runCode]
  | cons instruction rest ih =>
      simp only [List.cons_append, runCode, ih, bind_assoc, List.length_cons]
      rw [Nat.add_assoc, Nat.add_comm 1]

theorem runCode_singleton (position : Nat) (instruction : Instruction) :
    runCode program table position [instruction] = step program table position instruction := by
  simp only [runCode]
  exact bind_pure_unit

namespace Transfer

variable {position : Nat} {first second : List Instruction} {instruction : Instruction}
  {pushes more : List Push} {start middle finish : Window}

theorem single (steps : Transfer (step program table position instruction) pushes start () finish) :
    Transfer (runCode program table position [instruction]) pushes start () finish := by
  rw [runCode_singleton]
  exact steps

theorem append (runs : Transfer (runCode program table position first) pushes start () middle)
    (runsMore :
      Transfer (runCode program table (position + first.length) second) more middle () finish) :
    Transfer (runCode program table position (first ++ second)) (pushes ++ more) start ()
      finish := by
  rw [runCode_append]
  exact runs.bind runsMore

theorem append_step
    (runs : Transfer (runCode program table position first) pushes start () middle)
    (steps :
      Transfer (step program table (position + first.length) instruction) more middle () finish) :
    Transfer (runCode program table position (first ++ [instruction])) (pushes ++ more) start ()
      finish :=
  runs.append steps.single

end Transfer

/-- The components of a value that an evaluation under a kind arrives at. -/
def Yields (outcome : Except Fault Value) (kind : EvalKind) (values : List Binary32) : Prop :=
  ∃ value, outcome = .ok value ∧ value.IsOf kind ∧ value.toList = values

/-- Code that stays within a depth and leaves values with a meaning, on any hit point. -/
def Delivers (program : Program) (table : Table) (code : List Instruction) (depth : Nat)
    (meaning : HitPoint → List Binary32 → Prop) : Prop :=
  ∀ position, ∃ pushes, Low pushes depth ∧
    ∀ hit, ∃ values, meaning hit values ∧
      Transfer (runCode program table position code) pushes ⟨hit, []⟩ () ⟨hit, values⟩

/-- Code can be run on top of other values. -/
theorem Delivers.exists_above {code : List Instruction} {depth : Nat}
    {meaning : HitPoint → List Binary32 → Prop}
    (delivers : Delivers program table code depth meaning) (position slots : Nat) :
    ∃ pushes, Low pushes (slots + depth) ∧
      ∀ hit lower, lower.length = slots → ∃ values, meaning hit values ∧
        Transfer (runCode program table position code) pushes ⟨hit, lower⟩ ()
          ⟨hit, lower ++ values⟩ := by
  rcases delivers position with ⟨pushes, low, runs⟩
  refine ⟨pushes.map (Push.lift slots), low_map_lift_iff.mpr low, ?_⟩
  rintro hit lower rfl
  rcases runs hit with ⟨values, means, transfer⟩
  have above := transfer.above lower
  rw [List.append_nil] at above
  exact ⟨values, means, above⟩

/-- Code that delivers the value of a node. -/
abbrev DeliversValue (program : Program) (table : Table) (id : NodeId) (kind : EvalKind)
    (code : Code) : Prop :=
  Delivers program table code.instructions code.depth fun hit =>
    Yields (table.evaluate program.bumpSampleDistance id kind hit) kind

/-- Code of a node as other code takes it in: its last instruction can be told apart, and it
has room for the value that it delivers. -/
structure DeliversNode (program : Program) (table : Table) (id : NodeId) (kind : EvalKind)
    (code : Code) : Prop where
  ends : ∃ before, code.instructions = before ++ [⟨id, .eval kind⟩]
  width_le : kind.width ≤ code.depth
  delivers : DeliversValue program table id kind code

/-- Code of an input delivers what the node sees in the slot. -/
theorem delivers_input (wellFormed : table.WellFormed) (found : table.node? id = some node)
    {slot : Nat} {code : Code}
    (part : node.InputHas slot (DeliversNode program table · kind code)) :
    kind.width ≤ code.depth ∧
      Delivers program table code.instructions code.depth fun hit =>
        Yields (table.visit program.bumpSampleDistance id node slot kind hit) kind := by
  rcases part with ⟨input, filled, delivered⟩
  have earlier := (wellFormed.stands found).child_lt input (List.mem_of_getElem? filled)
  simp only [Table.visit_eq_evaluate filled earlier]
  exact ⟨delivered.width_le, delivered.delivers⟩

/-! ## One lemma for each rule -/

theorem delivers_leaf (wellFormed : table.WellFormed) (found : table.node? id = some node)
    (rule : node.kind.rule kind = .leaf) : DeliversValue program table id kind (.leaf id kind) := by
  have closed : node.kind.rule kind ≠ .genericBump := by simp [rule]
  intro position
  have low : Low [⟨position, kind.width⟩] kind.width := low_cons_iff.mpr ⟨Nat.le_refl _, low_nil⟩
  refine ⟨_, low, ?_⟩
  intro hit
  have visited : Node.ruleOperands? .leaf (table.visit program.bumpSampleDistance id node) kind
      hit = some (.ok []) := rfl
  obtain ⟨value, evaluated, isOf, combined⟩ :=
    wellFormed.exists_evaluated found rule closed visited rfl
  have taken := transfer_closedValue_leaf position rule combined
  have run := (transfer_eval program found closed taken isOf).single
  exact ⟨value.toList, ⟨value, evaluated, isOf, rfl⟩, run⟩

/-- The code of inputs, one behind the other, delivers the operands of a combinator. -/
theorem delivers_inputs (wellFormed : table.WellFormed) (found : table.node? id = some node)
    {children : List ChildEval} {inputs : List Code}
    (parts : List.Forall₂ (fun child code => node.InputHas child.slot
      (DeliversNode program table · (child.resolve kind) code)) children inputs) :
    Delivers program table (inputs.flatMap Code.instructions)
      (Generator.total (inputs.map Code.depth))
      fun hit values =>
        (table.visit program.bumpSampleDistance id node).all hit
          (children.map fun child => (child.slot, child.resolve kind)) = .ok values ∧
        values.length = ChildEval.totalWidth children kind := by
  induction parts with
  | nil => exact fun position => ⟨[], low_nil, fun hit => ⟨[], ⟨rfl, rfl⟩, .pure () _⟩⟩
  | @cons child code children inputs head _ ih =>
      rcases delivers_input wellFormed found head with ⟨wide, delivers⟩
      intro position
      rcases delivers position with ⟨pushes, low, runs⟩
      obtain ⟨more, moreLow, runsMore⟩ :=
        Delivers.exists_above ih (position + code.instructions.length) (child.resolve kind).width
      have bothLow : Low (pushes ++ more)
          (Generator.total ((code :: inputs).map Code.depth)) := by
        rw [low_append_iff]
        constructor
        · exact low.mono (Nat.le_add_right _ _)
        · exact moreLow.mono (Nat.add_le_add_right wide _)
      refine ⟨pushes ++ more, bothLow, ?_⟩
      intro hit
      rcases runs hit with ⟨_, ⟨value, evaluated, isOf, rfl⟩, transfer⟩
      obtain ⟨values, ⟨visited, width⟩, transferMore⟩ :=
        runsMore hit value.toList isOf.toList_length
      refine ⟨value.toList ++ values, ⟨?_, ?_⟩, transfer.append transferMore⟩
      · rw [List.map_cons, Visit.all, evaluated, Outcome.ok_bind, visited]
        rfl
      · rw [List.length_append, isOf.toList_length, width]
        rfl

theorem delivers_combinator (wellFormed : table.WellFormed) (found : table.node? id = some node)
    {children : List ChildEval} {inputs : List Code}
    (rule : node.kind.rule kind = .combinator children)
    (parts : List.Forall₂ (fun child code => node.InputHas child.slot
      (DeliversNode program table · (child.resolve kind) code)) children inputs) :
    DeliversValue program table id kind (.combinator id kind inputs) := by
  have closed : node.kind.rule kind ≠ .genericBump := by simp [rule]
  intro position
  rcases delivers_inputs wellFormed found parts position with ⟨pushes, low, runs⟩
  let last := position + (inputs.flatMap Code.instructions).length
  have allLow : Low (pushes ++ [⟨last, kind.width⟩]) (Code.combinator id kind inputs).depth := by
    rw [low_append_iff, low_cons_iff]
    exact ⟨low.mono (Nat.le_max_left _ _), Nat.le_max_right _ _, low_nil⟩
  refine ⟨_, allLow, ?_⟩
  intro hit
  rcases runs hit with ⟨operands, ⟨visited, width⟩, transfer⟩
  obtain ⟨value, evaluated, isOf, combined⟩ :=
    wellFormed.exists_evaluated found rule closed (congrArg some visited) width
  have few : operands.length ≤ maxOperands := by
    rw [width]
    exact TextureKind.totalWidth_le_of_rule rule
  have taken := transfer_closedValue_combinator last rule width few combined
  have run := transfer.append_step (transfer_eval program found closed taken isOf)
  exact ⟨value.toList, ⟨value, evaluated, isOf, rfl⟩, run⟩

theorem delivers_triplanar (wellFormed : table.WellFormed) (found : table.node? id = some node)
    {mapping : SpaceMapping} {c0 c1 c2 : Code} (rule : node.kind.rule kind = .triplanar mapping)
    (part0 : node.InputHas 0 (DeliversNode program table · .spectrum c0))
    (part1 : node.InputHas 1 (DeliversNode program table · .spectrum c1))
    (part2 : node.InputHas 2 (DeliversNode program table · .spectrum c2)) :
    DeliversValue program table id kind (.triplanar id kind c0 c1 c2) := by
  have closed : node.kind.rule kind ≠ .genericBump := by simp [rule]
  rcases TextureKind.eq_triplanar_of_rule rule with ⟨projection, _⟩
  rcases delivers_input wellFormed found part0 with ⟨wide0, delivers0⟩
  rcases delivers_input wellFormed found part1 with ⟨wide1, delivers1⟩
  rcases delivers_input wellFormed found part2 with ⟨wide2, delivers2⟩
  intro position
  let lookup0 := [⟨id, .triplanarStep .x⟩] ++ c0.instructions
  let start1 := lookup0 ++ [⟨id, .triplanarStep .y⟩]
  let lookup1 := start1 ++ c1.instructions
  let start2 := lookup1 ++ [⟨id, .triplanarStep .z⟩]
  let lookup2 := start2 ++ c2.instructions
  -- Each lookup lies on the eight saved slots and the colours that were looked up before it.
  rcases delivers0.exists_above (position + 1) 8 with ⟨pushes0, low0, runs0⟩
  rcases delivers1.exists_above (position + start1.length) 11 with ⟨pushes1, low1, runs1⟩
  rcases delivers2.exists_above (position + start2.length) 14 with ⟨pushes2, low2, runs2⟩
  let pushes := [⟨position, 2⟩, ⟨position, 5⟩, ⟨position, 8⟩] ++ pushes0 ++ [] ++ pushes1 ++ [] ++
    pushes2 ++ [⟨position + lookup2.length, kind.width⟩]
  have low : Low pushes (max (8 + c0.depth + c1.depth + c2.depth) kind.width) := by
    simp only [EvalKind.width] at wide0 wide1 wide2
    simp only [pushes, low_append_iff, low_cons_iff, low_nil, and_true]
    refine ⟨⟨⟨⟨⟨?_, ?_, ?_⟩, low0.mono ?_⟩, low1.mono ?_⟩, low2.mono ?_⟩, ?_⟩ <;> omega
  refine ⟨pushes, low, ?_⟩
  intro hit
  let point := mapping.apply hit
  obtain ⟨_, ⟨_, visited0, ⟨color0, rfl⟩, rfl⟩, transfer0⟩ :=
    runs0 (hit.along point .x) (savedProjection hit point) rfl
  obtain ⟨_, ⟨_, visited1, ⟨color1, rfl⟩, rfl⟩, transfer1⟩ :=
    runs1 (hit.along point .y) (savedProjection hit point ++ color0.toList) rfl
  obtain ⟨_, ⟨_, visited2, ⟨color2, rfl⟩, rfl⟩, transfer2⟩ :=
    runs2 (hit.along point .z) (savedProjection hit point ++ (color0.toList ++ color1.toList)) rfl
  have visited := congrArg some (Visit.projected_eq_ok visited0 visited1 visited2)
  obtain ⟨value, evaluated, isOf, combined⟩ :=
    wellFormed.exists_evaluated found rule closed visited rfl
  have first := transfer_firstProjection program position found projection hit
  have second := transfer_nextProjection program (position + lookup0.length) found projection hit
    (hit.along point .x) point .y (by decide) color0.toList rfl
  have third := transfer_nextProjection program (position + lookup1.length) found projection hit
    (hit.along point .y) point .z (by decide) (color0.toList ++ color1.toList) rfl
  have taken := transfer_closedValue_triplanar (position + lookup2.length) rule .z point color0
    color1 color2 combined
  have own := transfer_eval program found closed taken isOf
  have run := (((((first.single.append transfer0).append_step second).append transfer1).append_step
    third).append transfer2).append_step own
  exact ⟨value.toList, ⟨value, evaluated, isOf, rfl⟩, run⟩

theorem delivers_distort (wellFormed : table.WellFormed) (found : table.node? id = some node)
    {strength : Binary32} {offset moved : Code} (rule : node.kind.rule kind = .distort strength)
    (offsetPart : node.InputHas 1 (DeliversNode program table · .spectrum offset))
    (movedPart : node.InputHas 0 (DeliversNode program table · kind moved)) :
    DeliversValue program table id kind (.distort id kind offset moved) := by
  have closed : node.kind.rule kind ≠ .genericBump := by simp [rule]
  have displaces := TextureKind.eq_distort_of_rule rule
  rcases delivers_input wellFormed found offsetPart with ⟨offsetWide, deliversOffset⟩
  rcases delivers_input wellFormed found movedPart with ⟨movedWide, deliversMoved⟩
  intro position
  let start := offset.instructions ++ [⟨id, .distortSetup⟩]
  let lookup := start ++ moved.instructions
  rcases deliversOffset position with ⟨pushes, low, runs⟩
  -- The offset and the saved placement lie under the moved lookup.
  rcases deliversMoved.exists_above (position + start.length) 8 with ⟨more, moreLow, runsMore⟩
  have allLow : Low (pushes ++ [⟨position + offset.instructions.length, 8⟩] ++ more ++
      [⟨position + lookup.length, kind.width⟩]) (offset.depth + 5 + moved.depth) := by
    simp only [EvalKind.width] at offsetWide
    simp only [low_append_iff, low_cons_iff, low_nil, and_true]
    refine ⟨⟨⟨low.mono ?_, ?_⟩, moreLow.mono ?_⟩, ?_⟩ <;> omega
  refine ⟨_, allLow, ?_⟩
  intro hit
  rcases runs hit with ⟨_, ⟨_, visitedOffset, ⟨shift, rfl⟩, rfl⟩, transferOffset⟩
  obtain ⟨_, ⟨result, visitedMoved, isResult, rfl⟩, transferMoved⟩ :=
    runsMore (Pattern.distort hit shift strength) (shift.toList ++ hit.placement) rfl
  have visited := congrArg some (Visit.displaced_eq_ok visitedOffset visitedMoved)
  have width : (shift.toList ++ result.toList).length = 3 + kind.width := by
    rw [List.length_append, isResult.toList_length]
    rfl
  obtain ⟨value, evaluated, isOf, combined⟩ :=
    wellFormed.exists_evaluated found rule closed visited width
  have setup := transfer_distortSetup program (position + offset.instructions.length) found
    displaces hit shift
  have taken := transfer_closedValue_distort (position + lookup.length) rule
    (hit.position + strength * shift) (hit.uv + strength * shift.truncate) shift
    isResult.toList_length combined
  have own := transfer_eval program found closed taken isOf
  have run := ((transferOffset.append_step setup).append transferMoved).append_step own
  exact ⟨value.toList, ⟨value, evaluated, isOf, rfl⟩, run⟩

/-- The own instruction of a sampled bump runs the last sample to its end and goes on. -/
theorem runCode_bump_eq (position : Nat) (found : table.node? id = some node)
    (sampled : node.kind.rule .bump = .genericBump) (before : List Instruction) :
    runCode program table position (before ++ [⟨id, .eval .bump⟩]) =
      runCode program table position (before ++ [⟨id, .eval .float⟩]) >>= fun _ =>
        finishSamples program (position + before.length) := by
  have closed : node.kind.rule .float ≠ .genericBump := fun sampledFloat =>
    nomatch TextureKind.eq_bump_of_rule_eq_genericBump sampledFloat
  simp only [runCode_append, runCode_singleton, bind_assoc,
    step_bump_eq_closedStep program _ found sampled, step_eval_eq_closedStep program _ found closed]

theorem delivers_genericBump (wellFormed : table.WellFormed) (found : table.node? id = some node)
    {sample : Code} (sampled : node.kind.rule .bump = .genericBump)
    (samplePart : DeliversNode program table id .float sample) :
    DeliversValue program table id .bump (.genericBump id sample) := by
  rcases samplePart with ⟨⟨before, ends⟩, wide, delivers⟩
  intro position
  let startU := sample.instructions ++ [⟨id, .bumpOffsetU⟩]
  let lookupU := startU ++ sample.instructions
  let startV := lookupU ++ [⟨id, .bumpOffsetV⟩]
  rcases delivers position with ⟨pushes, low, runs⟩
  -- The first height and the saved state lie under the second sample, whose height lies
  -- under the third.
  rcases delivers.exists_above (position + startU.length) 9 with ⟨pushesU, lowU, runsU⟩
  rcases delivers.exists_above (position + startV.length) 10 with ⟨pushesV, lowV, runsV⟩
  have allLow : Low (pushes ++ [⟨position + sample.instructions.length, 9⟩] ++ pushesU ++ [] ++
      (pushesV ++ [⟨position + startV.length + before.length, 3⟩]))
      (sample.depth + 8 + sample.depth + sample.depth) := by
    simp only [EvalKind.width] at wide
    simp only [low_append_iff, low_cons_iff, low_nil, and_true]
    refine ⟨⟨⟨low.mono ?_, ?_⟩, lowU.mono ?_⟩, lowV.mono ?_, ?_⟩ <;> omega
  refine ⟨_, allLow, ?_⟩
  intro hit
  let distance := program.bumpSampleDistance
  rcases runs hit with ⟨_, ⟨_, evaluated, ⟨height, rfl⟩, rfl⟩, transfer⟩
  obtain ⟨_, ⟨_, evaluatedU, ⟨heightU, rfl⟩, rfl⟩, transferU⟩ :=
    runsU (Bump.offsetU hit distance) ([height] ++ hit.state.toList) rfl
  obtain ⟨_, ⟨_, evaluatedV, ⟨heightV, rfl⟩, rfl⟩, transferV⟩ :=
    runsV (Bump.offsetV hit distance) ([height] ++ hit.state.toList ++ [heightU]) rfl
  let normal := Bump.finiteDifference hit distance height heightU heightV
  have bumped : table.evaluate distance id .bump hit = .ok (.vector normal) :=
    Table.evaluate_eq_ok_of_samples found (wellFormed.stands found).children_length sampled
      evaluated evaluatedU evaluatedV
  have toU := transfer_bumpOffsetU program (position + sample.instructions.length) found hit height
  have toV := transfer_bumpOffsetV program (position + lookupU.length) found hit height heightU
  have finish := transfer_finishSamples program (position + startV.length + before.length) hit
    height heightU heightV
  have last : Transfer (runCode program table (position + startV.length)
      (before ++ [⟨id, .eval .bump⟩])) (pushesV ++ [⟨position + startV.length + before.length, 3⟩])
      ⟨Bump.offsetV hit distance, [height] ++ hit.state.toList ++ [heightU]⟩ ()
      ⟨hit, normal.toList⟩ := by
    rw [runCode_bump_eq _ found sampled, ← ends]
    exact transferV.bind finish
  have code_eq : (Code.genericBump id sample).instructions =
      startV ++ (before ++ [⟨id, .eval .bump⟩]) := by
    change startV ++ sample.instructions.dropLast ++ [⟨id, .eval .bump⟩] = _
    have dropLast_eq : sample.instructions.dropLast = before := by
      rw [ends, List.dropLast_concat]
    rw [dropLast_eq, List.append_assoc]
  have run := (((transfer.append_step toU).append transferU).append_step toV).append last
  rw [← code_eq] at run
  exact ⟨normal.toList, ⟨.vector normal, bumped, ⟨normal, rfl⟩, rfl⟩, run⟩

/-! ## All code -/

/-- Code that is put together of code that delivers its values delivers its own. -/
theorem deliversNode_of_composed (wellFormed : table.WellFormed)
    (found : table.node? id = some node) {code : Code}
    (composed : Code.Composed (DeliversNode program table) id node kind code) :
    DeliversNode program table id kind code where
  ends := composed.instructions_eq_append
  width_le := composed.width_le_depth fun _ _ _ part => part.width_le
  delivers := by
    cases composed with
    | leaf rule => exact delivers_leaf wellFormed found rule
    | combinator rule parts => exact delivers_combinator wellFormed found rule parts
    | genericBump rule samplePart =>
        cases TextureKind.eq_bump_of_rule_eq_genericBump rule
        exact delivers_genericBump wellFormed found rule samplePart
    | triplanar rule part0 part1 part2 =>
        exact delivers_triplanar wellFormed found rule part0 part1 part2
    | distort rule offsetPart movedPart =>
        exact delivers_distort wellFormed found rule offsetPart movedPart

/-- The code of every node, made within any nesting, delivers the value of the node. -/
theorem deliversNode_of_nodeCode (wellFormed : table.WellFormed) {limit budget : Nat} {code : Code}
    (made : table.nodeCode limit budget id kind = .ok code) :
    DeliversNode program table id kind code := by
  induction budget generalizing id kind code with
  | zero => cases made
  | succ budget ih =>
      rcases Table.nodeCode_succ_eq_ok_iff.mp made with ⟨node, found, composed⟩
      exact deliversNode_of_composed wellFormed found (composed.mono fun _ _ _ => ih)

end Machine

/-- Every node has a value, also in a table that nests too deep to be compiled. -/
theorem Table.WellFormed.exists_value {table : Table} (wellFormed : table.WellFormed)
    {id : NodeId} (inside : id < table.size) (distance : Binary32) (kind : EvalKind)
    (hit : HitPoint) :
    ∃ value, table.evaluate distance id kind hit = .ok value ∧ value.IsOf kind := by
  rcases wellFormed.exists_nodeCode 0 inside kind with ⟨code, made⟩
  -- Of the program that runs the code only the distance of samples matters.
  let program : Program := ⟨[], [], 0, distance⟩
  have delivered : Machine.DeliversNode program table id kind code :=
    Machine.deliversNode_of_nodeCode wellFormed made
  rcases delivered.delivers 0 with ⟨_, _, runs⟩
  rcases runs hit with ⟨_, ⟨value, evaluated, isOf, _⟩, _⟩
  exact ⟨value, evaluated, isOf⟩

end TextureGraph
