import TextureGraph.Proofs.Evaluation
import TextureGraph.Proofs.Machine.Transfer

/-!
# Effect of the instructions

One transfer for each shape that an instruction can have. An instruction that prepares a
moved lookup leaves what it has saved in the window, and the own instruction of the node
finds it there again under the values of the lookups.
-/

namespace TextureGraph

/-- Only a projection projects, and not for its bump. -/
theorem TextureKind.eq_triplanar_of_rule {kind : TextureKind} {eval : EvalKind}
    {mapping : SpaceMapping} (rule : kind.rule eval = .triplanar mapping) :
    kind = .triplanar mapping ∧ eval ≠ .bump := by
  cases kind <;> cases eval <;> cases rule <;> exact ⟨rfl, nofun⟩

/-- Only a distortion displaces. -/
theorem TextureKind.eq_distort_of_rule {kind : TextureKind} {eval : EvalKind}
    {strength : Binary32} (rule : kind.rule eval = .distort strength) :
    kind = .distort strength := by
  cases kind <;> cases eval <;> cases rule <;> rfl

namespace Machine

variable {table : Table} {id : NodeId} {node : Node} {kind : EvalKind} {hit : HitPoint}
  {value : Value}

theorem transfer_read {α : Type} {operands : Operands α} {values rest : List Binary32} {result : α}
    {window : Window} (reads : operands.run values = .ok (result, rest)) :
    Transfer (read values operands) [] window result window := by
  rw [read, reads]
  exact .pure result window

/-! ## Own instructions -/

theorem transfer_closedValue_leaf (position : Nat) (rule : node.kind.rule kind = .leaf)
    {rest : List Binary32}
    (combined : (Combine.value? table.images node.kind kind hit).run [] = .ok (some value, rest)) :
    Transfer (closedValue table position node kind) [] ⟨hit, []⟩ (some value) ⟨hit, []⟩ := by
  rw [closedValue, rule]
  apply (transfer_hit _).before
  exact transfer_read combined

theorem transfer_closedValue_combinator (position : Nat) {children : List ChildEval}
    (rule : node.kind.rule kind = .combinator children) {operands rest : List Binary32}
    (width : operands.length = ChildEval.totalWidth children kind)
    (few : operands.length ≤ maxOperands)
    (combined : (Combine.value? table.images node.kind kind hit).run operands =
      .ok (some value, rest)) :
    Transfer (closedValue table position node kind) [] ⟨hit, operands⟩ (some value) ⟨hit, []⟩ := by
  simp only [closedValue, rule, ← width]
  apply (transfer_popOperands position hit [] operands few).before
  apply (transfer_hit _).before
  exact transfer_read combined

/-- What the first step of a projection puts on the stack. -/
def savedProjection (hit : HitPoint) (point : Vec3) : List Binary32 :=
  hit.uv.toList ++ (Pattern.triplanarWeights hit.shadingNormal).toList ++ point.toList

theorem transfer_closedValue_triplanar (position : Nat) {mapping : SpaceMapping}
    (rule : node.kind.rule kind = .triplanar mapping) (axis : Axis) (point c0 c1 c2 : Vec3)
    {rest : List Binary32}
    (combined : (Combine.value? table.images node.kind kind hit).run
      (c0.toList ++ c1.toList ++ c2.toList) = .ok (some value, rest)) :
    Transfer (closedValue table position node kind) []
      ⟨hit.along point axis, savedProjection hit point ++ (c0.toList ++ c1.toList ++ c2.toList)⟩
      (some value) ⟨hit, []⟩ := by
  rcases TextureKind.eq_triplanar_of_rule rule with ⟨projection, not_bump⟩
  rw [closedValue, rule]
  refine (transfer_pop position _ (savedProjection hit point)
    (c0.toList ++ c1.toList ++ c2.toList)).before ?_
  apply (transfer_pop position _ [] (savedProjection hit point)).before
  have saved : readProjection.run (savedProjection hit point) =
      .ok ((hit.uv, Pattern.triplanarWeights hit.shadingNormal), point.toList) := rfl
  apply (transfer_read saved).before
  apply (transfer_hit _).before
  apply (transfer_setHit _ _).before
  have blended : ∀ weights, (readBlend weights).run (c0.toList ++ c1.toList ++ c2.toList) =
      .ok (Pattern.triplanarBlend weights c0 c1 c2, []) := fun _ => rfl
  apply (transfer_read (blended _)).before
  rw [projection] at combined
  cases kind with
  | float | spectrum =>
      cases combined
      exact .pure _ _
  | bump => exact absurd rfl not_bump

theorem transfer_closedValue_distort (position : Nat) {strength : Binary32}
    (rule : node.kind.rule kind = .distort strength) (moved : Vec3) (movedUv : Vec2) (offset : Vec3)
    {result rest : List Binary32} (width : result.length = kind.width)
    (combined : (Combine.value? table.images node.kind kind hit).run (offset.toList ++ result) =
      .ok (some value, rest)) :
    Transfer (closedValue table position node kind) []
      ⟨hit.withPlacement moved movedUv, offset.toList ++ hit.placement ++ result⟩
      (some value) ⟨hit, []⟩ := by
  have few : result.length ≤ maxOperands := by
    rw [width]
    cases kind <;> decide
  simp only [closedValue, rule, ← width]
  apply (transfer_popOperands position _ (offset.toList ++ hit.placement) result few).before
  apply (transfer_pop position _ offset.toList hit.placement).before
  apply (transfer_pop position _ [] offset.toList).before
  have placed : readPlacement.run hit.placement = .ok ((hit.position, hit.uv), []) := rfl
  apply (transfer_read placed).before
  apply (transfer_hit _).before
  apply (transfer_setHit _ _).before
  apply (transfer_hit _).before
  exact transfer_read combined

/-- The own instruction of a node puts the value on the stack that it has combined. -/
theorem transfer_closedStep {position : Nat} {start : Window} (id : NodeId)
    (closed : Transfer (closedValue table position node kind) [] start (some value) ⟨hit, []⟩)
    (isOf : value.IsOf kind) :
    Transfer (closedStep table position id node kind) [⟨position, kind.width⟩] start ()
      ⟨hit, value.toList⟩ := by
  rw [← isOf.toList_length]
  exact closed.before (transfer_push position hit [] value.toList)

/-! ## Instructions of a node -/

variable (program : Program)

theorem step_eq_runOp (position : Nat) (op : Op) (found : table.node? id = some node) :
    step program table position ⟨id, op⟩ = runOp program table position id node op := by
  simp only [step, found, demand, pure_bind]

/-- Without samples, the own instruction takes operands and pushes the value. -/
theorem step_eval_eq_closedStep (position : Nat) (found : table.node? id = some node)
    (closed : node.kind.rule kind ≠ .genericBump) :
    step program table position ⟨id, .eval kind⟩ = closedStep table position id node kind := by
  rw [step_eq_runOp program position _ found]
  exact if_neg closed

theorem transfer_eval {position : Nat} {start : Window} (found : table.node? id = some node)
    (closed : node.kind.rule kind ≠ .genericBump)
    (combined : Transfer (closedValue table position node kind) [] start (some value) ⟨hit, []⟩)
    (isOf : value.IsOf kind) :
    Transfer (step program table position ⟨id, .eval kind⟩) [⟨position, kind.width⟩] start ()
      ⟨hit, value.toList⟩ := by
  rw [step_eval_eq_closedStep program position found closed]
  exact transfer_closedStep id combined isOf

/-- What the own instruction of a sampled bump does once it has taken the last sample. -/
def finishSamples (program : Program) (position : Nat) : Action Unit := do
  let heightV ← read (← pop position 1) Operands.float
  let (height, state, heightU) ← read (← pop position 10) readSamples
  setHit ((← Machine.hit).withState state)
  let normal :=
    Bump.finiteDifference (← Machine.hit) program.bumpSampleDistance height heightU heightV
  push position normal.toList

/-- The own instruction of a sampled bump takes the last sample as the own instruction of
the number would. -/
theorem step_bump_eq_closedStep (position : Nat) (found : table.node? id = some node)
    (sampled : node.kind.rule .bump = .genericBump) :
    step program table position ⟨id, .eval .bump⟩ =
      closedStep table position id node .float >>= fun _ => finishSamples program position := by
  rw [step_eq_runOp program position _ found]
  simp only [runOp, evalStep, if_pos sampled, sampledBump, finishSamples, bind_assoc, pure_bind]
  rfl

theorem transfer_finishSamples (position : Nat) (hit : HitPoint)
    (height heightU heightV : Binary32) :
    Transfer (finishSamples program position) [⟨position, 3⟩]
      ⟨Bump.offsetV hit program.bumpSampleDistance,
        [height] ++ hit.state.toList ++ [heightU] ++ [heightV]⟩ ()
      ⟨hit,
        (Bump.finiteDifference hit program.bumpSampleDistance height heightU heightV).toList⟩ := by
  apply (transfer_pop position _ ([height] ++ hit.state.toList ++ [heightU]) [heightV]).before
  have last : Operands.float.run [heightV] = .ok (heightV, []) := rfl
  apply (transfer_read last).before
  apply (transfer_pop position _ [] ([height] ++ hit.state.toList ++ [heightU])).before
  have opened : readSamples.run ([height] ++ hit.state.toList ++ [heightU]) =
      .ok ((height, hit.state, heightU), []) := rfl
  apply (transfer_read opened).before
  apply (transfer_hit _).before
  apply (transfer_setHit _ _).before
  apply (transfer_hit _).before
  exact transfer_push position hit []
    (Bump.finiteDifference hit program.bumpSampleDistance height heightU heightV).toList

/-! ## Instructions that prepare a lookup -/

/-- Save surface coordinates, weights and point, and project along the first axis. -/
theorem transfer_startProjection (position : Nat) (hit : HitPoint) (point : Vec3) :
    Transfer (startProjection position hit point) [⟨position, 2⟩, ⟨position, 5⟩, ⟨position, 8⟩]
      ⟨hit, []⟩ () ⟨hit.along point .x, savedProjection hit point⟩ := by
  have saved_uv := transfer_push position hit [] hit.uv.toList
  have saved_weights := transfer_push position hit hit.uv.toList
    (Pattern.triplanarWeights hit.shadingNormal).toList
  have saved_point := transfer_push position hit
    (hit.uv.toList ++ (Pattern.triplanarWeights hit.shadingNormal).toList) point.toList
  exact saved_uv.bind (saved_weights.bind (saved_point.bind (transfer_setHit _ _)))

/-- Project the saved point along an axis, under the colours that have been looked up. -/
theorem transfer_continueProjection (position : Nat) (start hit : HitPoint) (point : Vec3)
    (axis : Axis) {colors : List Binary32} (looked_up : colors.length = 3 * axis.index) :
    Transfer (continueProjection position axis) [] ⟨hit, savedProjection start point ++ colors⟩ ()
      ⟨hit.along point axis, savedProjection start point ++ colors⟩ := by
  have seen := transfer_peek position hit
    (start.uv.toList ++ (Pattern.triplanarWeights start.shadingNormal).toList) point.toList colors
  rw [← List.append_assoc, looked_up] at seen
  refine Transfer.before seen ?_
  have opened : Operands.vector.run point.toList = .ok (point, []) := rfl
  apply (transfer_read opened).before
  exact (transfer_hit _).before (transfer_setHit _ _)

theorem transfer_bumpOffsetU (position : Nat) (found : table.node? id = some node)
    (hit : HitPoint) (height : Binary32) :
    Transfer (step program table position ⟨id, .bumpOffsetU⟩) [⟨position, 9⟩] ⟨hit, [height]⟩ ()
      ⟨Bump.offsetU hit program.bumpSampleDistance, [height] ++ hit.state.toList⟩ := by
  rw [step_eq_runOp program position _ found]
  apply (transfer_hit _).before
  have saved := transfer_push position hit [height] hit.state.toList
  exact saved.bind ((transfer_hit _).before (transfer_setHit _ _))

theorem transfer_bumpOffsetV (position : Nat) (found : table.node? id = some node)
    (hit : HitPoint) (height heightU : Binary32) :
    Transfer (step program table position ⟨id, .bumpOffsetV⟩) []
      ⟨Bump.offsetU hit program.bumpSampleDistance, [height] ++ (hit.state.toList ++ [heightU])⟩ ()
      ⟨Bump.offsetV hit program.bumpSampleDistance,
        [height] ++ (hit.state.toList ++ [heightU])⟩ := by
  rw [step_eq_runOp program position _ found]
  apply (transfer_peek position _ [height] hit.state.toList [heightU]).before
  have opened : readState.run hit.state.toList = .ok (hit.state, []) := rfl
  apply (transfer_read opened).before
  exact (transfer_hit _).before (transfer_setHit _ _)

theorem transfer_firstProjection (position : Nat) (found : table.node? id = some node)
    {mapping : SpaceMapping} (projection : node.kind = .triplanar mapping) (hit : HitPoint) :
    Transfer (step program table position ⟨id, .triplanarStep .x⟩)
      [⟨position, 2⟩, ⟨position, 5⟩, ⟨position, 8⟩] ⟨hit, []⟩ ()
      ⟨hit.along (mapping.apply hit) .x, savedProjection hit (mapping.apply hit)⟩ := by
  have point : projectedPoint? node hit = some (mapping.apply hit) := by
    rw [projectedPoint?, projection]
    rfl
  rw [step_eq_runOp program position _ found]
  apply (transfer_hit _).before
  simp only [point]
  exact (transfer_hit _).before (transfer_startProjection position hit (mapping.apply hit))

theorem transfer_nextProjection (position : Nat) (found : table.node? id = some node)
    {mapping : SpaceMapping} (projection : node.kind = .triplanar mapping)
    (start hit : HitPoint) (point : Vec3) (axis : Axis) (later : axis ≠ .x)
    (colors : List Binary32) (looked_up : colors.length = 3 * axis.index) :
    Transfer (step program table position ⟨id, .triplanarStep axis⟩) []
      ⟨hit, savedProjection start point ++ colors⟩ ()
      ⟨hit.along point axis, savedProjection start point ++ colors⟩ := by
  have projected : projectedPoint? node hit = some (mapping.apply hit) := by
    rw [projectedPoint?, projection]
    rfl
  have continued := transfer_continueProjection position start hit point axis looked_up
  rw [step_eq_runOp program position _ found]
  apply (transfer_hit _).before
  simp only [projected]
  cases axis with
  | x => exact absurd rfl later
  | y | z => exact continued

theorem transfer_distortSetup (position : Nat) (found : table.node? id = some node)
    {strength : Binary32} (displaces : node.kind = .distort strength) (hit : HitPoint)
    (offset : Vec3) :
    Transfer (step program table position ⟨id, .distortSetup⟩) [⟨position, 8⟩]
      ⟨hit, offset.toList⟩ ()
      ⟨Pattern.distort hit offset strength, offset.toList ++ hit.placement⟩ := by
  have displaced : displacement? node = some strength := by
    rw [displacement?, displaces]
    rfl
  rw [step_eq_runOp program position _ found]
  simp only [runOp, displaced]
  apply (transfer_peek position hit [] offset.toList []).before
  have opened : Operands.vector.run offset.toList = .ok (offset, []) := rfl
  apply (transfer_read opened).before
  apply (transfer_hit _).before
  have saved := transfer_push position hit offset.toList hit.placement
  exact saved.bind ((transfer_hit _).before (transfer_setHit _ _))

end Machine

end TextureGraph
