import TextureGraph.Combine
import TextureGraph.Machine.Action
import TextureGraph.Program.Basic
import TextureGraph.Rule

/-!
# The stack machine

Runs a span of a program on a hit point and a value stack. Instructions that
prepare a moved lookup overwrite the surface state and keep the old one on the
stack; the instruction that combines the results restores it. A run that is cut
short leaves hit point and stack as they were at that moment.
-/

namespace TextureGraph

namespace Machine

/-- The largest number of operands of a combining instruction. -/
def maxOperands : Nat := 12

/-! ## Stack access -/

/-- Push values at an instruction. -/
def push (position : Nat) (values : List Binary32) : Action Unit := do
  let state ← get
  match state.stack.push? values with
  | some stack => set { state with stack }
  | none => .fail (.stackOverflow position state.stack.capacity)

/-- Pop values at an instruction. -/
def pop (position count : Nat) : Action (List Binary32) := do
  let state ← get
  match state.stack.pop? count with
  | some (values, stack) =>
      set { state with stack }
      return values
  | none => .fail (.stackUnderflow position)

/-- Read values below the top at an instruction. -/
def peek (position skip count : Nat) : Action (List Binary32) := do
  let state ← get
  match state.stack.peek? skip count with
  | some values => return values
  | none => .fail (.stackUnderflow position)

/-- Pop as many values as an operand buffer can take. -/
def popOperands (position count : Nat) : Action (List Binary32) := do
  let state ← get
  if maxOperands < count ∧ count ≤ state.stack.size then
    .fail (.fault (.tooManyOperands count))
  else
    pop position count

/-- Read values as operands. -/
def read {α : Type} (values : List Binary32) (operands : Operands α) : Action α :=
  match operands.run values with
  | .ok (result, _) => return result
  | .error e => .fail (.fault e)

def demand {α : Type} (fault : Fault) (value : Option α) : Action α :=
  match value with
  | some value => return value
  | none => .fail (.fault fault)

def hit : Action HitPoint :=
  return (← get).hit

def setHit (hit : HitPoint) : Action Unit :=
  modify fun state => { state with hit }

/-- Eight saved numbers as a surface state. -/
def readState : Operands SurfaceState := do
  let position ← Operands.vector
  let shadingNormal ← Operands.vector
  let uv ← Operands.vector2
  return ⟨position, shadingNormal, uv⟩

/-- Five saved numbers as position and surface coordinates. -/
def readPlacement : Operands (Vec3 × Vec2) := do
  let position ← Operands.vector
  let uv ← Operands.vector2
  return (position, uv)

/-- What a projection has saved, up to the point that its steps have used. -/
def readProjection : Operands (Vec2 × Vec3) := do
  let uv ← Operands.vector2
  let weights ← Operands.vector
  return (uv, weights)

/-- Three looked-up colours under given weights. -/
def readBlend (weights : Vec3) : Operands Color := do
  let c0 ← Operands.vector
  let c1 ← Operands.vector
  let c2 ← Operands.vector
  return Pattern.triplanarBlend weights c0 c1 c2

/-- Ten numbers as the first two samples of a bump with the state saved between them. -/
def readSamples : Operands (Binary32 × SurfaceState × Binary32) := do
  let height ← Operands.float
  let state ← readState
  let heightU ← Operands.float
  return (height, state, heightU)

/-! ## Instructions -/

/-- Value of a node's own instruction, where no samples are involved. -/
def closedValue (table : Table) (position : Nat) (node : Node) (kind : EvalKind) :
    Action (Option Value) := do
  match node.kind.rule kind with
  | .leaf => read [] (Combine.value? table.images node.kind kind (← hit))
  | .combinator children =>
      let operands ← popOperands position (ChildEval.totalWidth children kind)
      read operands (Combine.value? table.images node.kind kind (← hit))
  | .genericBump => return none
  | .triplanar _ =>
      let colors ← pop position 9
      let saved ← pop position 8
      let (uv, weights) ← read saved readProjection
      setHit { (← hit) with uv }
      let color ← read colors (readBlend weights)
      match kind with
      | .float => return some (.float (Color.luminance color))
      | _ => return some (.vector color)
  | .distort _ =>
      let result ← popOperands position kind.width
      let saved ← pop position 5
      let offset ← pop position 3
      let (place, uv) ← read saved readPlacement
      setHit ((← hit).withPlacement place uv)
      read (offset ++ result) (Combine.value? table.images node.kind kind (← hit))

/-- A node's own instruction, where no samples are involved: take operands off the
stack and push the value. -/
def closedStep (table : Table) (position : Nat) (id : NodeId) (node : Node) (kind : EvalKind) :
    Action Unit := do
  match ← closedValue table position node kind with
  | some value => push position value.toList
  | none => .fail (.invalidOp position id (.eval kind))

/-- Bumped normal from the three samples of a node's number. The last sample is
taken here; the others lie on the stack with the saved state between them. -/
def sampledBump (program : Program) (table : Table) (position : Nat) (id : NodeId)
    (node : Node) : Action Value := do
  closedStep table position id node .float
  let heightV ← read (← pop position 1) Operands.float
  let (height, state, heightU) ← read (← pop position 10) readSamples
  setHit ((← hit).withState state)
  return .vector (Bump.finiteDifference (← hit) program.bumpSampleDistance height heightU heightV)

/-- The node's own instruction under a kind of evaluation. -/
def evalStep (program : Program) (table : Table) (position : Nat) (id : NodeId) (node : Node)
    (kind : EvalKind) : Action Unit := do
  if node.kind.rule kind = .genericBump then
    push position (← sampledBump program table position id node).toList
  else
    closedStep table position id node kind

/-- Point of texture space of a node that is projected along the axes. -/
def projectedPoint? (node : Node) (hit : HitPoint) : Option Vec3 :=
  match node.kind.rule .spectrum with
  | .triplanar mapping => some (mapping.apply hit)
  | _ => none

/-- Strength of a node that moves the hit point. -/
def displacement? (node : Node) : Option Binary32 :=
  match node.kind.rule .float with
  | .distort strength => some strength
  | _ => none

/-- Save surface coordinates, weights and point, and go to the first projection. -/
def startProjection (position : Nat) (start : HitPoint) (point : Vec3) : Action Unit := do
  push position start.uv.toList
  push position (Pattern.triplanarWeights start.shadingNormal).toList
  push position point.toList
  setHit { start with uv := Pattern.triplanarUv point 0 }

/-- Go on to the projection across an axis, with the saved point under the colours
looked up so far. -/
def continueProjection (position : Nat) (axis : Axis) : Action Unit := do
  let point ← read (← peek position (3 * axis.index) 3) Operands.vector
  setHit { (← hit) with uv := Pattern.triplanarUv point axis.index }

/-- What an instruction at a position does for its node. -/
def runOp (program : Program) (table : Table) (position : Nat) (id : NodeId) (node : Node)
    (op : Op) : Action Unit := do
  let invalid := ExecError.invalidOp position id op
  match op with
  | .eval kind => evalStep program table position id node kind
  | .bumpOffsetU =>
      push position (← hit).state.toList
      setHit (Bump.offsetU (← hit) program.bumpSampleDistance)
  | .bumpOffsetV =>
      let state ← read (← peek position 1 8) readState
      setHit (Bump.offsetV ((← hit).withState state) program.bumpSampleDistance)
  | .triplanarStep axis =>
      match projectedPoint? node (← hit) with
      | none => .fail invalid
      | some point =>
          match axis with
          | .x => startProjection position (← hit) point
          | axis => continueProjection position axis
  | .distortSetup =>
      match displacement? node with
      | none => .fail invalid
      | some strength =>
          let offset ← read (← peek position 0 3) Operands.vector
          push position (← hit).placement
          setHit (Pattern.distort (← hit) offset strength)

/-- Run the instruction at a position of the program. -/
def step (program : Program) (table : Table) (position : Nat) (instruction : Instruction) :
    Action Unit := do
  let node ← demand (.missingNode instruction.node) (table.node? instruction.node)
  runOp program table position instruction.node node instruction.op

/-! ## Runs -/

/-- Run instructions one behind the other, the first of them at a position. -/
def runCode (program : Program) (table : Table) : (position : Nat) → List Instruction → Action Unit
  | _, [] => return ()
  | position, instruction :: rest => do
      step program table position instruction
      runCode program table (position + 1) rest

/-- Run a span and check that it leaves a result of the width of the kind. -/
def runSpan (program : Program) (table : Table) (id : NodeId) (kind : EvalKind) (span : Span) :
    Action Unit := do
  let base := (← get).stack.size
  runCode program table span.start (program.slice span)
  let size := (← get).stack.size
  if size < base ∨ size - base ≠ kind.width then
    .fail (.resultWidth id kind kind.width (size - base))

/-- Run the span of a node under a kind of evaluation, which leaves its result on
top of the stack. The table has to be as long as the one the program is made from. -/
def execute (program : Program) (table : Table) (id : NodeId) (kind : EvalKind) :
    Action Unit :=
  let outOfRange := ExecError.nodeOutOfRange id program.nodeCount
  if program.nodeCount ≤ id ∨ program.nodeCount ≠ table.size then .fail outOfRange
  else
    match program.span? id kind with
    | none => .fail outOfRange
    | some span =>
        let total := program.instructions.length
        if total < span.stop then .fail (.spanOutOfRange span.start span.length total)
        else runSpan program table id kind span

/-- Run a span on a cleared stack and take its result off. -/
def evaluate (program : Program) (table : Table) (id : NodeId) (kind : EvalKind) :
    Action Value := do
  modify fun state => { state with stack := state.stack.clear }
  execute program table id kind
  let stop := ((program.span? id kind).map Span.stop).getD 0
  let values ← pop stop kind.width
  match kind with
  | .float => Value.float <$> read values Operands.float
  | _ => Value.vector <$> read values Operands.vector

end Machine

/-- An empty stack with room for every span of a program. -/
def ValueStack.forProgram (program : Program) : ValueStack :=
  withCapacity program.maxStackDepth

end TextureGraph
