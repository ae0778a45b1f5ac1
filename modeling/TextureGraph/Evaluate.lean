import TextureGraph.Combine

/-!
# Recursive evaluation

The meaning of a texture: its inputs are evaluated first, then combined. Which
inputs are visited, under which kind and at which hit point is written out here
on its own; compiled programs are held against it.
-/

namespace TextureGraph

/-- Evaluation of the input in a slot, under a kind and at a hit point. -/
abbrev Visit := (slot : Nat) → EvalKind → HitPoint → Except Fault Value

namespace Visit

/-- Values of several inputs at one hit point, one behind the other. -/
def all (visit : Visit) (hit : HitPoint) : List (Nat × EvalKind) → Except Fault (List Binary32)
  | [] => .ok []
  | (slot, eval) :: rest => do
      let value ← visit slot eval hit
      let values ← all visit hit rest
      return value.toList ++ values

/-- Colours of the first three inputs, each at its own projection of a point. -/
def projected (visit : Visit) (hit : HitPoint) (p : Vec3) : Except Fault (List Binary32) := do
  let c0 ← visit 0 .spectrum { hit with uv := Pattern.triplanarUv p 0 }
  let c1 ← visit 1 .spectrum { hit with uv := Pattern.triplanarUv p 1 }
  let c2 ← visit 2 .spectrum { hit with uv := Pattern.triplanarUv p 2 }
  return c0.toList ++ c1.toList ++ c2.toList

/-- The offset in the second input, and the first input at the moved hit point. -/
def displaced (visit : Visit) (hit : HitPoint) (strength : Binary32) (eval : EvalKind) :
    Except Fault (List Binary32) := do
  let offset := (← visit 1 .spectrum hit).toVector
  let value ← visit 0 eval (Pattern.distort hit offset strength)
  return offset.toList ++ value.toList

end Visit

namespace Node

/-- Operands of a node, or nothing where its bump has no closed form. -/
def operands? (node : Node) (visit : Visit) (eval : EvalKind) (hit : HitPoint) :
    Option (Except Fault (List Binary32)) :=
  let each := fun inputs => some (visit.all hit inputs)
  match eval with
  | .bump =>
      match node.kind with
      | .constFloat _ | .constColor _ => each []
      | .add | .subtract => each [(0, .bump), (1, .bump)]
      | .scale => each [(0, .bump), (1, .bump), (0, .float), (1, .float)]
      | .mix =>
          each [(1, .bump), (2, .bump), (0, .bump), (1, .float), (2, .float), (0, .float)]
      | .normalMap _ => each [(0, .spectrum)]
      | .distort strength => some (visit.displaced hit strength .bump)
      | _ => none
  | eval =>
      match node.kind with
      | .constFloat _ | .constColor _ | .imageMap _ _ _ | .hitPointColor | .hitPointAlpha
      | .hitPointGrey _ | .uv _ | .fbm _ _ _ | .wrinkled _ _ _ | .windy _ | .marble _ _ _ _ _
      | .normalMap _ => each []
      | .add | .subtract | .scale | .divide | .abs | .clamp _ _ | .dots _
      | .checkerboard2d _ | .checkerboard3d _ | .bilerp =>
          each ((List.range node.children.length).map (·, eval))
      | .mix => each [(0, .float), (1, eval), (2, eval)]
      | .power | .modulo => each [(0, eval), (1, .float)]
      | .band _ => each [(0, .float)]
      | .hsv => each [(0, .spectrum), (1, .float), (2, .float), (3, .float)]
      | .splitFloat3 _ => each [(0, .spectrum)]
      | .makeFloat3 => each [(0, .float), (1, .float), (2, .float)]
      | .triplanar mapping => some (visit.projected hit (mapping.apply hit))
      | .distort strength => some (visit.displaced hit strength eval)

/-- Value of a node by combining its operands, where there is such a form. -/
def closedForm? (node : Node) (images : List Image) (visit : Visit) (eval : EvalKind)
    (hit : HitPoint) : Except Fault (Option Value) := do
  match node.operands? visit eval hit with
  | none => return none
  | some operands =>
      let (value, _) ← (Combine.value? images node.kind eval hit).run (← operands)
      return value

/-- Height of a node at a hit point, as a sample for its bump. -/
def height (node : Node) (images : List Image) (visit : Visit) (hit : HitPoint) :
    Except Fault Binary32 := do
  let value ← Fault.noClosedForm.demand (← node.closedForm? images visit .float hit)
  return value.toFloat

/-- Bumped normal of a node from its height at three points. -/
def sampledBump (node : Node) (images : List Image) (visit : Visit) (distance : Binary32)
    (hit : HitPoint) : Except Fault Vec3 := do
  let height ← node.height images visit hit
  let heightU ← node.height images visit (Bump.offsetU hit distance)
  let heightV ← node.height images visit (Bump.offsetV hit distance)
  return Bump.finiteDifference hit distance height heightU heightV

/-- Value of a node from the values of its inputs. -/
def value (node : Node) (images : List Image) (visit : Visit) (distance : Binary32)
    (eval : EvalKind) (hit : HitPoint) : Except Fault Value := do
  match ← node.closedForm? images visit eval hit with
  | some value => return value
  | none => Value.vector <$> node.sampledBump images visit distance hit

end Node

namespace Table

/-- Value of a node of a table; `distance` is the step of finite differences. The
recursion goes to earlier nodes only. -/
def evaluate (table : Table) (distance : Binary32) (id : NodeId) (eval : EvalKind)
    (hit : HitPoint) : Except Fault Value :=
  match table.node? id with
  | none => .error (.missingNode id)
  | some node =>
      node.value table.images
        (fun slot childEval childHit =>
          match node.child? slot with
          | none => .error (.missingChild slot)
          | some child =>
              if child < id then table.evaluate distance child childEval childHit
              else .error (.forwardReference child))
        distance eval hit
termination_by id

/-- Number of a node. -/
def evaluateFloat (table : Table) (distance : Binary32) (id : NodeId) (hit : HitPoint) :
    Except Fault Binary32 :=
  Value.toFloat <$> table.evaluate distance id .float hit

/-- Colour of a node. -/
def evaluateSpectrum (table : Table) (distance : Binary32) (id : NodeId) (hit : HitPoint) :
    Except Fault Color :=
  Value.toVector <$> table.evaluate distance id .spectrum hit

/-- Bumped normal of a node. -/
def evaluateBump (table : Table) (distance : Binary32) (id : NodeId) (hit : HitPoint) :
    Except Fault Vec3 :=
  Value.toVector <$> table.evaluate distance id .bump hit

end Table

end TextureGraph
