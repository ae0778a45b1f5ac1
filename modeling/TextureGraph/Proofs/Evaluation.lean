import TextureGraph.Program.Instruction
import TextureGraph.Proofs.Operands

/-!
# Evaluation by rules

The recursive evaluator writes out for every kind of texture which inputs it visits.
For a node with the right number of inputs these are the visits that the rule of the
node lists.
-/

namespace TextureGraph

/-- A hit point whose surface coordinates are those of a point across an axis. -/
def HitPoint.along (hit : HitPoint) (point : Vec3) (axis : Axis) : HitPoint :=
  { hit with uv := Pattern.triplanarUv point axis.index }

namespace Visit

variable {visit : Visit} {hit : HitPoint}

theorem projected_eq_ok {point c0 c1 c2 : Vec3}
    (first : visit 0 .spectrum (hit.along point .x) = .ok (.vector c0))
    (second : visit 1 .spectrum (hit.along point .y) = .ok (.vector c1))
    (third : visit 2 .spectrum (hit.along point .z) = .ok (.vector c2)) :
    visit.projected hit point = .ok (c0.toList ++ c1.toList ++ c2.toList) := by
  change (do
    let c0 ← visit 0 .spectrum (hit.along point .x)
    let c1 ← visit 1 .spectrum (hit.along point .y)
    let c2 ← visit 2 .spectrum (hit.along point .z)
    return c0.toList ++ c1.toList ++ c2.toList) = _
  rw [first, second, third]
  rfl

theorem displaced_eq_ok {strength : Binary32} {eval : EvalKind} {offset : Vec3} {value : Value}
    (first : visit 1 .spectrum hit = .ok (.vector offset))
    (second : visit 0 eval (Pattern.distort hit offset strength) = .ok value) :
    visit.displaced hit strength eval = .ok (offset.toList ++ value.toList) := by
  rw [displaced, first]
  change (do
    let value ← visit 0 eval (Pattern.distort hit offset strength)
    return offset.toList ++ value.toList) = _
  rw [second]
  rfl

end Visit

namespace Node

variable {node : Node} {visit : Visit} {hit : HitPoint}

/-- Operands by a rule, where it does not call for samples. -/
def ruleOperands? (rule : Rule) (visit : Visit) (eval : EvalKind) (hit : HitPoint) :
    Option (Except Fault (List Binary32)) :=
  match rule with
  | .leaf => some (.ok [])
  | .combinator children =>
      some (visit.all hit (children.map fun child => (child.slot, child.resolve eval)))
  | .genericBump => none
  | .triplanar mapping => some (visit.projected hit (mapping.apply hit))
  | .distort strength => some (visit.displaced hit strength eval)

/-- Only the number of the inputs is left open by the rules of some kinds. -/
theorem operands?_eq_ruleOperands? (arity : node.children.length = node.kind.arity)
    (eval : EvalKind) :
    node.operands? visit eval hit = ruleOperands? (node.kind.rule eval) visit eval hit := by
  rcases node with ⟨name, kind, children⟩
  replace arity : children.length = kind.arity := arity
  cases kind <;> cases eval <;> simp only [operands?, arity] <;> rfl

/-- Where a node has a number, that number is its height. -/
theorem height_eq_ok_of_value_eq_ok {images : List Image} {distance number : Binary32}
    (evaluated : node.value images visit distance .float hit = .ok (.float number)) :
    node.height images visit hit = .ok number := by
  rw [value] at evaluated
  rw [height]
  cases closed : node.closedForm? images visit .float hit with
  | error fault =>
      rw [closed] at evaluated
      cases evaluated
  | ok form =>
      rw [closed, Outcome.ok_bind] at evaluated
      cases form with
      | some value =>
          cases evaluated
          rfl
      | none =>
          -- Samples make a vector.
          rw [Outcome.map_eq_map] at evaluated
          cases sampled : node.sampledBump images visit distance hit with
          | error fault | ok normal =>
              rw [sampled] at evaluated
              cases evaluated

end Node

namespace Table

variable {table : Table} {distance : Binary32} {id : NodeId} {node : Node} {eval : EvalKind}
  {hit : HitPoint}

/-- Evaluation of the inputs of the node at a position. -/
def visit (table : Table) (distance : Binary32) (id : NodeId) (node : Node) : Visit :=
  fun slot childEval childHit =>
    match node.child? slot with
    | none => .error (.missingChild slot)
    | some child =>
        if child < id then table.evaluate distance child childEval childHit
        else .error (.forwardReference child)

theorem evaluate_eq_value (found : table.node? id = some node) :
    table.evaluate distance id eval hit =
      node.value table.images (table.visit distance id node) distance eval hit := by
  rw [evaluate, found]
  rfl

theorem visit_eq_evaluate {slot input : Nat} (filled : node.child? slot = some input)
    (earlier : input < id) :
    table.visit distance id node slot eval hit = table.evaluate distance input eval hit := by
  simp only [visit, filled, if_pos earlier]

/-- A node whose operands are known has the value that they combine to. -/
theorem evaluate_eq_ok_of_operands (found : table.node? id = some node)
    (arity : node.children.length = node.kind.arity) {operands rest : List Binary32} {value : Value}
    (visited : Node.ruleOperands? (node.kind.rule eval) (table.visit distance id node) eval hit =
      some (.ok operands))
    (combined : (Combine.value? table.images node.kind eval hit).run operands =
      .ok (some value, rest)) :
    table.evaluate distance id eval hit = .ok value := by
  rw [evaluate_eq_value found]
  simp only [Node.value, Node.closedForm?, Node.operands?_eq_ruleOperands? arity, visited,
    Outcome.ok_bind, combined, Outcome.pure_eq_ok]

/-- A node whose rule calls for samples has the normal that three of its numbers make. -/
theorem evaluate_eq_ok_of_samples (found : table.node? id = some node)
    (arity : node.children.length = node.kind.arity) (sampled : node.kind.rule .bump = .genericBump)
    {height heightU heightV : Binary32}
    (sample : table.evaluate distance id .float hit = .ok (.float height))
    (sampleU :
      table.evaluate distance id .float (Bump.offsetU hit distance) = .ok (.float heightU))
    (sampleV :
      table.evaluate distance id .float (Bump.offsetV hit distance) = .ok (.float heightV)) :
    table.evaluate distance id .bump hit =
      .ok (.vector (Bump.finiteDifference hit distance height heightU heightV)) := by
  rw [evaluate_eq_value found] at sample sampleU sampleV ⊢
  have open_form : node.closedForm? table.images (table.visit distance id node) .bump hit =
      .ok none := by
    rw [Node.closedForm?, Node.operands?_eq_ruleOperands? arity, sampled]
    rfl
  simp only [Node.value, open_form, Node.sampledBump, Node.height_eq_ok_of_value_eq_ok sample,
    Node.height_eq_ok_of_value_eq_ok sampleU, Node.height_eq_ok_of_value_eq_ok sampleV,
    Outcome.ok_bind, Outcome.pure_eq_ok, Outcome.map_eq_map, Outcome.map_ok]

end Table

end TextureGraph
