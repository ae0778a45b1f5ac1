import TextureGraph.Proofs.Evaluation
import TextureGraph.Proofs.Table.Built

/-!
# Nodes that stand elsewhere

Some nodes of a table, and with each of them its inputs, may stand at other positions of
another table. Names apart, nothing about a node depends on where it stands: it has the
same values in both tables.
-/

namespace TextureGraph

namespace Node

/-- A node under another name, the inputs of which stand where `move` says. -/
def relocate (node : Node) (name : String) (move : NodeId → NodeId) : Node :=
  ⟨name, node.kind, node.children.map move⟩

variable {node : Node} {name : String} {move : NodeId → NodeId}

@[simp]
theorem relocate_kind : (node.relocate name move).kind = node.kind := rfl

@[simp]
theorem relocate_child? (slot : Nat) :
    (node.relocate name move).child? slot = (node.child? slot).map move :=
  List.getElem?_map

/-- What a node makes of the values of its inputs depends neither on its name nor on where
the inputs stand. -/
theorem value_relocate (images : List Image) (visit : Visit) (distance : Binary32)
    (eval : EvalKind) (hit : HitPoint) :
    (node.relocate name move).value images visit distance eval hit =
      node.value images visit distance eval hit := by
  have operands_eq (eval : EvalKind) (hit : HitPoint) :
      (node.relocate name move).operands? visit eval hit = node.operands? visit eval hit := by
    simp only [operands?, relocate, List.length_map]
  simp only [value, closedForm?, sampledBump, height, operands_eq, relocate_kind]

end Node

namespace Table

/-- The nodes of a table that are `inside` stand in another table where `move` says. -/
structure Relocation (source target : Table) (inside : NodeId → Prop) (move : NodeId → NodeId) :
    Prop where
  images_eq : target.images = source.images
  found : ∀ {id}, inside id → ∃ node, source.node? id = some node
  moved : ∀ {id node}, inside id → source.node? id = some node →
    ∃ name, target.node? (move id) = some (node.relocate name move)
  child : ∀ {id node}, inside id → source.node? id = some node →
    ∀ child ∈ node.children, inside child

namespace Relocation

variable {source target : Table} {inside : NodeId → Prop} {move : NodeId → NodeId}

/-- A node has the same values wherever it stands. -/
theorem evaluate_eq (relocation : source.Relocation target inside move)
    (sourceFormed : source.WellFormed) (targetFormed : target.WellFormed) {id : NodeId}
    (holds : inside id) (distance : Binary32) (eval : EvalKind) (hit : HitPoint) :
    target.evaluate distance (move id) eval hit = source.evaluate distance id eval hit := by
  induction id using Nat.strongRecOn generalizing eval hit with
  | ind id ih =>
      rcases relocation.found holds with ⟨node, found⟩
      rcases relocation.moved holds found with ⟨name, moved⟩
      have visit_eq : target.visit distance (move id) (node.relocate name move) =
          source.visit distance id node := by
        funext slot childEval childHit
        cases filled : node.child? slot with
        | none => simp only [visit, Node.relocate_child?, filled, Option.map_none]
        | some child =>
            have member := List.mem_of_getElem? filled
            have earlier := (sourceFormed.stands found).child_lt child member
            have filledMoved : (node.relocate name move).child? slot = some (move child) := by
              rw [Node.relocate_child?, filled, Option.map_some]
            have earlierMoved := (targetFormed.stands moved).child_lt (move child)
              (List.mem_of_getElem? filledMoved)
            rw [visit_eq_evaluate filledMoved earlierMoved, visit_eq_evaluate filled earlier]
            exact ih child earlier (relocation.child holds found child member) childEval childHit
      rw [evaluate_eq_value moved, evaluate_eq_value found, visit_eq, relocation.images_eq]
      exact Node.value_relocate _ _ _ _ _

end Relocation

end Table

end TextureGraph
