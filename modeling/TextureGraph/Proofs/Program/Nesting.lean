import TextureGraph.Proofs.Program.Code
import TextureGraph.Proofs.Table.Built

/-!
# Nesting that is deep enough

The inputs of a node stand before it, so its place in the table bounds how deep its code
can nest. Given that much room for nesting, every node has code.
-/

namespace TextureGraph

/-- Input slots that code by a rule reads. -/
def Rule.slots : Rule → List Nat
  | leaf | genericBump => []
  | combinator children => children.map ChildEval.slot
  | triplanar _ => [0, 1, 2]
  | distort _ => [1, 0]

/-- No rule reads a slot that the kind of texture does not have. -/
theorem TextureKind.slot_lt_arity_of_rule (kind : TextureKind) (eval : EvalKind) :
    ∀ slot ∈ (kind.rule eval).slots, slot < kind.arity := by
  have all : (kind.rule eval).slots.all (· < kind.arity) := by
    cases kind <;> cases eval <;> rfl
  simpa using all

/-- A node has code where every input that it reads has code. -/
theorem Code.exists_composed {part : NodeId → EvalKind → Code → Prop} {id : NodeId} {node : Node}
    {kind : EvalKind}
    (inputs : ∀ slot ∈ (node.kind.rule kind).slots, ∀ inputKind,
      ∃ code, node.InputHas slot (part · inputKind code))
    (sample : node.kind.rule kind = .genericBump → ∃ code, part id .float code) :
    ∃ code, Composed part id node kind code := by
  cases rule : node.kind.rule kind with
  | leaf => exact ⟨_, .leaf rule⟩
  | combinator children =>
      rw [rule] at inputs
      have each : ∀ child ∈ children,
          ∃ code, node.InputHas child.slot (part · (child.resolve kind) code) :=
        fun child member => inputs child.slot (List.mem_map_of_mem member) _
      rcases Outcome.exists_forall₂ each with ⟨codes, parts⟩
      exact ⟨_, .combinator rule parts⟩
  | genericBump =>
      rcases sample rule with ⟨code, samplePart⟩
      exact ⟨_, .genericBump rule samplePart⟩
  | triplanar mapping =>
      simp only [rule, Rule.slots, List.forall_mem_cons] at inputs
      rcases inputs with ⟨inputs0, inputs1, inputs2, _⟩
      rcases inputs0 .spectrum with ⟨c0, part0⟩
      rcases inputs1 .spectrum with ⟨c1, part1⟩
      rcases inputs2 .spectrum with ⟨c2, part2⟩
      exact ⟨_, .triplanar rule part0 part1 part2⟩
  | distort strength =>
      simp only [rule, Rule.slots, List.forall_mem_cons] at inputs
      rcases inputs with ⟨offsetInputs, movedInputs, _⟩
      rcases offsetInputs .spectrum with ⟨offset, offsetPart⟩
      rcases movedInputs kind with ⟨moved, movedPart⟩
      exact ⟨_, .distort rule offsetPart movedPart⟩

/-- The inputs of a node fill all the slots that its rule reads. -/
theorem Node.Stands.exists_inputHas {node : Node} {imageCount : Nat} {id : NodeId}
    (stands : node.Stands imageCount id) {kind : EvalKind} {slot : Nat}
    (used : slot ∈ (node.kind.rule kind).slots) : node.InputHas slot (· < id) := by
  have filled : slot < node.children.length := by
    rw [stands.children_length]
    exact node.kind.slot_lt_arity_of_rule kind slot used
  exact ⟨_, List.getElem?_eq_getElem filled, stands.child_lt _ (List.getElem_mem filled)⟩

namespace Table

variable {table : Table} {id : NodeId}

/-- Two levels of nesting for each node up to and including its own are enough. A bump takes
both of them, where it samples the number of its node. -/
theorem WellFormed.exists_nodeCode (wellFormed : table.WellFormed) (limit : Nat)
    (inside : id < table.size) (kind : EvalKind) :
    ∃ code, table.nodeCode limit (2 * id + 2) id kind = .ok code := by
  induction id using Nat.strongRecOn generalizing kind with
  | ind id ih =>
      have found : table.node? id = some table.nodes[id] := List.getElem?_eq_getElem inside
      have within {budget : Nat} (room : 2 * id ≤ budget) (kind : EvalKind)
          (sample : table.nodes[id].kind.rule kind = .genericBump →
            ∃ code, table.nodeCode limit budget id .float = .ok code) :
          ∃ code, table.nodeCode limit (budget + 1) id kind = .ok code := by
        refine (Code.exists_composed (fun slot used inputKind => ?_) sample).imp fun code composed =>
          nodeCode_succ_eq_ok_iff.mpr ⟨_, found, composed⟩
        rcases (wellFormed.stands found).exists_inputHas used with ⟨input, filled, earlier⟩
        rcases ih input earlier (Nat.lt_trans earlier inside) inputKind with ⟨code, made⟩
        have fits : 2 * input + 2 ≤ budget :=
          Nat.le_trans (Nat.mul_le_mul_left 2 (Nat.succ_le_of_lt earlier)) room
        exact ⟨code, input, filled, nodeCode_of_le fits made⟩
      have number : ∃ code, table.nodeCode limit (2 * id + 1) id .float = .ok code :=
        within (Nat.le_refl _) .float fun sampled =>
          nomatch TextureKind.eq_bump_of_rule_eq_genericBump sampled
      exact within (Nat.le_succ _) kind fun _ => number

end Table

end TextureGraph
