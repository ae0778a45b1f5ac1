import TextureGraph.Proofs.Program.Nesting
import TextureGraph.Proofs.Evaluation

/-!
# Derivations of values

The recursive evaluator goes to earlier nodes only, because it refuses all others, and it has
a fault ready wherever something is missing. A derivation of a value has neither: it goes to
any node that fills a slot, and it takes every step with exactly the operands that are
combined. Every node of a table has a value by a derivation, which nests no deeper than two
steps for each node up to its own, and by no derivation another one.
-/

namespace TextureGraph

/-- A value of the shape for a kind is a number just where the kind asks for one. -/
theorem Value.IsOf.isFloat_iff {value : Value} {eval : EvalKind} (isOf : value.IsOf eval) :
    (∃ number, value = .float number) ↔ eval = .float := by
  cases eval with
  | float => exact iff_of_true isOf rfl
  | spectrum | bump =>
      rcases isOf with ⟨components, rfl⟩
      simp

namespace Visit

variable {visit other : Visit} {hit : HitPoint} {eval : EvalKind}

/-! ## Visits that answer -/

/-- A visit that has a value of the right shape for each of some slots. -/
def Fills (visit : Visit) (slots : List Nat) : Prop :=
  ∀ slot ∈ slots, ∀ eval hit, ∃ value, visit slot eval hit = .ok value ∧ value.IsOf eval

theorem Fills.exists_all_eq_ok {children : List ChildEval}
    (fills : visit.Fills (children.map ChildEval.slot)) :
    ∃ operands,
      visit.all hit (children.map fun child => (child.slot, child.resolve eval)) = .ok operands ∧
      operands.length = ChildEval.totalWidth children eval := by
  induction children with
  | nil => exact ⟨[], rfl, rfl⟩
  | cons child rest ih =>
      simp only [Fills, List.map_cons, List.forall_mem_cons] at fills
      rcases fills.1 (child.resolve eval) hit with ⟨value, visited, isOf⟩
      rcases ih fills.2 with ⟨operands, visitedRest, length⟩
      refine ⟨value.toList ++ operands, ?_, ?_⟩
      · simp only [List.map_cons, all, visited, visitedRest, Outcome.ok_bind, Outcome.pure_eq_ok]
      · rw [List.length_append, isOf.toList_length, length]
        rfl

theorem Fills.exists_projected_eq_ok (fills : visit.Fills [0, 1, 2]) (point : Vec3) :
    ∃ operands, visit.projected hit point = .ok operands ∧ operands.length = 9 := by
  have lookup (slot : Nat) (member : slot ∈ [0, 1, 2]) (axis : Axis) :
      ∃ color, visit slot .spectrum (hit.along point axis) = .ok (.vector color) := by
    rcases fills slot member .spectrum (hit.along point axis) with ⟨_, visited, color, rfl⟩
    exact ⟨color, visited⟩
  rcases lookup 0 (by decide) .x with ⟨c0, first⟩
  rcases lookup 1 (by decide) .y with ⟨c1, second⟩
  rcases lookup 2 (by decide) .z with ⟨c2, third⟩
  exact ⟨_, projected_eq_ok first second third, rfl⟩

theorem Fills.exists_displaced_eq_ok (fills : visit.Fills [1, 0]) (strength : Binary32) :
    ∃ operands, visit.displaced hit strength eval = .ok operands ∧
      operands.length = 3 + eval.width := by
  rcases fills 1 (by decide) .spectrum hit with ⟨_, first, offset, rfl⟩
  rcases fills 0 (by decide) eval (Pattern.distort hit offset strength) with ⟨value, second, isOf⟩
  refine ⟨_, displaced_eq_ok first second, ?_⟩
  rw [List.length_append, isOf.toList_length]
  rfl

/-! ## Visits that give the answers of others -/

/-- A visit that gives every answer that another one gives. -/
def Covers (visit other : Visit) : Prop :=
  ∀ {slot eval hit value}, other slot eval hit = .ok value → visit slot eval hit = .ok value

theorem Covers.all_eq_ok (covers : visit.Covers other) {inputs : List (Nat × EvalKind)}
    {operands : List Binary32} (visited : other.all hit inputs = .ok operands) :
    visit.all hit inputs = .ok operands := by
  induction inputs generalizing operands with
  | nil => exact visited
  | cons input rest ih =>
      simp only [all, Outcome.bind_eq_ok_iff] at visited ⊢
      rcases visited with ⟨value, first, values, more, made⟩
      exact ⟨value, covers first, values, ih more, made⟩

theorem Covers.projected_eq_ok (covers : visit.Covers other) {point : Vec3}
    {operands : List Binary32} (visited : other.projected hit point = .ok operands) :
    visit.projected hit point = .ok operands := by
  simp only [projected, Outcome.bind_eq_ok_iff] at visited ⊢
  rcases visited with ⟨c0, first, c1, second, c2, third, made⟩
  exact ⟨c0, covers first, c1, covers second, c2, covers third, made⟩

theorem Covers.displaced_eq_ok (covers : visit.Covers other) {strength : Binary32}
    {operands : List Binary32} (visited : other.displaced hit strength eval = .ok operands) :
    visit.displaced hit strength eval = .ok operands := by
  simp only [displaced, Outcome.bind_eq_ok_iff] at visited ⊢
  rcases visited with ⟨offset, first, value, second, made⟩
  exact ⟨offset, covers first, value, covers second, made⟩

end Visit

namespace Node

variable {node : Node} {visit other : Visit} {eval : EvalKind} {hit : HitPoint}

/-- Where all slots that a rule reads are filled, the operands are as many as are combined. -/
theorem exists_ruleOperands? {rule : Rule} (fills : visit.Fills rule.slots)
    (closed : rule ≠ .genericBump) (eval : EvalKind) (hit : HitPoint) :
    ∃ operands, ruleOperands? rule visit eval hit = some (.ok operands) ∧
      operands.length = rule.operandWidth eval := by
  cases rule with
  | leaf => exact ⟨[], rfl, rfl⟩
  | combinator children =>
      rcases Visit.Fills.exists_all_eq_ok fills with ⟨operands, visited, length⟩
      exact ⟨operands, congrArg some visited, length⟩
  | genericBump => exact absurd rfl closed
  | triplanar mapping =>
      rcases Visit.Fills.exists_projected_eq_ok fills (mapping.apply hit) with
        ⟨operands, visited, length⟩
      exact ⟨operands, congrArg some visited, length⟩
  | distort strength =>
      rcases Visit.Fills.exists_displaced_eq_ok fills strength with ⟨operands, visited, length⟩
      exact ⟨operands, congrArg some visited, length⟩

theorem ruleOperands?_of_covers (covers : visit.Covers other) {rule : Rule}
    {operands : List Binary32} (visited : ruleOperands? rule other eval hit = some (.ok operands)) :
    ruleOperands? rule visit eval hit = some (.ok operands) := by
  cases rule with
  | leaf => exact visited
  | combinator children => exact congrArg some (covers.all_eq_ok (Option.some.inj visited))
  | genericBump => nomatch visited
  | triplanar mapping => exact congrArg some (covers.projected_eq_ok (Option.some.inj visited))
  | distort strength => exact congrArg some (covers.displaced_eq_ok (Option.some.inj visited))

/-- Nothing is visited just where a rule calls for samples. -/
theorem operands?_eq_none_iff (arity : node.children.length = node.kind.arity) :
    node.operands? visit eval hit = none ↔ node.kind.rule eval = .genericBump := by
  rw [operands?_eq_ruleOperands? arity]
  cases node.kind.rule eval <;> simp [ruleOperands?]

end Node

namespace Table

variable {table : Table} {distance : Binary32} {nesting : Nat} {id : NodeId} {node : Node}
  {eval : EvalKind} {hit : HitPoint} {value : Value}

/-- The evaluator visits the earlier nodes that fill slots. -/
theorem visit_eq_ok_iff {slot : Nat} {input : Value} :
    table.visit distance id node slot eval hit = .ok input ↔
      ∃ child, node.child? slot = some child ∧ child < id ∧
        table.evaluate distance child eval hit = .ok input := by
  cases filled : node.child? slot with
  | none => simp [visit, filled]
  | some child => by_cases earlier : child < id <;> simp [visit, filled, earlier]

/-- A value of a node by a derivation that nests so deep. -/
inductive Evaluates (table : Table) (distance : Binary32) :
    (nesting : Nat) → NodeId → EvalKind → HitPoint → Value → Prop where
  /-- The operands that are visited are combined to a value, and none of them is left over.
  Every value that is visited is that of the node in the slot. -/
  | combined {nesting : Nat} {id : NodeId} {node : Node} {eval : EvalKind} {hit : HitPoint}
      {value : Value} (visit : Visit) {operands : List Binary32}
      (found : table.node? id = some node)
      (filled : ∀ {slot inputKind inputHit input}, visit slot inputKind inputHit = .ok input →
        ∃ child, node.child? slot = some child)
      (inputs : ∀ {slot inputKind inputHit input child},
        visit slot inputKind inputHit = .ok input → node.child? slot = some child →
        Evaluates table distance nesting child inputKind inputHit input)
      (visited : node.operands? visit eval hit = some (.ok operands))
      (made : (Combine.value? table.images node.kind eval hit).run operands =
        .ok (some value, [])) :
      Evaluates table distance (nesting + 1) id eval hit value
  /-- A bump for which nothing is visited is made of three numbers of the node itself. -/
  | sampled {nesting : Nat} {id : NodeId} {node : Node} {hit : HitPoint}
      {height heightU heightV : Binary32} (found : table.node? id = some node)
      (unclosed : ∀ visit, node.operands? visit .bump hit = none)
      (sample : Evaluates table distance nesting id .float hit (.float height))
      (sampleU : Evaluates table distance nesting id .float (Bump.offsetU hit distance)
        (.float heightU))
      (sampleV : Evaluates table distance nesting id .float (Bump.offsetV hit distance)
        (.float heightV)) :
      Evaluates table distance (nesting + 1) id .bump hit
        (.vector (Bump.finiteDifference hit distance height heightU heightV))

/-- There is room for more nesting. -/
theorem Evaluates.mono (derived : table.Evaluates distance nesting id eval hit value) {more : Nat}
    (le : nesting ≤ more) : table.Evaluates distance more id eval hit value := by
  induction derived generalizing more with
  | combined visit found filled inputs visited made ih =>
      obtain ⟨more, rfl⟩ := Nat.exists_eq_add_one_of_ne_zero (Nat.ne_zero_of_lt le)
      replace le := Nat.le_of_succ_le_succ le
      exact .combined visit found filled (fun asked fills => ih asked fills le) visited made
  | sampled found unclosed sample sampleU sampleV ih ihU ihV =>
      obtain ⟨more, rfl⟩ := Nat.exists_eq_add_one_of_ne_zero (Nat.ne_zero_of_lt le)
      replace le := Nat.le_of_succ_le_succ le
      exact .sampled found unclosed (ih le) (ihU le) (ihV le)

/-- The evaluator answers with every value that can be derived. -/
theorem WellFormed.evaluate_eq_ok_of_evaluates (wellFormed : table.WellFormed)
    (derived : table.Evaluates distance nesting id eval hit value) :
    table.evaluate distance id eval hit = .ok value := by
  induction derived with
  | @combined nesting id node eval hit value visit operands found filled inputs visited made ih =>
      have stands := wellFormed.stands found
      have covers : (table.visit distance id node).Covers visit := by
        intro slot inputKind inputHit input asked
        rcases filled asked with ⟨child, fills⟩
        have earlier := stands.child_lt child (List.mem_of_getElem? fills)
        exact visit_eq_ok_iff.mpr ⟨child, fills, earlier, ih asked fills⟩
      rw [Node.operands?_eq_ruleOperands? stands.children_length] at visited
      exact evaluate_eq_ok_of_operands found stands.children_length
        (Node.ruleOperands?_of_covers covers visited) made
  | @sampled nesting id node hit _ _ _ found unclosed _ _ _ ih ihU ihV =>
      have arity := (wellFormed.stands found).children_length
      have sampled := (Node.operands?_eq_none_iff arity).mp
        (unclosed (table.visit distance id node))
      exact evaluate_eq_ok_of_samples found arity sampled ih ihU ihV

/-- A node whose rule calls for samples has a bump if its number can be derived. -/
theorem WellFormed.exists_evaluates_of_samples (wellFormed : table.WellFormed)
    (found : table.node? id = some node) (sampled : node.kind.rule .bump = .genericBump)
    (sample : ∀ hit, ∃ height, table.Evaluates distance nesting id .float hit (.float height)) :
    ∃ normal, table.Evaluates distance (nesting + 1) id .bump hit (.vector normal) := by
  have arity := (wellFormed.stands found).children_length
  have unclosed (visit : Visit) : node.operands? visit .bump hit = none :=
    (Node.operands?_eq_none_iff arity).mpr sampled
  rcases sample hit with ⟨height, derived⟩
  rcases sample (Bump.offsetU hit distance) with ⟨heightU, derivedU⟩
  rcases sample (Bump.offsetV hit distance) with ⟨heightV, derivedV⟩
  exact ⟨_, .sampled found unclosed derived derivedU derivedV⟩

/-- A node has a value if all nodes before it have values, unless its rule calls for samples. -/
theorem WellFormed.exists_evaluates_of_inputs (wellFormed : table.WellFormed)
    (found : table.node? id = some node) (closed : node.kind.rule eval ≠ .genericBump)
    (inputs : ∀ input < id, ∀ eval hit,
      ∃ value, table.Evaluates distance nesting input eval hit value ∧ value.IsOf eval) :
    ∃ value, table.Evaluates distance (nesting + 1) id eval hit value ∧ value.IsOf eval := by
  have stands := wellFormed.stands found
  -- Every slot that the rule reads is filled by an earlier node, which the evaluator visits.
  have fills : (table.visit distance id node).Fills (node.kind.rule eval).slots := by
    intro slot used inputKind inputHit
    rcases stands.exists_inputHas used with ⟨child, fills, earlier⟩
    rcases inputs child earlier inputKind inputHit with ⟨input, derived, isOf⟩
    have evaluated := wellFormed.evaluate_eq_ok_of_evaluates derived
    exact ⟨input, visit_eq_ok_iff.mpr ⟨child, fills, earlier, evaluated⟩, isOf⟩
  rcases Node.exists_ruleOperands? fills closed eval hit with ⟨operands, visited, length⟩
  have reads := Combine.reads_value? wellFormed.image stands.fits closed hit
  rcases reads.exists_run_eq_ok length with ⟨_, made, value, rfl, isOf⟩
  rw [← Node.operands?_eq_ruleOperands? stands.children_length] at visited
  refine ⟨value, .combined (table.visit distance id node) found ?_ ?_ visited made, isOf⟩
  · intro slot inputKind inputHit input asked
    rcases visit_eq_ok_iff.mp asked with ⟨child, fills, _⟩
    exact ⟨child, fills⟩
  · intro slot inputKind inputHit input child asked filled
    rcases visit_eq_ok_iff.mp asked with ⟨same, fills, earlier, evaluated⟩
    obtain rfl := Option.some.inj (filled.symm.trans fills)
    rcases inputs child earlier inputKind inputHit with ⟨other, derived, _⟩
    have evaluatedOther := wellFormed.evaluate_eq_ok_of_evaluates derived
    obtain rfl := Except.ok.inj (evaluatedOther.symm.trans evaluated)
    exact derived

/-- Two steps for each node up to and including its own are enough. A bump takes both of
them, where it samples the number of its node. -/
theorem WellFormed.exists_evaluates (wellFormed : table.WellFormed) (inside : id < table.size)
    (distance : Binary32) (eval : EvalKind) (hit : HitPoint) :
    ∃ value, table.Evaluates distance (2 * id + 2) id eval hit value ∧ value.IsOf eval := by
  induction id using Nat.strongRecOn generalizing eval hit with
  | ind id ih =>
      have found : table.node? id = some table.nodes[id] := List.getElem?_eq_getElem inside
      have inputs {nesting : Nat} (room : 2 * id ≤ nesting) (input : NodeId) (earlier : input < id)
          (eval : EvalKind) (hit : HitPoint) :
          ∃ value, table.Evaluates distance nesting input eval hit value ∧ value.IsOf eval := by
        rcases ih input earlier (Nat.lt_trans earlier inside) eval hit with ⟨value, derived, isOf⟩
        have fits : 2 * input + 2 ≤ nesting :=
          Nat.le_trans (Nat.mul_le_mul_left 2 (Nat.succ_le_of_lt earlier)) room
        exact ⟨value, derived.mono fits, isOf⟩
      by_cases sampled : table.nodes[id].kind.rule eval = .genericBump
      · obtain rfl := TextureKind.eq_bump_of_rule_eq_genericBump sampled
        have closed : table.nodes[id].kind.rule .float ≠ .genericBump :=
          fun sampled => nomatch TextureKind.eq_bump_of_rule_eq_genericBump sampled
        have number (hit : HitPoint) :
            ∃ height, table.Evaluates distance (2 * id + 1) id .float hit (.float height) := by
          obtain ⟨_, derived, height, rfl⟩ :=
            wellFormed.exists_evaluates_of_inputs found closed (inputs (Nat.le_refl _))
          exact ⟨height, derived⟩
        rcases wellFormed.exists_evaluates_of_samples found sampled number with ⟨normal, derived⟩
        exact ⟨.vector normal, derived, normal, rfl⟩
      · exact wellFormed.exists_evaluates_of_inputs found sampled (inputs (Nat.le_succ _))

/-- Under each kind and at each hit point a node has exactly one value by derivations, one of
which nests no deeper than two steps for each node up to its own. The evaluator answers with
it, and it is a number just where a number is asked for. -/
theorem existsUnique_evaluates (built : table.Built) (inside : id < table.size)
    (distance : Binary32) (eval : EvalKind) (hit : HitPoint) :
    ∃ value, table.Evaluates distance (2 * id + 2) id eval hit value ∧
      (∀ nesting other, table.Evaluates distance nesting id eval hit other → other = value) ∧
      table.evaluate distance id eval hit = .ok value ∧
      ((∃ number, value = .float number) ↔ eval = .float) := by
  have wellFormed := built.wellFormed
  rcases wellFormed.exists_evaluates inside distance eval hit with ⟨value, derived, isOf⟩
  have evaluated := wellFormed.evaluate_eq_ok_of_evaluates derived
  refine ⟨value, derived, ?_, evaluated, isOf.isFloat_iff⟩
  intro nesting other derivedOther
  have evaluatedOther := wellFormed.evaluate_eq_ok_of_evaluates derivedOther
  exact Except.ok.inj (evaluatedOther.symm.trans evaluated)

theorem existsUnique_evaluates_nested :
    ∃ value, nested.Evaluates Config.standard.bumpSampleDistance 8 3 .bump .standard value ∧
      nested.evaluate Config.standard.bumpSampleDistance 3 .bump .standard = .ok value ∧
      ¬ ∃ number, value = .float number := by
  have inside : 3 < nested.size := by decide
  rcases existsUnique_evaluates built_nested inside Config.standard.bumpSampleDistance .bump
    .standard with ⟨value, derived, _, evaluated, isNumber⟩
  exact ⟨value, derived, evaluated, fun number => nomatch isNumber.mp number⟩

end Table

end TextureGraph
