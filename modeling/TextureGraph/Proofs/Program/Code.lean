import TextureGraph.Program.Compile
import TextureGraph.Proofs.Outcome

/-!
# Code of a node as a value

Code is put together by the rule of a node from the code of its inputs, with no list
of instructions that grows along. The relation `Code.Composed` lists the five shapes.
How much nesting was allowed makes no difference to the code, only to its existence.
-/

namespace TextureGraph

/-- Instructions with the number of stack slots they need. -/
structure Code where
  instructions : List Instruction
  depth : Nat
deriving DecidableEq, Repr

namespace Code

open Generator

def leaf (node : NodeId) (kind : EvalKind) : Code :=
  ⟨[⟨node, .eval kind⟩], kind.width⟩

/-- Code of inputs one behind the other, then the instruction that combines them. -/
def combinator (node : NodeId) (kind : EvalKind) (inputs : List Code) : Code :=
  ⟨inputs.flatMap Code.instructions ++ [⟨node, .eval kind⟩],
    max (total (inputs.map Code.depth)) kind.width⟩

/-- Three samples of a node's number, the last one without its own instruction. -/
def genericBump (node : NodeId) (sample : Code) : Code :=
  ⟨sample.instructions ++ [⟨node, .bumpOffsetU⟩] ++ sample.instructions ++
      [⟨node, .bumpOffsetV⟩] ++ sample.instructions.dropLast ++ [⟨node, .eval .bump⟩],
    sample.depth + savedStateSlots + sample.depth + sample.depth⟩

/-- Three projected lookups, each behind the step that sets it up. -/
def triplanar (node : NodeId) (kind : EvalKind) (c0 c1 c2 : Code) : Code :=
  ⟨[⟨node, .triplanarStep .x⟩] ++ c0.instructions ++ [⟨node, .triplanarStep .y⟩] ++
      c1.instructions ++ [⟨node, .triplanarStep .z⟩] ++ c2.instructions ++ [⟨node, .eval kind⟩],
    max (savedProjectionSlots + c0.depth + c1.depth + c2.depth) kind.width⟩

/-- Offset lookup, move, and the input at the moved hit point. -/
def distort (node : NodeId) (kind : EvalKind) (offset moved : Code) : Code :=
  ⟨offset.instructions ++ [⟨node, .distortSetup⟩] ++ moved.instructions ++ [⟨node, .eval kind⟩],
    offset.depth + savedPlacementSlots + moved.depth⟩

/-- Code by a rule, from the code of the inputs and of a sample of the node's own number. -/
def ofRule (id : NodeId) (kind : EvalKind) (rule : Rule)
    (input : (slot : Nat) → EvalKind → Except CompileError Code)
    (sample : Except CompileError Code) : Except CompileError Code :=
  match rule with
  | .leaf => return leaf id kind
  | .combinator children =>
      return combinator id kind
        (← children.mapM fun child => input child.slot (child.resolve kind))
  | .genericBump => return genericBump id (← sample)
  | .triplanar _ =>
      return triplanar id kind (← input 0 .spectrum) (← input 1 .spectrum) (← input 2 .spectrum)
  | .distort _ => return distort id kind (← input 1 .spectrum) (← input 0 kind)

end Code

namespace Table

/-- Code of a node under a kind of evaluation, within `budget` levels of nesting. -/
def nodeCode (table : Table) (limit : Nat) :
    (budget : Nat) → NodeId → EvalKind → Except CompileError Code
  | 0, id, kind => .error (.depthLimit id kind limit)
  | budget + 1, id, kind => do
      let node ← CompileError.demand (.missingNode id) (table.node? id)
      let input := fun slot inputKind => do
        let input ← CompileError.demand (.missingChild slot) (node.child? slot)
        nodeCode table limit budget input inputKind
      Code.ofRule id kind (node.kind.rule kind) input (nodeCode table limit budget id .float)

end Table

/-! ## Code by its parts -/

/-- The node in an input slot has a property. -/
def Node.InputHas (node : Node) (slot : Nat) (property : NodeId → Prop) : Prop :=
  ∃ input, node.child? slot = some input ∧ property input

/-- Code that is put together by the rule of its node, where `part` says which code
belongs to a node under a kind of evaluation. -/
inductive Code.Composed (part : NodeId → EvalKind → Code → Prop) (id : NodeId) (node : Node)
    (kind : EvalKind) : Code → Prop where
  | leaf (rule : node.kind.rule kind = .leaf) : Composed part id node kind (leaf id kind)
  | combinator {children : List ChildEval} {inputs : List Code}
      (rule : node.kind.rule kind = .combinator children)
      (parts : List.Forall₂ (fun child code =>
        node.InputHas child.slot (part · (child.resolve kind) code)) children inputs) :
      Composed part id node kind (combinator id kind inputs)
  | genericBump {sample : Code} (rule : node.kind.rule kind = .genericBump)
      (samplePart : part id .float sample) : Composed part id node kind (genericBump id sample)
  | triplanar {mapping : SpaceMapping} {c0 c1 c2 : Code}
      (rule : node.kind.rule kind = .triplanar mapping)
      (part0 : node.InputHas 0 (part · .spectrum c0))
      (part1 : node.InputHas 1 (part · .spectrum c1))
      (part2 : node.InputHas 2 (part · .spectrum c2)) :
      Composed part id node kind (triplanar id kind c0 c1 c2)
  | distort {strength : Binary32} {offset moved : Code}
      (rule : node.kind.rule kind = .distort strength)
      (offsetPart : node.InputHas 1 (part · .spectrum offset))
      (movedPart : node.InputHas 0 (part · kind moved)) :
      Composed part id node kind (distort id kind offset moved)

/-- Only a bump is ever computed by samples. -/
theorem TextureKind.eq_bump_of_rule_eq_genericBump {kind : TextureKind} {eval : EvalKind}
    (sampled : kind.rule eval = .genericBump) : eval = .bump := by
  cases eval with
  | bump => rfl
  | float | spectrum => cases kind <;> cases sampled

/-- An input is evaluated to a bump only for a bump. -/
theorem TextureKind.eq_bump_of_resolve_eq_bump {kind : TextureKind} {eval : EvalKind}
    {children : List ChildEval} (rule : kind.rule eval = .combinator children) {child : ChildEval}
    (member : child ∈ children) (bumped : child.resolve eval = .bump) : eval = .bump := by
  have unbumped : eval ≠ .bump → children.all fun child => child.resolve eval ≠ .bump := by
    intro other
    cases eval with
    | bump => exact absurd rfl other
    | float | spectrum => cases kind <;> cases rule <;> rfl
  by_contra other
  exact of_decide_eq_true (List.all_eq_true.mp (unbumped other) child member) bumped

/-- Operations that belong to a bump. -/
def Op.IsBump : Op → Prop
  | .eval kind => kind = .bump
  | .bumpOffsetU | .bumpOffsetV => True
  | .triplanarStep _ | .distortSetup => False

theorem Node.InputHas.mono {node : Node} {slot : Nat} {property weaker : NodeId → Prop}
    (has : node.InputHas slot property) (weaken : ∀ input, property input → weaker input) :
    node.InputHas slot weaker := by
  rcases has with ⟨input, found, holds⟩
  exact ⟨input, found, weaken input holds⟩

namespace Code.Composed

variable {part wider : NodeId → EvalKind → Code → Prop} {id : NodeId} {node : Node}
  {kind : EvalKind} {code : Code}

theorem mono (composed : Composed part id node kind code)
    (widen : ∀ id kind code, part id kind code → wider id kind code) :
    Composed wider id node kind code := by
  cases composed with
  | leaf rule => exact .leaf rule
  | combinator rule parts =>
      exact .combinator rule
        (parts.imp fun _ _ has => has.mono fun input holds => widen input _ _ holds)
  | genericBump rule samplePart => exact .genericBump rule (widen _ _ _ samplePart)
  | triplanar rule part0 part1 part2 =>
      exact .triplanar rule (part0.mono fun input holds => widen input _ _ holds)
        (part1.mono fun input holds => widen input _ _ holds)
        (part2.mono fun input holds => widen input _ _ holds)
  | distort rule offsetPart movedPart =>
      exact .distort rule (offsetPart.mono fun input holds => widen input _ _ holds)
        (movedPart.mono fun input holds => widen input _ _ holds)

/-- Every code ends with the own instruction of its node. -/
theorem instructions_eq_append (composed : Composed part id node kind code) :
    ∃ before, code.instructions = before ++ [⟨id, .eval kind⟩] := by
  cases composed with
  | leaf => exact ⟨[], rfl⟩
  | genericBump rule =>
      cases TextureKind.eq_bump_of_rule_eq_genericBump rule
      exact ⟨_, rfl⟩
  | combinator | triplanar | distort => exact ⟨_, rfl⟩

/-- Every code has room for its result, if the code of its inputs has. -/
theorem width_le_depth (composed : Composed part id node kind code)
    (wide : ∀ id kind code, part id kind code → kind.width ≤ code.depth) :
    kind.width ≤ code.depth := by
  cases composed with
  | leaf => exact Nat.le_refl _
  | combinator | triplanar => exact Nat.le_max_right _ _
  | genericBump rule samplePart =>
      cases TextureKind.eq_bump_of_rule_eq_genericBump rule
      have sampleWide := wide _ _ _ samplePart
      simp only [EvalKind.width, Code.genericBump, Generator.savedStateSlots] at sampleWide ⊢
      omega
  | distort rule _ movedPart =>
      rcases movedPart with ⟨input, _, moved⟩
      have movedWide := wide _ _ _ moved
      simp only [Code.distort]
      omega

/-- A code consists of instructions of its own node and of the codes of its parts, which are
the node itself and its inputs. There is a bump in either of them only where the code itself
is one. -/
theorem forall_mem_instructions (composed : Composed part id node kind code)
    {holds : Instruction → Prop} (own : ∀ op : Op, (op.IsBump → kind = .bump) → holds ⟨id, op⟩)
    (parts : ∀ input inputKind code, input = id ∨ input ∈ node.children →
      (inputKind = .bump → kind = .bump) → part input inputKind code →
      ∀ instruction ∈ code.instructions, holds instruction) :
    ∀ instruction ∈ code.instructions, holds instruction := by
  have ownEval : holds ⟨id, .eval kind⟩ := own (.eval kind) fun isBump => isBump
  have input {slot : Nat} {inputKind : EvalKind} {code : Code}
      (has : node.InputHas slot (part · inputKind code))
      (bumped : inputKind = .bump → kind = .bump) :
      ∀ instruction ∈ code.instructions, holds instruction := by
    rcases has with ⟨input, filled, isPart⟩
    exact parts input inputKind code (.inr (List.mem_of_getElem? filled)) bumped isPart
  cases composed with
  | leaf rule =>
      simp only [Code.leaf, List.forall_mem_singleton]
      exact ownEval
  | @combinator children inputs rule each =>
      simp only [Code.combinator, List.forall_mem_append, List.forall_mem_singleton]
      refine ⟨fun instruction member => ?_, ownEval⟩
      rcases List.mem_flatMap.mp member with ⟨code, codeMember, inside⟩
      rcases Outcome.exists_mem_of_forall₂ each.flip codeMember with ⟨child, childMember, has⟩
      exact input has (TextureKind.eq_bump_of_resolve_eq_bump rule childMember) instruction inside
  | genericBump rule samplePart =>
      have isBump := TextureKind.eq_bump_of_rule_eq_genericBump rule
      have sample := parts _ _ _ (.inl rfl) (fun _ => isBump) samplePart
      have offsetU := own .bumpOffsetU fun _ => isBump
      have offsetV := own .bumpOffsetV fun _ => isBump
      simp only [Code.genericBump, List.forall_mem_append, List.forall_mem_singleton, ← isBump]
      exact ⟨⟨⟨⟨⟨sample, offsetU⟩, sample⟩, offsetV⟩,
        fun instruction member => sample instruction (List.dropLast_subset _ member)⟩, ownEval⟩
  | triplanar rule part0 part1 part2 =>
      have step (axis : Axis) := own (.triplanarStep axis) False.elim
      simp only [Code.triplanar, List.forall_mem_append, List.forall_mem_singleton]
      exact ⟨⟨⟨⟨⟨⟨step .x, input part0 nofun⟩, step .y⟩, input part1 nofun⟩, step .z⟩,
        input part2 nofun⟩, ownEval⟩
  | distort rule offsetPart movedPart =>
      have setup := own .distortSetup False.elim
      simp only [Code.distort, List.forall_mem_append, List.forall_mem_singleton]
      exact ⟨⟨⟨input offsetPart nofun, setup⟩, input movedPart fun isBump => isBump⟩, ownEval⟩

end Code.Composed

/-- Code is made by the rule of a node exactly when it is composed of the parts. -/
theorem Code.ofRule_eq_ok_iff {part : NodeId → EvalKind → Code → Prop} {id : NodeId} {node : Node}
    {kind : EvalKind} {code : Code} {input : Nat → EvalKind → Except CompileError Code}
    {sample : Except CompileError Code}
    (inputs : ∀ slot inputKind code,
      input slot inputKind = .ok code ↔ node.InputHas slot (part · inputKind code))
    (samples : ∀ code, sample = .ok code ↔ part id .float code) :
    ofRule id kind (node.kind.rule kind) input sample = .ok code ↔
      Composed part id node kind code := by
  constructor
  · intro made
    cases rule : node.kind.rule kind with
    | leaf =>
        rw [rule] at made
        cases made
        exact .leaf rule
    | combinator children =>
        simp only [rule, ofRule, Outcome.bind_eq_ok_iff, Outcome.mapM_eq_ok_iff, inputs] at made
        rcases made with ⟨codes, parts, made⟩
        cases made
        exact .combinator rule parts
    | genericBump =>
        simp only [rule, ofRule, Outcome.bind_eq_ok_iff, samples] at made
        rcases made with ⟨sample, samplePart, made⟩
        cases made
        exact .genericBump rule samplePart
    | triplanar mapping =>
        simp only [rule, ofRule, Outcome.bind_eq_ok_iff, inputs] at made
        rcases made with ⟨c0, part0, c1, part1, c2, part2, made⟩
        cases made
        exact .triplanar rule part0 part1 part2
    | distort strength =>
        simp only [rule, ofRule, Outcome.bind_eq_ok_iff, inputs] at made
        rcases made with ⟨offset, offsetPart, moved, movedPart, made⟩
        cases made
        exact .distort rule offsetPart movedPart
  · intro composed
    cases composed with
    | leaf rule => rw [rule]; rfl
    | @combinator children codes rule parts =>
        have made :
            (children.mapM fun child => input child.slot (child.resolve kind)) = .ok codes :=
          Outcome.mapM_eq_ok_iff.mpr (parts.imp fun child code => (inputs _ _ code).mpr)
        simp only [rule, ofRule, made, Outcome.ok_bind, Outcome.pure_eq_ok]
    | genericBump rule samplePart =>
        simp only [rule, ofRule, (samples _).mpr samplePart, Outcome.ok_bind, Outcome.pure_eq_ok]
    | triplanar rule part0 part1 part2 =>
        simp only [rule, ofRule, (inputs _ _ _).mpr part0, (inputs _ _ _).mpr part1,
          (inputs _ _ _).mpr part2, Outcome.ok_bind, Outcome.pure_eq_ok]
    | distort rule offsetPart movedPart =>
        simp only [rule, ofRule, (inputs _ _ _).mpr offsetPart, (inputs _ _ _).mpr movedPart,
          Outcome.ok_bind, Outcome.pure_eq_ok]

theorem CompileError.demand_some {α : Type} {fault : Fault} (value : α) :
    demand fault (some value) = .ok value := rfl

theorem CompileError.demand_eq_ok_iff {α : Type} {fault : Fault} {value : Option α} {result : α} :
    demand fault value = .ok result ↔ value = some result := by
  cases value with
  | none => simp [demand, Fault.demand, Except.mapError]
  | some value => simp [demand, Fault.demand, Except.mapError]

namespace Table

open CompileError

variable {table : Table} {limit budget : Nat} {id : NodeId} {kind : EvalKind} {code : Code}

/-- Code for an input slot is the code of the node there. -/
private theorem inputCode_eq_ok_iff {node : Node} {slot : Nat} :
    (do
      let input ← demand (.missingChild slot) (node.child? slot)
      table.nodeCode limit budget input kind) = .ok code ↔
      node.InputHas slot (table.nodeCode limit budget · kind = .ok code) := by
  rw [Outcome.bind_eq_ok_iff]
  exact exists_congr fun input => and_congr_left fun _ => demand_eq_ok_iff

/-- Within one more level of nesting, the code of a node is put together from codes
within the levels there were. -/
theorem nodeCode_succ_eq_ok_iff :
    table.nodeCode limit (budget + 1) id kind = .ok code ↔
      ∃ node, table.node? id = some node ∧
        Code.Composed (table.nodeCode limit budget · · = .ok ·) id node kind code := by
  rw [nodeCode, Outcome.bind_eq_ok_iff]
  refine exists_congr fun node => and_congr demand_eq_ok_iff ?_
  exact Code.ofRule_eq_ok_iff (fun _ _ _ => inputCode_eq_ok_iff) (fun _ => Iff.rfl)

/-- No code fits within no level of nesting. -/
theorem nodeCode_eq_ok_exists_composed (compiled : table.nodeCode limit budget id kind = .ok code) :
    ∃ lower node, budget = lower + 1 ∧ table.node? id = some node ∧
      Code.Composed (table.nodeCode limit lower · · = .ok ·) id node kind code := by
  cases budget with
  | zero => cases compiled
  | succ lower =>
      rcases nodeCode_succ_eq_ok_iff.mp compiled with ⟨node, found, composed⟩
      exact ⟨lower, node, rfl, found, composed⟩

/-- More room for nesting changes no code. -/
theorem nodeCode_succ_of_eq_ok (compiled : table.nodeCode limit budget id kind = .ok code) :
    table.nodeCode limit (budget + 1) id kind = .ok code := by
  induction budget generalizing id kind code with
  | zero => cases compiled
  | succ budget ih =>
      rcases nodeCode_succ_eq_ok_iff.mp compiled with ⟨node, found, composed⟩
      exact nodeCode_succ_eq_ok_iff.mpr ⟨node, found, composed.mono fun _ _ _ => ih⟩

theorem nodeCode_of_le {more : Nat} (within : budget ≤ more)
    (compiled : table.nodeCode limit budget id kind = .ok code) :
    table.nodeCode limit more id kind = .ok code := by
  induction within with
  | refl => exact compiled
  | step _ ih => exact nodeCode_succ_of_eq_ok ih

theorem nodeCode_instructions_ne_nil (compiled : table.nodeCode limit budget id kind = .ok code) :
    code.instructions ≠ [] := by
  rcases nodeCode_eq_ok_exists_composed compiled with ⟨_, _, _, _, composed⟩
  rcases composed.instructions_eq_append with ⟨before, ends⟩
  simp [ends]

theorem width_le_depth_of_nodeCode (compiled : table.nodeCode limit budget id kind = .ok code) :
    kind.width ≤ code.depth := by
  induction budget generalizing id kind code with
  | zero => cases compiled
  | succ budget ih =>
      rcases nodeCode_succ_eq_ok_iff.mp compiled with ⟨node, _, composed⟩
      exact composed.width_le_depth fun _ _ _ => ih

/-- What an operation on a node has in common with its kind of evaluation, and an input passes
on to its user, holds of every instruction in the code of a node. -/
theorem forall_mem_instructions_of_nodeCode (holds : NodeId → EvalKind → Instruction → Prop)
    (own : ∀ {id node kind} (op : Op), table.node? id = some node → (op.IsBump → kind = .bump) →
      holds id kind ⟨id, op⟩)
    (passed : ∀ {id node kind input inputKind instruction}, table.node? id = some node →
      input = id ∨ input ∈ node.children → (inputKind = .bump → kind = .bump) →
      holds input inputKind instruction → holds id kind instruction)
    (made : table.nodeCode limit budget id kind = .ok code) :
    ∀ instruction ∈ code.instructions, holds id kind instruction := by
  induction budget generalizing id kind code with
  | zero => cases made
  | succ budget ih =>
      rcases nodeCode_succ_eq_ok_iff.mp made with ⟨node, found, composed⟩
      refine composed.forall_mem_instructions (fun op bumps => own op found bumps) ?_
      intro input inputKind inputCode among bumps part instruction member
      exact passed found among bumps (ih part instruction member)

end Table

end TextureGraph
