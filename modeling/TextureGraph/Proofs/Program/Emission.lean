import TextureGraph.Proofs.Program.Code

/-!
# What the generator emits

The generator appends to one list of instructions and, for a bump by samples, takes
an instruction back. What it appends for a node is the code of the node as a value,
whatever stands in the list already; the instruction it takes back is always the
node's own, emitted for the last sample.
-/

namespace TextureGraph

namespace Generator

/-- A generator that appends the instructions of a code and returns what it needs. -/
def Appends (generator : Generator Nat) (code : Except CompileError Code) : Prop :=
  ∀ emitted, generator.run emitted =
    code.map fun code => (code.depth, emitted ++ code.instructions.toArray)

@[simp]
theorem run_emit (node : NodeId) (op : Op) (emitted : Array Instruction) :
    (emit node op).run emitted = .ok ((), emitted.push ⟨node, op⟩) := rfl

@[simp]
theorem run_retract (emitted : Array Instruction) :
    retract.run emitted = .ok ((), emitted.pop) := rfl

theorem run_mapM_of_appends {ι : Type} (inputs : List ι) {emitInput : ι → Generator Nat}
    {code : ι → Except CompileError Code} (each : ∀ input, (emitInput input).Appends (code input))
    (emitted : Array Instruction) :
    (inputs.mapM emitInput).run emitted =
      (inputs.mapM code).map fun codes =>
        (codes.map Code.depth, emitted ++ (codes.flatMap Code.instructions).toArray) := by
  induction inputs generalizing emitted with
  | nil => simp
  | cons input rest ih =>
      simp only [List.mapM_cons, StateT.run_bind, each input emitted]
      cases code input with
      | error e => rfl
      | ok first =>
          simp only [Outcome.map_ok, Outcome.ok_bind, ih]
          cases rest.mapM code with
          | error e => rfl
          | ok codes => simp

/-- Emission by a rule appends the code of the rule. Where it takes an instruction
back, that instruction is one of the sample that was emitted last. -/
theorem emitRule_appends (id : NodeId) (kind : EvalKind) (rule : Rule)
    {emitInput : Nat → EvalKind → Generator Nat} {emitSample : Generator Nat}
    {input : Nat → EvalKind → Except CompileError Code} {sample : Except CompileError Code}
    (inputs : ∀ slot inputKind, (emitInput slot inputKind).Appends (input slot inputKind))
    (samples : emitSample.Appends sample)
    (nonempty : ∀ code, sample = .ok code → code.instructions ≠ []) :
    (emitRule id kind rule emitInput emitSample).Appends
      (Code.ofRule id kind rule input sample) := by
  intro emitted
  cases rule with
  | leaf => simp [emitRule, Code.ofRule, Code.leaf]
  | combinator children =>
      have each := run_mapM_of_appends children
        (fun child => inputs child.slot (child.resolve kind)) emitted
      simp only [emitRule, Code.ofRule, StateT.run_bind, each]
      cases children.mapM fun child => input child.slot (child.resolve kind) with
      | error e => rfl
      | ok codes => simp [Code.combinator]
  | genericBump =>
      simp only [emitRule, Code.ofRule, StateT.run_bind, samples _]
      cases sampled : sample with
      | error e => rfl
      | ok code =>
          have popped (before : Array Instruction) :
              (before ++ code.instructions.toArray).pop =
                before ++ code.instructions.dropLast.toArray := by
            rw [Array.pop_append, if_neg (by simpa using nonempty code sampled), List.pop_toArray]
          simp only [Outcome.map_ok, Outcome.ok_bind, run_emit, run_retract, popped]
          simp [Code.genericBump]
  | triplanar mapping =>
      simp only [emitRule, Code.ofRule, StateT.run_bind, run_emit, inputs _ _ _, Outcome.ok_bind]
      cases input 0 .spectrum with
      | error e => rfl
      | ok c0 =>
          cases input 1 .spectrum with
          | error e => rfl
          | ok c1 =>
              cases input 2 .spectrum with
              | error e => rfl
              | ok c2 => simp [Code.triplanar]
  | distort strength =>
      simp only [emitRule, Code.ofRule, StateT.run_bind, run_emit, inputs _ _ _]
      cases input 1 .spectrum with
      | error e => rfl
      | ok offset =>
          cases input 0 kind with
          | error e => rfl
          | ok moved => simp [Code.distort]

end Generator

namespace Table

open CompileError

/-- The generator appends the code of a node, whatever was emitted before. -/
theorem emitNode_appends (table : Table) (limit budget : Nat) (id : NodeId) (kind : EvalKind) :
    (table.emitNode limit budget id kind).Appends (table.nodeCode limit budget id kind) := by
  induction budget generalizing id kind with
  | zero =>
      intro emitted
      rfl
  | succ budget ih =>
      intro emitted
      rw [emitNode, nodeCode]
      cases table.node? id with
      | none => rfl
      | some node =>
          have inputs (slot : Nat) (inputKind : EvalKind) : Generator.Appends
              (do
                let input ← demand (.missingChild slot) (node.child? slot)
                table.emitNode limit budget input inputKind)
              (do
                let input ← demand (.missingChild slot) (node.child? slot)
                table.nodeCode limit budget input inputKind) := by
            intro emitted
            cases node.child? slot with
            | none => rfl
            | some input => exact ih input inputKind emitted
          exact Generator.emitRule_appends id kind (node.kind.rule kind) inputs (ih id .float)
            (fun _ => nodeCode_instructions_ne_nil) emitted

end Table

end TextureGraph
