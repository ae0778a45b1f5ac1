import TextureGraph.Fault
import TextureGraph.Program.Basic
import TextureGraph.Rule
import TextureGraph.Table.Basic

/-!
# Compiling tables

Every node is compiled under every kind of evaluation, and all code goes to the
end of one growing list of instructions. The code of an input is emitted again
wherever it is used, so each span stands on its own. Nesting is counted down from
the configured limit, which also ends the recursion.
-/

namespace TextureGraph

inductive CompileError where
  | capacity (excess : CapacityExcess)
  /-- Code for a node would nest deeper than the limit. -/
  | depthLimit (node : NodeId) (kind : EvalKind) (limit : Nat)
  | fault (fault : Fault)
deriving DecidableEq, Repr

def CompileError.message : CompileError → String
  | capacity excess => excess.message
  | depthLimit node kind limit =>
      "compiling " ++ node.label ++ " under " ++ kind.name ++ " exceeded nesting depth " ++
        toString limit
  | fault _ => "the table refers to a texture that it does not hold"

/-- Turn an absent value into a fault of the table. -/
def CompileError.demand {α : Type} (fault : Fault) (value : Option α) : Except CompileError α :=
  (fault.demand value).mapError .fault

/-- A computation that appends to the instructions emitted so far. -/
abbrev Generator := StateT (Array Instruction) (Except CompileError)

namespace Generator

/-- Append an instruction. -/
def emit (node : NodeId) (op : Op) : Generator Unit :=
  modify (·.push ⟨node, op⟩)

/-- Take the last instruction off again. -/
def retract : Generator Unit :=
  modify Array.pop

/-- Slots that hold the surface state during a generic bump. -/
def savedStateSlots : Nat := 8

/-- Slots that hold surface coordinates, weights and point of a projection. -/
def savedProjectionSlots : Nat := 8

/-- Slots that hold position and surface coordinates during a distortion. -/
def savedPlacementSlots : Nat := 5

/-- Sum of counts. -/
def total (counts : List Nat) : Nat :=
  counts.foldr (· + ·) 0

/-- Emit code by a rule, given how the code of an input and of a sample of the
node's own number is emitted. The result is the number of slots it needs. -/
def emitRule (id : NodeId) (kind : EvalKind) (rule : Rule)
    (emitInput : (slot : Nat) → EvalKind → Generator Nat) (emitSample : Generator Nat) :
    Generator Nat :=
  match rule with
  | .leaf => do
      emit id (.eval kind)
      return kind.width
  | .combinator children => do
      let depths ← children.mapM fun child => emitInput child.slot (child.resolve kind)
      emit id (.eval kind)
      -- A wide result over narrow inputs still needs room for itself.
      return max (total depths) kind.width
  | .genericBump => do
      let depth ← emitSample
      emit id .bumpOffsetU
      let depthU ← emitSample
      emit id .bumpOffsetV
      let depthV ← emitSample
      -- The combining instruction takes the last sample itself.
      retract
      emit id (.eval .bump)
      return depth + savedStateSlots + depthU + depthV
  | .triplanar _ => do
      emit id (.triplanarStep .x)
      let depth0 ← emitInput 0 .spectrum
      emit id (.triplanarStep .y)
      let depth1 ← emitInput 1 .spectrum
      emit id (.triplanarStep .z)
      let depth2 ← emitInput 2 .spectrum
      emit id (.eval kind)
      return max (savedProjectionSlots + depth0 + depth1 + depth2) kind.width
  | .distort _ => do
      let offsetDepth ← emitInput 1 .spectrum
      emit id .distortSetup
      let depth ← emitInput 0 kind
      emit id (.eval kind)
      return offsetDepth + savedPlacementSlots + depth

end Generator

namespace Table

open Generator

/-- Emit the code of a node under a kind of evaluation, within `budget` levels of
nesting, and count the stack slots that it needs. -/
def emitNode (table : Table) (limit : Nat) :
    (budget : Nat) → NodeId → EvalKind → Generator Nat
  | 0, id, kind => throw (.depthLimit id kind limit)
  | budget + 1, id, kind => do
      let node ← CompileError.demand (.missingNode id) (table.node? id)
      let emitInput := fun slot inputKind => do
        let input ← CompileError.demand (.missingChild slot) (node.child? slot)
        emitNode table limit budget input inputKind
      emitRule id kind (node.kind.rule kind) emitInput (emitNode table limit budget id .float)

/-- Emit the code of a node under a kind of evaluation as a span of its own. -/
def emitSpan (table : Table) (limit : Nat) (id : NodeId) (kind : EvalKind) : Generator Span := do
  let start := (← get).size
  let stackDepth ← table.emitNode limit (limit + 1) id kind
  return ⟨start, (← get).size - start, stackDepth⟩

/-- Emit the code of a node under all kinds of evaluation. -/
def emitSpans (table : Table) (limit : Nat) (id : NodeId) (node : Node) :
    Generator (PerKind Span) := do
  (node.kind.checkCapacity id).mapError CompileError.capacity
  let float ← table.emitSpan limit id .float
  let spectrum ← table.emitSpan limit id .spectrum
  let bump ← table.emitSpan limit id .bump
  return ⟨float, spectrum, bump⟩

/-- Emit the code of all nodes, in order. -/
def emitAll (table : Table) (limit : Nat) : Generator (List (PerKind Span)) :=
  table.nodes.zipIdx.mapM fun (node, id) => table.emitSpans limit id node

/-- Compile all nodes of a table. -/
def compile (table : Table) (config : Config) : Except CompileError Program := do
  let (nodeSpans, instructions) ← (table.emitAll config.maxCompileDepth).run #[]
  return {
    instructions := instructions.toList
    nodeSpans
    maxStackDepth := ((nodeSpans.flatMap PerKind.toList).map Span.stackDepth).foldl max 0
    bumpSampleDistance := config.bumpSampleDistance }

end Table

end TextureGraph
