import TextureGraph.EvalKind
import TextureGraph.TextureKind

/-!
# Evaluation rules

How the code for a node is shaped under each kind of evaluation: which inputs it
evaluates, under which kind, and in which order.
-/

namespace TextureGraph

/-- An input to evaluate: under a kind of its own, or under that of the node. -/
structure ChildEval where
  slot : Nat
  forced? : Option EvalKind
deriving DecidableEq, Repr

namespace ChildEval

def inherit (slot : Nat) : ChildEval := ⟨slot, none⟩

def forced (slot : Nat) (kind : EvalKind) : ChildEval := ⟨slot, some kind⟩

/-- Kind under which the input is evaluated for a node evaluated under `parent`. -/
def resolve (child : ChildEval) (parent : EvalKind) : EvalKind :=
  child.forced?.getD parent

/-- Number of stack slots that the results of inputs take together. -/
def totalWidth (children : List ChildEval) (parent : EvalKind) : Nat :=
  children.foldr (fun child width => (child.resolve parent).width + width) 0

end ChildEval

inductive Rule where
  /-- One instruction, without inputs. -/
  | leaf
  /-- The inputs in order, then one combining instruction. -/
  | combinator (children : List ChildEval)
  /-- Three samples of the node's own number. -/
  | genericBump
  /-- Three projected colour lookups. -/
  | triplanar (mapping : SpaceMapping)
  /-- An offset lookup, then the input at the moved hit point. -/
  | distort (strength : Binary32)
deriving DecidableEq, Repr

namespace Rule

open ChildEval

def unary : Rule := combinator [inherit 0]

def binary : Rule := combinator [inherit 0, inherit 1]

def quaternary : Rule := combinator [inherit 0, inherit 1, inherit 2, inherit 3]

/-- An input of the node's kind with a numeric second operand. -/
def scalarSecond : Rule := combinator [inherit 0, forced 1 .float]

/-- Two inputs of the node's kind behind a numeric amount. -/
def weighted : Rule := combinator [forced 0 .float, inherit 1, inherit 2]

/-- Normals of both factors, then their numbers. -/
def scaleBump : Rule :=
  combinator [forced 0 .bump, forced 1 .bump, forced 0 .float, forced 1 .float]

/-- Normals of both sides and of the amount, then their numbers. -/
def mixBump : Rule :=
  combinator [forced 1 .bump, forced 2 .bump, forced 0 .bump,
    forced 1 .float, forced 2 .float, forced 0 .float]

def amountOnly : Rule := combinator [forced 0 .float]

def colorOnly : Rule := combinator [forced 0 .spectrum]

/-- A colour with three numeric adjustments. -/
def colorAdjustment : Rule :=
  combinator [forced 0 .spectrum, forced 1 .float, forced 2 .float, forced 3 .float]

def threeNumbers : Rule :=
  combinator [forced 0 .float, forced 1 .float, forced 2 .float]

end Rule

open TextureKind in
/-- Rule of a kind of texture under a kind of evaluation. -/
def TextureKind.rule (kind : TextureKind) (eval : EvalKind) : Rule :=
  match kind, eval with
  | constFloat _, _ | constColor _, _ => .leaf
  | add, _ | subtract, _ => .binary
  | distort strength, _ => .distort strength
  | scale, .bump => .scaleBump
  | mix, .bump => .mixBump
  | normalMap _, .bump => .colorOnly
  | _, .bump => .genericBump
  | imageMap _ _ _, _ | hitPointColor, _ | hitPointAlpha, _ | hitPointGrey _, _ | uv _, _
  | fbm _ _ _, _ | wrinkled _ _ _, _ | windy _, _ | marble _ _ _ _ _, _
  | normalMap _, _ => .leaf
  | scale, _ | divide, _ | dots _, _ | checkerboard2d _, _ | checkerboard3d _, _ => .binary
  | mix, _ => .weighted
  | bilerp, _ => .quaternary
  | power, _ | modulo, _ => .scalarSecond
  | abs, _ | clamp _ _, _ => .unary
  | band _, _ => .amountOnly
  | hsv, _ => .colorAdjustment
  | splitFloat3 _, _ => .colorOnly
  | makeFloat3, _ => .threeNumbers
  | triplanar mapping, _ => .triplanar mapping

/-- Whether the bump of a kind has a closed form. -/
def TextureKind.hasClosedBump (kind : TextureKind) : Bool :=
  kind.rule .bump != .genericBump

end TextureGraph
