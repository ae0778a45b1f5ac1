import TextureGraph.EvalKind
import TextureGraph.Table.Error

/-!
# Instructions

An instruction names a node and what to do for it. Parameters stay in the table.
-/

namespace TextureGraph

/-- One of the three lookups of a triplanar projection. -/
inductive Axis where
  | x
  | y
  | z
deriving DecidableEq, Repr

/-- Position of an axis. -/
def Axis.index : Axis → Nat
  | x => 0
  | y => 1
  | z => 2

inductive Op where
  /-- Combine operands into the value of the node. -/
  | eval (kind : EvalKind)
  /-- Save the surface state and move along the first tangent. -/
  | bumpOffsetU
  /-- Restore the saved state and move along the second tangent. -/
  | bumpOffsetV
  /-- Project the saved point across an axis; the first step saves it. -/
  | triplanarStep (axis : Axis)
  /-- Save the placement and move by the offset on the stack. -/
  | distortSetup
deriving DecidableEq, Repr

namespace Op

def name : Op → String
  | eval kind => kind.name
  | bumpOffsetU => "BumpOffsetU"
  | bumpOffsetV => "BumpOffsetV"
  | triplanarStep .x => "TriplanarStep1"
  | triplanarStep .y => "TriplanarStep2"
  | triplanarStep .z => "TriplanarStep3"
  | distortSetup => "DistortSetup"

/-- Number of the operation in an uploaded instruction. -/
def code : Op → Nat
  | eval kind => kind.index
  | bumpOffsetU => 3
  | bumpOffsetV => 4
  | triplanarStep axis => 5 + axis.index
  | distortSetup => 8

/-- All operations, in the order of their codes. -/
def all : List Op :=
  [eval .float, eval .spectrum, eval .bump, bumpOffsetU, bumpOffsetV,
   triplanarStep .x, triplanarStep .y, triplanarStep .z, distortSetup]

/-- Operation of a code. -/
def ofCode? (code : Nat) : Option Op :=
  all[code]?

def ofName? (name : String) : Option Op :=
  all.find? (·.name == name)

@[simp]
theorem ofCode?_code (op : Op) : ofCode? op.code = some op := by
  rcases op with kind | _ | _ | axis | _
  · cases kind <;> rfl
  · rfl
  · rfl
  · cases axis <;> rfl
  · rfl

end Op

structure Instruction where
  node : NodeId
  op : Op
deriving DecidableEq, Repr

end TextureGraph
