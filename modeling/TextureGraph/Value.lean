import TextureGraph.Fault
import TextureGraph.Vector

/-!
# Values and operands

The result of an evaluation, and the flat list of numbers from which a texture
takes the results of its inputs, first input first.
-/

namespace TextureGraph

/-- A number, or a vector that is a colour or a normal. -/
inductive Value where
  | float (value : Binary32)
  | vector (value : Vec3)
deriving DecidableEq, Repr

namespace Value

/-- Components in stack order. -/
def toList : Value → List Binary32
  | float value => [value]
  | vector value => value.toList

/-- The value as a number; of a vector, its first component. -/
def toFloat : Value → Binary32
  | float value => value
  | vector value => value.x

/-- The value as a vector; a number fills all components. -/
def toVector : Value → Vec3
  | float value => Vec3.splat value
  | vector value => value

end Value

/-- A computation that reads operands from the front of a list and leaves the rest. -/
abbrev Operands (α : Type) := StateT (List Binary32) (Except Fault) α

namespace Operands

/-- Read one number. -/
def float : Operands Binary32
  | value :: rest => .ok (value, rest)
  | [] => .error .missingOperand

/-- Read two numbers as a vector. -/
def vector2 : Operands Vec2 := do
  let x ← float
  let y ← float
  return ⟨x, y⟩

/-- Read three numbers as a vector. -/
def vector : Operands Vec3 := do
  let x ← float
  let y ← float
  let z ← float
  return ⟨x, y, z⟩

/-- Turn an absent value into a fault. -/
def demand {α : Type} (fault : Fault) (value : Option α) : Operands α :=
  liftM (fault.demand value)

@[simp]
theorem run_float_cons (value : Binary32) (rest : List Binary32) :
    float.run (value :: rest) = .ok (value, rest) := rfl

@[simp]
theorem run_vector_toList_append (value : Vec3) (rest : List Binary32) :
    vector.run (value.toList ++ rest) = .ok (value, rest) := rfl

end Operands

end TextureGraph
