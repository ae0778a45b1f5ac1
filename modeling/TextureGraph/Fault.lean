/-!
# Faults

What evaluation would have to make up a value for: a reference or an operand that
is not there. Tables built by edits never lead to one.
-/

namespace TextureGraph

inductive Fault where
  | missingNode (id : Nat)
  | missingChild (slot : Nat)
  | missingImage (image : Nat)
  | missingPixel (image : Nat)
  | missingControlPoint
  | missingOperand
  /-- A child that does not come before its parent. -/
  | forwardReference (child : Nat)
  /-- A number that has no closed form. -/
  | noClosedForm
  /-- More operands than the operand buffer of an instruction holds. -/
  | tooManyOperands (count : Nat)
deriving DecidableEq, Repr

namespace Fault

/-- Demand a value, or else raise a fault. -/
def demand {α : Type} (fault : Fault) : Option α → Except Fault α
  | some value => .ok value
  | none => .error fault

end Fault

end TextureGraph
