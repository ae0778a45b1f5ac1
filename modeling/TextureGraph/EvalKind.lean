/-!
# Kinds of evaluation

A texture can be evaluated to a number, to a colour, or to a bumped normal.
-/

namespace TextureGraph

inductive EvalKind where
  | float
  | spectrum
  | bump
deriving DecidableEq, Repr

namespace EvalKind

/-- All kinds, in the order of an address table. -/
def all : List EvalKind := [float, spectrum, bump]

/-- Number of stack slots that a result takes. -/
def width : EvalKind → Nat
  | float => 1
  | spectrum | bump => 3

/-- Position in `all`. -/
def index : EvalKind → Nat
  | float => 0
  | spectrum => 1
  | bump => 2

def name : EvalKind → String
  | float => "Float"
  | spectrum => "Spectrum"
  | bump => "Bump"

def ofName? : String → Option EvalKind
  | "Float" => some float
  | "Spectrum" => some spectrum
  | "Bump" => some bump
  | _ => none

end EvalKind

/-- One value for each kind of evaluation. -/
structure PerKind (α : Type) where
  float : α
  spectrum : α
  bump : α
deriving DecidableEq, Repr

namespace PerKind

variable {α β : Type}

def get (values : PerKind α) : EvalKind → α
  | .float => values.float
  | .spectrum => values.spectrum
  | .bump => values.bump

/-- Values in the order of `EvalKind.all`. -/
def toList (values : PerKind α) : List α :=
  [values.float, values.spectrum, values.bump]

def map (f : α → β) (values : PerKind α) : PerKind β :=
  ⟨f values.float, f values.spectrum, f values.bump⟩

@[simp]
theorem get_map (f : α → β) (values : PerKind α) (kind : EvalKind) :
    (values.map f).get kind = f (values.get kind) := by
  cases kind <;> rfl

@[simp]
theorem toList_map (f : α → β) (values : PerKind α) :
    (values.map f).toList = values.toList.map f := rfl

@[simp]
theorem toList_getElem?_index (values : PerKind α) (kind : EvalKind) :
    values.toList[kind.index]? = some (values.get kind) := by
  cases kind <;> rfl

end PerKind

end TextureGraph
