/-!
# Single-precision numbers

A number is its 32-bit pattern, so two numbers are equal as values of the type
exactly when they are bit-identical; the numeric comparisons are separate.
Order and classification read the pattern directly. Sums, products, quotients
and square roots are the correctly rounded operations of binary32.
-/

namespace TextureGraph

/-- A binary32 number, held as its bit pattern. -/
structure Binary32 where
  bits : UInt32
deriving DecidableEq, Repr, Inhabited

namespace Binary32

/-! ## Fields of the pattern -/

/-- The pattern without its sign bit. -/
def magnitude (x : Binary32) : Nat :=
  x.bits.toNat % 0x80000000

/-- The sign bit, which zeros and NaNs carry too. -/
def isNegative (x : Binary32) : Bool :=
  decide (0x80000000 ≤ x.bits.toNat)

/-- Magnitude pattern of the infinities. -/
def infinityMagnitude : Nat := 0x7f800000

def isNaN (x : Binary32) : Bool :=
  decide (infinityMagnitude < x.magnitude)

/-- Whether the number is a NaN whose leading fraction bit is clear. -/
def isSignaling (x : Binary32) : Bool :=
  x.isNaN && decide (x.magnitude < 0x7fc00000)

def isFinite (x : Binary32) : Bool :=
  decide (x.magnitude < infinityMagnitude)

/-- Build a number from a sign and a magnitude pattern. -/
def ofMagnitude (negative : Bool) (magnitude : Nat) : Binary32 :=
  ⟨UInt32.ofNat (magnitude + if negative then 0x80000000 else 0)⟩

def zero : Binary32 := ⟨0⟩

def one : Binary32 := ⟨0x3f800000⟩

def infinity : Binary32 := ⟨0x7f800000⟩

/-- The quiet NaN without payload. -/
def nan : Binary32 := ⟨0x7fc00000⟩

/-- Integer significand of a finite number, below `2 ^ 24`. -/
def significand (x : Binary32) : Nat :=
  if x.magnitude < 0x800000 then x.magnitude else x.magnitude % 0x800000 + 0x800000

/-- Exponent of the last place: a finite number is its significand times two to
this power. The least one is that of the subnormal numbers. -/
def exponent (x : Binary32) : Int :=
  if x.magnitude < 0x800000 then -149 else (x.magnitude / 0x800000 : Nat) - 150

/-! ## Comparison -/

/-- Position on the number line, which both zeros share. Patterns of one sign
are ordered as their magnitudes. -/
def rank (x : Binary32) : Int :=
  if x.isNegative then -(x.magnitude : Int) else x.magnitude

/-- Numeric equality: zeros are equal and a NaN equals nothing. -/
def numEq (x y : Binary32) : Bool :=
  !x.isNaN && !y.isNaN && x.rank == y.rank

protected def lt (x y : Binary32) : Bool :=
  !x.isNaN && !y.isNaN && decide (x.rank < y.rank)

protected def le (x y : Binary32) : Bool :=
  !x.isNaN && !y.isNaN && decide (x.rank ≤ y.rank)

instance : LT Binary32 := ⟨fun x y => Binary32.lt x y = true⟩

instance : LE Binary32 := ⟨fun x y => Binary32.le x y = true⟩

instance (x y : Binary32) : Decidable (x < y) :=
  inferInstanceAs (Decidable (Binary32.lt x y = true))

instance (x y : Binary32) : Decidable (x ≤ y) :=
  inferInstanceAs (Decidable (Binary32.le x y = true))

/-- Number-line order is what `<` means between numbers that are not NaN. -/
theorem lt_iff {x y : Binary32} :
    x < y ↔ x.isNaN = false ∧ y.isNaN = false ∧ x.rank < y.rank := by
  change Binary32.lt x y = true ↔ _
  simp [Binary32.lt, and_assoc]

theorem le_iff {x y : Binary32} :
    x ≤ y ↔ x.isNaN = false ∧ y.isNaN = false ∧ x.rank ≤ y.rank := by
  change Binary32.le x y = true ↔ _
  simp [Binary32.le, and_assoc]

theorem isNaN_eq_false_of_isFinite {x : Binary32} (finite : x.isFinite) : x.isNaN = false := by
  simp only [isFinite, isNaN, decide_eq_true_eq, decide_eq_false_iff_not] at finite ⊢
  omega

/-- Of two finite numbers one lies at or below the other. -/
theorem le_of_not_lt {x y : Binary32} (xFinite : x.isFinite) (yFinite : y.isFinite)
    (notBelow : ¬ y < x) : x ≤ y := by
  have xNumber := isNaN_eq_false_of_isFinite xFinite
  have yNumber := isNaN_eq_false_of_isFinite yFinite
  simp only [lt_iff, xNumber, yNumber, true_and, Int.not_lt] at notBelow
  exact le_iff.mpr ⟨xNumber, yNumber, notBelow⟩

theorem not_lt_of_le {x y : Binary32} (le : x ≤ y) : ¬ y < x := by
  intro lt
  exact Int.not_lt.mpr (le_iff.mp le).2.2 (lt_iff.mp lt).2.2

protected theorem le_trans {x y z : Binary32} (first : x ≤ y) (second : y ≤ z) : x ≤ z := by
  rw [le_iff] at first second ⊢
  exact ⟨first.1, second.2.1, Int.le_trans first.2.2 second.2.2⟩

/-- The larger number; a NaN operand yields the other one. -/
protected def max (x y : Binary32) : Binary32 :=
  if x.isNaN then y else if y.isNaN then x else if x < y then y else x

/-- The smaller number; a NaN operand yields the other one. -/
protected def min (x y : Binary32) : Binary32 :=
  if x.isNaN then y else if y.isNaN then x else if y < x then y else x

/-- Clamp to `[low, high]`; a NaN stays a NaN. -/
def clamp (x low high : Binary32) : Binary32 :=
  let raised := if x < low then low else x
  if high < raised then high else raised

/-- Clamp to the unit interval. -/
def clampUnit (x : Binary32) : Binary32 :=
  x.clamp zero one

/-! ## Sign -/

/-- Clear the sign bit, of NaNs too. -/
def abs (x : Binary32) : Binary32 :=
  ⟨x.bits &&& 0x7fffffff⟩

/-- Flip the sign bit, of NaNs too. -/
instance : Neg Binary32 := ⟨fun x => ⟨x.bits ^^^ 0x80000000⟩⟩

/-! ## Rounded arithmetic -/

/-- The number as a word of the machine's arithmetic. -/
def toWord (x : Binary32) : Float32 :=
  Float32.ofBits x.bits

def ofWord (x : Float32) : Binary32 :=
  ⟨x.toBits⟩

instance : Add Binary32 := ⟨fun x y => ofWord (x.toWord + y.toWord)⟩

instance : Sub Binary32 := ⟨fun x y => ofWord (x.toWord - y.toWord)⟩

instance : Mul Binary32 := ⟨fun x y => ofWord (x.toWord * y.toWord)⟩

instance : Div Binary32 := ⟨fun x y => ofWord (x.toWord / y.toWord)⟩

/-- Correctly rounded square root. -/
def sqrt (x : Binary32) : Binary32 :=
  ofWord x.toWord.sqrt

/-- Sine of an angle in radians. -/
def sin (x : Binary32) : Binary32 :=
  ofWord x.toWord.sin

/-- Power of real numbers. A zero exponent and a base of one give one, even beside
a quiet NaN; a signaling NaN always gives a NaN. -/
def pow (base exponent : Binary32) : Binary32 :=
  if base.isSignaling || exponent.isSignaling then nan
  else ofWord (base.toWord.pow exponent.toWord)

end Binary32

end TextureGraph
