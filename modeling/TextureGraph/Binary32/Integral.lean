import TextureGraph.Binary32.Rounding

/-!
# Integral parts and remainders

Floor, truncation, saturating conversion to an integer and the exact remainder
are computed on significand and exponent, without rounding.
-/

namespace TextureGraph

namespace Binary32

/-- Whether the number has no binary places, as infinities and NaNs have none. -/
def isWhole (x : Binary32) : Bool :=
  decide (0 ≤ x.exponent)

/-- Weight of one in units of the last place, for a number with binary places. -/
def unitScale (x : Binary32) : Nat :=
  Nat.pow 2 (-x.exponent).toNat

/-- Integral number with a sign, which is kept on a zero. -/
def ofSigned (negative : Bool) (n : Nat) : Binary32 :=
  ofRatio negative n 1

/-- Round toward zero; the sign stays. -/
def trunc (x : Binary32) : Binary32 :=
  if x.isWhole then x else ofSigned x.isNegative (x.significand / x.unitScale)

/-- The largest integral number not above `x`. -/
def floor (x : Binary32) : Binary32 :=
  if x.isWhole then x
  else if x.isNegative then
    ofSigned true ((x.significand + (x.unitScale - 1)) / x.unitScale)
  else ofSigned false (x.significand / x.unitScale)

/-- The part behind the binary point, with the sign of `x`. -/
def fract (x : Binary32) : Binary32 :=
  x - x.trunc

/-- Size of the number rounded toward zero. -/
def wholePart (x : Binary32) : Nat :=
  if x.isWhole then x.significand * Nat.pow 2 x.exponent.toNat
  else x.significand / x.unitScale

/-- Round toward zero into `[low, high]`; a NaN becomes zero. -/
def toIntClamped (x : Binary32) (low high : Int) : Int :=
  if x.isNaN then 0
  else max low (min high (if x.isNegative then -(x.wholePart : Int) else x.wholePart))

/-- Round toward zero into the 32-bit integers. -/
def toInt32 (x : Binary32) : Int :=
  x.toIntClamped (-0x80000000) 0x7fffffff

/-- Round toward zero into the 64-bit integers. -/
def toInt64 (x : Binary32) : Int :=
  x.toIntClamped (-0x8000000000000000) 0x7fffffffffffffff

/-- Round toward zero into the naturals below `2 ^ 64`. -/
def toNat64 (x : Binary32) : Nat :=
  (x.toIntClamped 0 0xffffffffffffffff).toNat

/-- Round toward zero into the naturals below `2 ^ 32`. -/
def toNat32 (x : Binary32) : Nat :=
  (x.toIntClamped 0 0xffffffff).toNat

/-- Exact remainder of the division that rounds toward zero, with the sign of
the dividend. -/
def remainder (x y : Binary32) : Binary32 :=
  if x.isNaN || y.isNaN || !x.isFinite || y.magnitude == 0 then nan
  else if !y.isFinite then x
  else
    let place := min x.exponent y.exponent
    let dividend := x.significand * Nat.pow 2 (x.exponent - place).toNat
    let divisor := y.significand * Nat.pow 2 (y.exponent - place).toNat
    ofScaled x.isNegative (dividend % divisor) place

/-- Remainder lifted to the non-negative numbers; the lifting sum is rounded, so
the result can reach `|y|`. -/
def remEuclid (x y : Binary32) : Binary32 :=
  let r := x.remainder y
  if r < 0 then r + y.abs else r

end Binary32

end TextureGraph
