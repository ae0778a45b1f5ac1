import TextureGraph.Binary32.Basic

/-!
# Rounding to a floating-point format

Exact ratios of naturals are rounded to a given number of significant bits, to
the nearest and on a tie to the even neighbour, with gradual underflow. Decimal
literals and integers become binary32 numbers this way. Products and quotients of
rounded numbers are rounded again, without regard to the largest exponent.
-/

namespace TextureGraph

/-- Nearest natural to `num / den`; a tie goes to the even neighbour. -/
def roundQuotient (num den : Nat) : Nat :=
  let quotient := num / den
  let twice := 2 * (num % den)
  if twice < den then quotient
  else if den < twice then quotient + 1
  else quotient + quotient % 2

/-- The integer part of the binary logarithm of `num / den`. -/
def floorLog2 (num den : Nat) : Int :=
  let guess : Int := (num.log2 : Int) - den.log2
  if den * Nat.pow 2 guess.toNat ≤ num * Nat.pow 2 (-guess).toNat then guess
  else guess - 1

/-- A binary format: how many significant bits it has, and the exponent of its
least subnormal number. -/
structure FloatFormat where
  precision : Nat
  minExponent : Int
deriving DecidableEq, Repr

namespace FloatFormat

def binary32 : FloatFormat := ⟨24, -149⟩

def binary64 : FloatFormat := ⟨53, -1074⟩

/-- Significand and exponent of the nearest number of the format to `num / den`,
without regard to its largest exponent. The significand may be two to the
precision, which stands for the next binade. -/
def round (format : FloatFormat) (num den : Nat) : Nat × Int :=
  if num = 0 then (0, format.minExponent)
  else
    let exponent := max (floorLog2 num den + 1 - format.precision) format.minExponent
    (roundQuotient (num * Nat.pow 2 (-exponent).toNat) (den * Nat.pow 2 exponent.toNat),
      exponent)

/-- Nearest number of the format to `num / den * 2 ^ exponent`. -/
def roundScaled (format : FloatFormat) (num den : Nat) (exponent : Int) : Nat × Int :=
  format.round (num * Nat.pow 2 exponent.toNat) (den * Nat.pow 2 (-exponent).toNat)

/-- Rounded product of two numbers, given by significand and exponent. -/
def mul (format : FloatFormat) (x y : Nat × Int) : Nat × Int :=
  format.roundScaled (x.1 * y.1) 1 (x.2 + y.2)

/-- Rounded quotient of two numbers, given by significand and exponent. -/
def div (format : FloatFormat) (x y : Nat × Int) : Nat × Int :=
  format.roundScaled x.1 y.1 (x.2 - y.2)

end FloatFormat

namespace Binary32

/-- The number with a given significand and exponent of the last place; too
large a number becomes an infinity. In the pattern of a normal number the leading
bit of the significand raises the exponent field by one. -/
def ofSignificand (negative : Bool) : Nat × Int → Binary32
  | (significand, exponent) =>
      ofMagnitude negative
        (min ((exponent + 149).toNat * 0x800000 + significand) infinityMagnitude)

/-- Nearest binary32 number to `±num / den`. -/
def ofRatio (negative : Bool) (num den : Nat) : Binary32 :=
  ofSignificand negative (FloatFormat.binary32.round num den)

/-- Nearest binary32 number to `±significand * 2 ^ exponent`. -/
def ofScaled (negative : Bool) (significand : Nat) (exponent : Int) : Binary32 :=
  ofSignificand negative (FloatFormat.binary32.roundScaled significand 1 exponent)

protected def ofNat (n : Nat) : Binary32 :=
  ofRatio false n 1

/-- Nearest binary32 number to `digits * 10 ^ exponent`. -/
def ofDecimal (digits : Nat) (exponent : Int) : Binary32 :=
  ofRatio false (digits * Nat.pow 10 exponent.toNat) (Nat.pow 10 (-exponent).toNat)

instance (n : Nat) : OfNat Binary32 n := ⟨Binary32.ofNat n⟩

instance : OfScientific Binary32 where
  ofScientific digits exponentIsNegative exponent :=
    ofDecimal digits (if exponentIsNegative then -(exponent : Int) else exponent)

end Binary32

end TextureGraph
