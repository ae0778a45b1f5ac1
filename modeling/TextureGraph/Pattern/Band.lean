import TextureGraph.Vector

/-!
# Colour bands

A band assigns colours to offsets on a line and interpolates between neighbours.
An amount before the first offset, or a NaN, reads the first colour; one from the
last offset on reads the last colour.
-/

namespace TextureGraph

/-- Control points of a colour band, offsets apart from colours. -/
structure Band where
  offsets : List Binary32
  values : List Vec3
deriving DecidableEq, Repr

namespace Band

/-- The largest number of control points of a band in a table. -/
def maxPoints : Nat := 16

/-- Number of offsets that have a colour. -/
def pairedCount (band : Band) : Nat :=
  min band.offsets.length band.values.length

/-- Halving search for the end of the initial run of positions that satisfy a
test, among `size` positions from `base` on. -/
def runEnd (test : Nat → Bool) (base size : Nat) : Nat :=
  if size ≤ 1 then
    if test base then base + 1 else base
  else
    let half := size / 2
    runEnd test (if test (base + half) then base + half else base) (size - half)
termination_by size

/-- Position of the first paired offset above an amount that is not below the
first offset. -/
def upperIndex (band : Band) (amount : Binary32) : Nat :=
  runEnd (fun i => (band.offsets[i]?).any (fun offset => decide (offset ≤ amount)))
    0 band.pairedCount

/-- Colour at an amount, or nothing if a control point that is read is missing. -/
def lookup? (band : Band) (amount : Binary32) : Option Vec3 := do
  let count := band.pairedCount
  if count = 0 then
    return Vec3.zero
  let first ← band.offsets[0]?
  if amount.isNaN || decide (amount < first) then
    return ← band.values[0]?
  let last ← band.offsets[count - 1]?
  if last ≤ amount then
    return ← band.values[count - 1]?
  let upper := band.upperIndex amount
  if upper = 0 ∨ count ≤ upper then
    return ← band.values[min upper (count - 1)]?
  let lowOffset ← band.offsets[upper - 1]?
  let highOffset ← band.offsets[upper]?
  let low ← band.values[upper - 1]?
  let high ← band.values[upper]?
  let span := highOffset - lowOffset
  let t := if 0 < span then (amount - lowOffset) / span else 0
  return low.lerp high t

end Band

end TextureGraph
