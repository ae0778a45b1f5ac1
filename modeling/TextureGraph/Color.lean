import TextureGraph.Vector

/-!
# Colours

A colour is a vector of linear red, green and blue. The hue of a colour is a
fraction of a full turn; saturation and value follow the hexcone model.
-/

namespace TextureGraph

abbrev Color := Vec3

namespace Color

/-- Relative luminance of a linear colour with the sRGB primaries. -/
def luminance (c : Color) : Binary32 :=
  0.212671 * c.x + 0.715160 * c.y + 0.072169 * c.z

/-- Hue, saturation and value of a colour, in this order. Grey has hue zero. -/
def toHsv (c : Color) : Vec3 :=
  let highest := Vec3.maxComponent c
  let lowest := Vec3.minComponent c
  let chroma := highest - lowest
  let saturation := if 0 < highest then chroma / highest else 0
  let sextant :=
    if chroma ≤ 0 then 0
    else if highest.numEq c.x then ((c.y - c.z) / chroma).remEuclid 6
    else if highest.numEq c.y then (c.z - c.x) / chroma + 2
    else (c.x - c.y) / chroma + 4
  ⟨sextant / 6, saturation, highest⟩

/-- Hue in sixths of a turn, wrapped into one turn. -/
def hueSextant (hue : Binary32) : Binary32 :=
  hue.remEuclid 1 * 6

/-- The sixth of the hue circle in which a hue falls. -/
def hueSector (hue : Binary32) : Nat :=
  (hueSextant hue).floor.toNat32

/-- Colour of a hue, saturation and value. -/
def ofHsv (hsv : Vec3) : Color :=
  let hue := hsv.x
  let saturation := hsv.y
  let value := hsv.z
  if saturation ≤ 0 then Vec3.splat value
  else
    let sextant := hueSextant hue
    let along := sextant - sextant.floor
    let bottom := value * (1 - saturation)
    let falling := value * (1 - saturation * along)
    let rising := value * (1 - saturation * (1 - along))
    match hueSector hue with
    | 0 => ⟨value, rising, bottom⟩
    | 1 => ⟨falling, value, bottom⟩
    | 2 => ⟨bottom, value, rising⟩
    | 3 => ⟨bottom, falling, value⟩
    | 4 => ⟨rising, bottom, value⟩
    | _ => ⟨value, bottom, falling⟩

/-- Rotate the hue by `hue - 0.5` turns, scale the saturation within the unit
interval, and scale the value. -/
def adjustHsv (c : Color) (hue saturation value : Binary32) : Color :=
  let hsv := c.toHsv
  ofHsv ⟨hsv.x + (hue - 0.5), (hsv.y * saturation).clampUnit, hsv.z * value⟩

end Color

end TextureGraph
