import Lindenmayer.Scalar.Basic

/-!
Colours as red, green and blue, and the ways to make them from hue and saturation.
-/
namespace Lindenmayer

/-- A colour. Channels are meant for 0 to 255, but some spellings give others. -/
structure Colour where
  red : Int
  green : Int
  blue : Int
deriving DecidableEq, Repr, Inhabited

namespace Colour

/-- The colour with every channel brought into 0 to 255. -/
def clipped (c : Colour) : Colour :=
  let clip (n : Int) : Int := Max.max 0 (Min.min 255 n)
  ⟨clip c.red, clip c.green, clip c.blue⟩

/-- A colour with its opacity as a fourth channel. -/
structure Filled where
  colour : Colour
  alpha : Int
deriving DecidableEq, Repr, Inhabited

variable {K : Type} [Scalar K]

/-- The channel of a number of the unit interval. -/
def channel (x : K) : Except Failure Int :=
  Scalar.truncate (x * Scalar.ofInt 255 + Scalar.half Scalar.one)

/-- The colour with channels of the unit interval. -/
def ofUnits (r g b : K) : Except Failure Colour := do
  return ⟨← channel r, ← channel g, ← channel b⟩

/-- The colour of a hue in turns, a saturation and a value: the hue's sector of six says which
    channels take the value, and which the least. -/
def ofHsv (h s v : K) : Except Failure Colour := do
  if Scalar.isZero s then ofUnits v v v
  else
    let one : K := Scalar.one
    let sectors := h * Scalar.ofInt 6
    let i ← Scalar.truncate sectors
    let f := sectors - Scalar.ofInt i
    let p := v * (one - s)
    let q := v * (one - s * f)
    let t := v * (one - s * (one - f))
    match (i % 6).toNat with
    | 0 => ofUnits v t p
    | 1 => ofUnits q v p
    | 2 => ofUnits p v t
    | 3 => ofUnits p q v
    | 4 => ofUnits t p v
    | _ => ofUnits v p q

/-- One channel of a colour between a low and a high lightness, for a hue in turns. -/
def lightnessAt (low high hue : K) : K :=
  let third : K := Scalar.ofInt 2 / Scalar.ofInt 3
  let hue := Scalar.floorMod hue Scalar.one
  if Scalar.lt hue (Scalar.one / Scalar.ofInt 6) then low + (high - low) * hue * Scalar.ofInt 6
  else if Scalar.lt hue (Scalar.half Scalar.one) then high
  else if Scalar.lt hue third then low + (high - low) * (third - hue) * Scalar.ofInt 6
  else low

/-- The colour of a hue in turns, a lightness and a saturation. -/
def ofHls (h l s : K) : Except Failure Colour :=
  if Scalar.isZero s then ofUnits l l l
  else
    let high :=
      if Scalar.lt (Scalar.half Scalar.one) l then l + s - l * s else l * (Scalar.one + s)
    let low := Scalar.ofInt 2 * l - high
    let third : K := Scalar.one / Scalar.ofInt 3
    ofUnits (lightnessAt low high (h + third)) (lightnessAt low high h)
      (lightnessAt low high (h - third))

end Colour

end Lindenmayer
