import Lindenmayer.Colour.Reader
import Lindenmayer.Text.Quoted
import Lindenmayer.Decimal.Fixed

/-!
The colours of pens. A turtle's pen has a hue, a saturation and a brightness; a step is drawn in the
`#` spelling of the colour that they give at three places (`Pen.colourText`). `Pen.ofRgb` goes from
red, green and blue to the turtle's numbers.
-/
namespace Lindenmayer.Pen

variable {K : Type} [Scalar K]

/-- A channel as two hexadecimal digits. -/
def channelText (n : Int) : List Char := Decimal.padLeft 2 (Nat.toDigits 16 n.toNat)

/-- The `#` spelling of a colour. -/
def hashText (c : Colour) : Text :=
  ('#' :: channelText c.red ++ channelText c.green ++ channelText c.blue).map Text.ofChar

/-- The `hsv` spelling of a pen: the hue within one turn, the others within the unit interval, all
    with three places. -/
def hsvText (hue saturation brightness : K) : Text :=
  let percent (x : K) : List Char := Scalar.fixed 3 (Scalar.clampUnit x * Scalar.ofInt 100)
  ("hsv(".toList ++ Scalar.fixed 3 (Scalar.floorMod hue (Scalar.ofInt 360)) ++ ",".toList ++
    percent saturation ++ "%,".toList ++ percent brightness ++ "%)".toList).map Text.ofChar

/-- The `#` spelling of a pen's colour. -/
def colourText (hue saturation brightness : K) : Except Failure Text := do
  return hashText (← Colour.ofText K (hsvText hue saturation brightness))

/-- What is given as red, green and blue: one number alone, or numbers in a list. -/
inductive Components (K : Type) where
  | bare (x : K)
  | list (xs : List K)
deriving Repr, Inhabited

/-- A component brought into the unit interval; zero loses its sign there. -/
def clipUnit (x : K) : K :=
  if Scalar.isNan x then x
  else if !Scalar.lt Scalar.zero x then Scalar.zero
  else if Scalar.lt x Scalar.one then x
  else Scalar.one

/-- The three components, brought into the unit interval. -/
def Components.triple : Components K → Except Failure (K × K × K)
  | .bare _ => .error .wrongKind
  | .list [r, g, b] => .ok (clipUnit r, clipUnit g, clipUnit b)
  | .list xs => .error (if xs.length < 3 then .tooFewParts 3 xs.length else .tooManyParts 3)

/-- Hue in degrees, saturation and brightness of a pen. -/
structure Hsv (K : Type) where
  hue : K
  saturation : K
  brightness : K
deriving Repr, Inhabited

/-- The pen of components of the unit interval: the greatest is the brightness, the distance to the
    least the saturation, and the place of the middle one the hue. -/
def ofUnits (r g b : K) : Hsv K :=
  let most := Scalar.max (Scalar.max r g) b
  let delta := most - Scalar.min (Scalar.min r g) b
  let six : K := Scalar.ofInt 6
  let hue :=
    if Scalar.isZero delta then Scalar.zero
    else if Scalar.same most r then Scalar.floorMod ((g - b) / delta) six
    else if Scalar.same most g then (b - r) / delta + Scalar.ofInt 2
    else (r - g) / delta + Scalar.ofInt 4
  { hue := Scalar.floorMod (hue * Scalar.ofInt 60) (Scalar.ofInt 360)
    saturation := if Scalar.isZero most then Scalar.zero else delta / most
    brightness := most }

/-- The pen of red, green and blue. -/
def ofRgb (rgb : Components K) : Except Failure (Hsv K) := do
  let (r, g, b) ← rgb.triple
  return ofUnits r g b

end Lindenmayer.Pen
