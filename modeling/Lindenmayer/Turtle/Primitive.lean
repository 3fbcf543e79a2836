/-!
The primitives that a turtle's drawing is made of.
-/
namespace Lindenmayer

/-- An order to whatever draws. -/
inductive Primitive (K : Type) where
  /-- Puts the pen somewhere without a line. -/
  | moveTo (x y : K)
  /-- Draws a line from where the pen is. -/
  | lineTo (x y : K)
  /-- Sets the width of lines. -/
  | setLineWidth (width : K)
  /-- Sets the colour, by hue in degrees, saturation and brightness, and its opacity. -/
  | setPenColour (hue saturation brightness opacity : K)
  /-- Draws a circle. -/
  | circle (x y radius : K)
  /-- Draws a rectangle around a centre. -/
  | rectangle (x y width height : K)
  /-- Lifts the pen. -/
  | penUp
  /-- Lowers the pen. -/
  | penDown
deriving DecidableEq, Repr, Inhabited

end Lindenmayer
