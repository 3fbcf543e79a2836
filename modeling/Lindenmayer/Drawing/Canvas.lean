import Lindenmayer.Drawing.Fit
import Lindenmayer.Colour.Reader

/-!
Steps fitted into a canvas, and the calls that draw them there pixel by pixel. On a canvas a line
has a whole width, and opacity is not seen.
-/
namespace Lindenmayer

/-- A step on a canvas: its shape, with the width of a line in pixels apart. -/
structure CanvasStep (K : Type) where
  step : Step K
  /-- The width of a line in pixels; none for other shapes. -/
  lineWidth : Option Int
deriving Repr, Inhabited

namespace CanvasStep

variable {K : Type} [Scalar K]

/-- Where a point comes to lie on the canvas. -/
def place (f : Fit K) (p : Point K) : Point K :=
  ⟨p.x * f.scale + f.offsetX, p.y * f.scale + f.offsetY⟩

/-- A step brought into the frame. Sizes lose their sign; a line is at least one pixel wide. -/
def ofStep (f : Fit K) (s : Step K) : Except Failure (CanvasStep K) :=
  match s.shape with
  | .line start stop width => do
    let pixels := Max.max 1 (← Scalar.round (width * f.scale))
    return ⟨{ s with shape := .line (place f start) (place f stop) (Scalar.ofInt pixels) }, some pixels⟩
  | .circle centre radius =>
    .ok ⟨{ s with shape := .circle (place f centre) (Scalar.abs radius * f.scale) }, none⟩
  | .rectangle centre width height =>
    let w := Scalar.abs width * f.scale
    let h := Scalar.abs height * f.scale
    .ok ⟨{ s with shape := .rectangle (place f centre) w h }, none⟩

/-- Steps brought into a frame. -/
def ofSteps (steps : List (Step K)) (frame : Frame) (padding : Int) :
    Except Failure (List (CanvasStep K)) := do
  let f ← Fit.ofSteps (steps.map Step.record) frame padding true
  steps.mapM (ofStep f)

end CanvasStep

/-- A point in whole pixels. -/
structure Pixel where
  x : Int
  y : Int
deriving DecidableEq, Repr, Inhabited

/-- A call that draws on a canvas. -/
inductive Canvas.Call where
  | line (start stop : Pixel) (colour : Colour) (width : Int)
  | circle (centre : Pixel) (radius : Int) (colour : Colour)
  | rectangle (low high : Pixel) (colour : Colour)
deriving DecidableEq, Repr, Inhabited

/-- A canvas: its frame and background, and the calls on it, the last first. -/
structure Canvas where
  frame : Frame
  background : Colour
  calls : List Canvas.Call
deriving DecidableEq, Repr, Inhabited

namespace Canvas

/-- An empty canvas; channels count modulo 256. -/
def blank (frame : Frame) (background : Colour) : Except Failure Canvas :=
  if frame.width < 0 ∨ frame.height < 0 then .error .negativeDimensions
  else
    .ok { frame, background := ⟨background.red % 256, background.green % 256, background.blue % 256⟩
          calls := [] }

variable {K : Type} [Scalar K]

/-- The pixel nearest to a point. -/
def pixel (p : Point K) : Except Failure Pixel := do
  let x ← Scalar.round p.x
  let y ← Scalar.round p.y
  return ⟨x, y⟩

/-- The call that draws a step, none for a step of no known type. -/
def callOf (r : StepRecord K) : Except Failure (Option Call) := do
  let colour ← Colour.ofText K (← r.readColour)
  match ← r.readType with
  | none => return none
  | some .line =>
    let start ← pixel (← r.readStart)
    let stop ← pixel (← r.readStop)
    let width ← Scalar.truncate (← r.readWidth)
    return some (.line start stop colour (Max.max 1 width))
  | some .circle =>
    let centre ← pixel (← r.readCentre)
    let radius ← Scalar.round (← r.readRadius)
    return some (.circle centre (Max.max 1 radius) colour)
  | some .rectangle =>
    let dx := Scalar.half (← r.readWidth)
    let dy := Scalar.half (← r.readHeight)
    let centre ← r.readCentre
    let low ← pixel ⟨centre.x - dx, centre.y - dy⟩
    let high ← pixel ⟨centre.x + dx, centre.y + dy⟩
    return some (.rectangle low high colour)

/-- Draws a step. -/
def draw (c : Canvas) (r : StepRecord K) : Except Failure Canvas := do
  return { c with calls := (← callOf r).toList ++ c.calls }

end Canvas

end Lindenmayer
