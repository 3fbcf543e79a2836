import Lindenmayer.Drawing.Fit
import Lindenmayer.Colour.Reader

/-!
Pictures made of pixels, as the calls that draw them. Fills are translucent, so the calls are in
the order of the steps.
-/
namespace Lindenmayer

/-- A call that draws. -/
inductive Picture.Call (K : Type) where
  | line (start stop : Point K) (fill : Colour.Filled) (width : Int)
  | ellipse (low high : Point K) (fill : Colour.Filled)
  | rectangle (low high : Point K) (fill : Colour.Filled)
deriving DecidableEq, Repr, Inhabited

/-- A picture: its frame and background, and the calls on it; none if nothing was to be drawn. -/
structure Picture (K : Type) where
  frame : Frame
  background : Colour
  calls : Option (List (Picture.Call K))
deriving Repr, Inhabited

namespace Picture

variable {K : Type} [Scalar K]

/-- The fill of a colour's text and an opacity: the opacity as a channel of 0 to 255. -/
def fill (colour : Text) (opacity : K) : Except Failure Colour.Filled := do
  let colour ← Colour.ofText K colour
  let alpha ← Scalar.round (Scalar.clampUnit opacity * Scalar.ofInt 255)
  return { colour, alpha }

/-- A box around a centre. -/
def box (make : Point K → Point K → Colour.Filled → Call K) (centre : Point K) (dx dy : K)
    (fill : Colour.Filled) : Call K :=
  make ⟨centre.x - dx, centre.y - dy⟩ ⟨centre.x + dx, centre.y + dy⟩ fill

/-- Where a point comes to lie on the picture. -/
def place (f : Fit K) (p : Point K) : Point K :=
  ⟨p.x * f.scale + f.offsetX, p.y * f.scale + f.offsetY⟩

/-- The call that draws a shape. Sizes lose their sign; a line is at least one pixel wide. -/
def call (f : Fit K) (fill : Colour.Filled) : Shape K → Except Failure (Call K)
  | .line start stop width => do
    let pixels ← Scalar.round (width * f.scale)
    return .line (place f start) (place f stop) fill (Max.max 1 pixels)
  | .circle centre radius =>
    let r := Scalar.abs radius * f.scale
    .ok (box .ellipse (place f centre) r r fill)
  | .rectangle centre width height =>
    let dx := Scalar.half (Scalar.abs width * f.scale)
    let dy := Scalar.half (Scalar.abs height * f.scale)
    .ok (box .rectangle (place f centre) dx dy fill)

/-- The call of a step; a step of no known type has a fill but no call. -/
def callOf (f : Fit K) (r : StepRecord K) : Except Failure (Option (Call K)) := do
  let colour ← r.readColour
  let fill ← fill colour (← r.readOpacity)
  match ← r.readShape with
  | some shape => return some (← call f fill shape)
  | none => return none

/-- The calls of steps. -/
def callsOf (f : Fit K) (steps : List (StepRecord K)) : Except Failure (List (Call K)) := do
  return (← steps.mapM (callOf f)).filterMap id

/-- The greatest integer of so many bits, one of them the sign. -/
def greatest (bits : Nat) : Int := Nat.pow 2 (bits - 1) - 1

/-- Checks whether a picture has numbers for its size and background: 64 bits for the red channel, and
    32 for all else. -/
def checkNumbers (frame : Frame) (background : Colour) : Except Failure Unit :=
  if greatest 32 < frame.width ∨ greatest 32 < frame.height ∨ greatest 64 < background.red ∨
      greatest 32 < background.green ∨ greatest 32 < background.blue then .error .overflow
  else .ok ()

/-- An empty picture. The signs of its size are looked at before its background; without one it is
    black. -/
def blank (frame : Frame) (background : Option Text) : Except Failure (Picture K) := do
  if frame.width < 0 ∨ frame.height < 0 then .error .negativeSize
  else
    let background ← match background with
      | none => pure ⟨0, 0, 0⟩
      | some name => Colour.ofText K name
    checkNumbers frame background
    return { frame, background := background.clipped, calls := none }

/-- The picture of steps. -/
def ofSteps (steps : List (StepRecord K)) (frame : Frame) (padding : Int)
    (background : Option Text) (fill : Bool) : Except Failure (Picture K) := do
  let picture ← blank frame background
  if steps.isEmpty then return picture
  else
    let f ← Fit.ofSteps steps frame padding fill
    return { picture with calls := some (← callsOf f steps) }

end Picture

end Lindenmayer
