import Lindenmayer.Drawing.Step

/-!
Fitting steps into a frame. `bounds` is the least box around everything the steps touch; `Fit.ofSteps`
is the scale and offset that bring this box into the middle of a frame, as large as its padding
allows.
-/
namespace Lindenmayer

/-- A box. -/
structure Bounds (K : Type) where
  minX : K
  minY : K
  maxX : K
  maxY : K
deriving DecidableEq, Repr, Inhabited

/-- The frame of a picture: its width and height. -/
structure Frame where
  width : Int
  height : Int
deriving DecidableEq, Repr, Inhabited

variable {K : Type} [Scalar K]

/-- The least of two numbers, none if one of them is none. -/
def leastOf (x y : K) : K :=
  if Scalar.isNan x then x else if Scalar.isNan y then y else Scalar.min x y

/-- The greatest of two numbers, none if one of them is none. -/
def greatestOf (x y : K) : K :=
  if Scalar.isNan x then x else if Scalar.isNan y then y else Scalar.max x y

/-- The two corners of the box around a centre. -/
def cornersAround (centre : Point K) (dx dy : K) : List (Point K) :=
  [⟨centre.x - dx, centre.y - dy⟩, ⟨centre.x + dx, centre.y + dy⟩]

/-- The points that span what a step touches. Sizes are read before places. -/
def touched (r : StepRecord K) : Except Failure (List (Point K)) := do
  match ← r.readType with
  | none => return []
  | some .line =>
    let start ← r.readStart
    return [start, ← r.readStop]
  | some .circle =>
    let radius := Scalar.abs (← r.readRadius)
    return cornersAround (← r.readCentre) radius radius
  | some .rectangle =>
    let dx := Scalar.half (Scalar.abs (← r.readWidth))
    let dy := Scalar.half (Scalar.abs (← r.readHeight))
    return cornersAround (← r.readCentre) dx dy

/-- The box around points, none if there are none. -/
def Bounds.ofPoints? : List (Point K) → Option (Bounds K)
  | [] => none
  | p :: rest =>
    some (rest.foldl (fun b q =>
      { minX := leastOf b.minX q.x
        minY := leastOf b.minY q.y
        maxX := greatestOf b.maxX q.x
        maxY := greatestOf b.maxY q.y }) ⟨p.x, p.y, p.x, p.y⟩)

/-- The box around everything that steps touch. -/
def bounds (steps : List (StepRecord K)) : Except Failure (Option (Bounds K)) := do
  return Bounds.ofPoints? (← steps.mapM touched).flatten

/-- A scale and an offset. -/
structure Fit (K : Type) where
  scale : K
  offsetX : K
  offsetY : K
deriving DecidableEq, Repr, Inhabited

namespace Fit

/-- Unscaled, with the origin in the middle of the frame. -/
def centred (frame : Frame) : Fit K where
  scale := Scalar.one
  offsetX := Scalar.half (Scalar.ofInt frame.width)
  offsetY := Scalar.half (Scalar.ofInt frame.height)

/-- The scale along one axis: none where the box has no extent. -/
def axisScale? (room : Int) (extent : K) : Option K :=
  if Scalar.lt Scalar.zero extent then some (Scalar.ofInt room / extent) else none

/-- The less of the scales along the axes. -/
def leastScale : Option K → Option K → K
  | some x, some y => Scalar.min x y
  | some x, none => x
  | none, some y => if Scalar.bounded y then y else Scalar.unbounded
  | none, none => Scalar.unbounded

/-- The scale at which a box of this extent fills its room. A box that is one point is not scaled. -/
def scaleFor (roomX roomY : Int) (width height : K) : K :=
  if Scalar.isZero width && Scalar.isZero height then Scalar.one
  else leastScale (axisScale? roomX width) (axisScale? roomY height)

/-- The offset that brings a scaled extent into the middle of its room. -/
def offsetFor (padding room : Int) (least extent scale : K) : K :=
  Scalar.ofInt padding - least * scale + Scalar.half (Scalar.ofInt room - extent * scale)

/-- What brings a box into the middle of a frame. -/
def ofBounds (frame : Frame) (padding : Int) (b : Bounds K) : Fit K :=
  let width := b.maxX - b.minX
  let height := b.maxY - b.minY
  let roomX := frame.width - 2 * padding
  let roomY := frame.height - 2 * padding
  let scale := scaleFor roomX roomY width height
  { scale
    offsetX := offsetFor padding roomX b.minX width scale
    offsetY := offsetFor padding roomY b.minY height scale }

/-- What brings steps into a frame: to fill it if asked, and else only to its middle. -/
def ofSteps (steps : List (StepRecord K)) (frame : Frame) (padding : Int) (fill : Bool) :
    Except Failure (Fit K) := do
  if fill then
    match ← bounds steps with
    | some box => return ofBounds frame padding box
    | none => return centred frame
  else return centred frame

end Fit

end Lindenmayer
