import Lindenmayer.Scalar.Basic

/-!
Drawing steps: shapes that are drawn by themselves, each with its colour and opacity. A `Step` is
whole; a `StepRecord` comes from outside and may lack fields, which fails only where a field is
read. `Step.record` is the record that lacks none.
-/
namespace Lindenmayer

/-- A point of the plane. -/
structure Point (K : Type) where
  x : K
  y : K
deriving DecidableEq, Repr, Inhabited

/-- What a step draws: a line of some width, a circle, or a rectangle around a centre. -/
inductive Shape (K : Type) where
  | line (start stop : Point K) (width : K)
  | circle (centre : Point K) (radius : K)
  | rectangle (centre : Point K) (width height : K)
deriving DecidableEq, Repr, Inhabited

/-- A shape with its colour and opacity. -/
structure Step (K : Type) where
  shape : Shape K
  colour : Text
  opacity : K
deriving DecidableEq, Repr, Inhabited

/-- A point that may lack a coordinate. -/
structure PointRecord (K : Type) where
  x : Option K
  y : Option K
deriving Repr, Inhabited

/-- A step that may lack fields or be of no known type. -/
structure StepRecord (K : Type) where
  type : Option Text
  start : Option (PointRecord K)
  stop : Option (PointRecord K)
  x : Option K
  y : Option K
  radius : Option K
  width : Option K
  height : Option K
  colour : Option Text
  opacity : Option K
deriving Repr, Inhabited

/-- The types of steps that are drawn. -/
inductive StepType where
  | line | circle | rectangle
deriving DecidableEq, Repr

/-- The name of a type. -/
def StepType.name : StepType → String
  | .line => "line"
  | .circle => "circle"
  | .rectangle => "rect"

/-- The type with a name. -/
def StepType.ofText? (s : Text) : Option StepType :=
  [.line, .circle, .rectangle].find? fun type => s.isString type.name

namespace StepRecord

variable {K : Type}

/-- The record without fields. -/
def empty : StepRecord K :=
  ⟨none, none, none, none, none, none, none, none, none, none⟩

/-- Reads a field that has to be there. -/
def need {α : Type} (name : String) : Option α → Except Failure α
  | some value => .ok value
  | none => .error (.missingField name)

/-- The type of a record, none if nothing is drawn for it. -/
def readType (r : StepRecord K) : Except Failure (Option StepType) := do
  return StepType.ofText? (← need "type" r.type)

/-- The colour of a record. -/
def readColour (r : StepRecord K) : Except Failure Text := need "color" r.colour

/-- The opacity of a record. -/
def readOpacity (r : StepRecord K) : Except Failure K := need "opacity" r.opacity

/-- The point of a field, x first. -/
def readPoint (name : String) (field : Option (PointRecord K)) : Except Failure (Point K) := do
  let x ← need "x" (← need name field).x
  let y ← need "y" (← need name field).y
  return ⟨x, y⟩

/-- Where a line starts. -/
def readStart (r : StepRecord K) : Except Failure (Point K) := readPoint "start" r.start

/-- Where a line ends. -/
def readStop (r : StepRecord K) : Except Failure (Point K) := readPoint "end" r.stop

/-- The centre of a circle or rectangle. -/
def readCentre (r : StepRecord K) : Except Failure (Point K) := do
  let x ← need "x" r.x
  let y ← need "y" r.y
  return ⟨x, y⟩

/-- The radius of a circle. -/
def readRadius (r : StepRecord K) : Except Failure K := need "radius" r.radius

/-- The width of a line or rectangle. -/
def readWidth (r : StepRecord K) : Except Failure K := need "width" r.width

/-- The height of a rectangle. -/
def readHeight (r : StepRecord K) : Except Failure K := need "height" r.height

/-- The shape of a record, if it is of a known type: places before sizes. -/
def readShape (r : StepRecord K) : Except Failure (Option (Shape K)) := do
  match ← r.readType with
  | none => return none
  | some .line =>
    let start ← r.readStart
    let stop ← r.readStop
    return some (.line start stop (← r.readWidth))
  | some .circle =>
    let centre ← r.readCentre
    return some (.circle centre (← r.readRadius))
  | some .rectangle =>
    let centre ← r.readCentre
    let width ← r.readWidth
    return some (.rectangle centre width (← r.readHeight))

end StepRecord

/-- The record of a step. -/
def Step.record {K : Type} (s : Step K) : StepRecord K :=
  let common : StepRecord K := { StepRecord.empty with colour := some s.colour, opacity := some s.opacity }
  let named (type : StepType) : Option Text := some (Text.ofString type.name)
  let whole (p : Point K) : Option (PointRecord K) := some ⟨some p.x, some p.y⟩
  match s.shape with
  | .line start stop width =>
    { common with
      type := named .line, start := whole start, stop := whole stop, width := some width }
  | .circle centre radius =>
    { common with
      type := named .circle, x := some centre.x, y := some centre.y, radius := some radius }
  | .rectangle centre width height =>
    { common with
      type := named .rectangle, x := some centre.x, y := some centre.y, width := some width
      height := some height }

end Lindenmayer
