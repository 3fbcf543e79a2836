import Lindenmayer.Drawing.Draw

/-!
Drawing parameters that may be left out, and what stands in for each that is.
-/
namespace Lindenmayer

/-- The parameters of a drawing that are given. -/
structure DrawParams (K : Type) where
  forward : Option (Number K) := none
  turn : Option (Number K) := none
  startX : Option (Number K) := none
  startY : Option (Number K) := none
  orientation : Option (Number K) := none
  iterations : Option Value := none
  rngSeed : Option Value := none
  pen : Option (Pen.Components (Number K)) := none
deriving Inhabited

namespace Pen.Components

/-- Components with a function done to each. -/
def map {α β : Type} (f : α → β) : Components α → Components β
  | .bare x => .bare (f x)
  | .list xs => .list (xs.map f)

end Pen.Components

namespace DrawParams

variable {K : Type}

/-- The parameters of one set where they are given, and of another elsewhere. -/
def overriding (p q : DrawParams K) : DrawParams K where
  forward := p.forward.orElse fun _ => q.forward
  turn := p.turn.orElse fun _ => q.turn
  startX := p.startX.orElse fun _ => q.startX
  startY := p.startY.orElse fun _ => q.startY
  orientation := p.orientation.orElse fun _ => q.orientation
  iterations := p.iterations.orElse fun _ => q.iterations
  rngSeed := p.rngSeed.orElse fun _ => q.rngSeed
  pen := p.pen.orElse fun _ => q.pen

variable [Scalar K]

/-- The number nearest to a number as it was given. -/
def plain : Number K → K
  | .int n => Scalar.ofInt n
  | .real x => x

/-- The pen that stands in: light blue. -/
def usualPen : Pen.Components (Number K) :=
  .list [.real (Scalar.decimal 3 1), .real (Scalar.decimal 6 1), .real (Scalar.decimal 8 1)]

/-- The number of generations that stands in. -/
def usualIterations : Value := .int 6

/-- How a system is traced with these parameters. -/
def options (p : DrawParams K) (hook : Option (Hook K)) : TraceOptions K where
  forward := p.forward.getD (.int 15)
  turn := p.turn.getD (.int 45)
  iterations := p.iterations.getD usualIterations
  pen := (p.pen.getD usualPen).map plain
  startX := p.startX.getD (.int 0)
  startY := p.startY.getD (.int 0)
  orientation := p.orientation.getD (.int 0)
  hook
  randomness := .seed (p.rngSeed.getD .null)

end DrawParams

variable {K : Type}

/-- The usual options of a drawing: on a black square of 800, from its middle, into a file of
    pixels. -/
def DrawOptions.usual (trace : TraceOptions K) : DrawOptions K where
  trace
  fileName := some (Text.ofString "lsystem.png")
  frame := ⟨800, 800⟩
  background := some (Text.ofString "black")
  fill := false
  padding := 50
  format := none

/-- The usual canvas. -/
def Canvas.usualFrame : Frame := ⟨800, 600⟩

/-- The usual padding of a canvas. -/
def Canvas.usualPadding : Int := 50

end Lindenmayer
