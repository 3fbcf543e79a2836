import Lindenmayer.Drawing.Step
import Lindenmayer.Turtle.Primitive
import Lindenmayer.Colour.Pen

/-!
Resolving primitives into steps. A recorder follows the primitives with its own position, width,
colour, opacity and pen; every line with the pen down, circle and rectangle becomes a step that
carries them (`Recorder.steps`).
-/
namespace Lindenmayer

/-- What a recorder knows before the next primitive. -/
structure Recorder (K : Type) where
  position : Point K
  width : K
  colour : Text
  opacity : K
  visible : Bool
deriving DecidableEq, Repr, Inhabited

namespace Recorder

variable {K : Type} [Scalar K]

/-- At the origin with a white, opaque pen of width one that is down. -/
def initial : Recorder K where
  position := ⟨Scalar.zero, Scalar.zero⟩
  width := Scalar.one
  colour := Text.ofString "#ffffff"
  opacity := Scalar.one
  visible := true

/-- What a primitive changes. -/
def follow (r : Recorder K) : Primitive K → Except Failure (Recorder K)
  | .moveTo x y | .lineTo x y => .ok { r with position := ⟨x, y⟩ }
  | .setLineWidth width => .ok { r with width }
  | .setPenColour hue saturation brightness opacity => do
    return { r with colour := ← Pen.colourText hue saturation brightness, opacity }
  | .penUp => .ok { r with visible := false }
  | .penDown => .ok { r with visible := true }
  | .circle _ _ _ | .rectangle _ _ _ _ => .ok r

omit [Scalar K] in
/-- The shape that a primitive draws. -/
def shape? (r : Recorder K) : Primitive K → Option (Shape K)
  | .lineTo x y => if r.visible then some (.line r.position ⟨x, y⟩ r.width) else none
  | .circle x y radius => some (.circle ⟨x, y⟩ radius)
  | .rectangle x y width height => some (.rectangle ⟨x, y⟩ width height)
  | _ => none

omit [Scalar K] in
/-- The step that a primitive draws. -/
def step? (r : Recorder K) (p : Primitive K) : Option (Step K) :=
  (r.shape? p).map fun shape => { shape, colour := r.colour, opacity := r.opacity }

/-- The steps of primitives that follow, after those found before. -/
def resolve (r : Recorder K) (found : Array (Step K)) :
    List (Primitive K) → Except Failure (Array (Step K))
  | [] => .ok found
  | p :: rest =>
    match r.follow p with
    | .ok next => next.resolve (found ++ (r.step? p).toArray) rest
    | .error failure => .error failure

/-- The steps of primitives from the beginning. -/
def steps (primitives : List (Primitive K)) : Except Failure (List (Step K)) := do
  return (← initial.resolve #[] primitives).toList

end Recorder

end Lindenmayer
