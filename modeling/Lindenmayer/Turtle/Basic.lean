import Lindenmayer.Scalar.Basic

/-!
Turtles: a position, a heading in degrees with 0 along x, a pen, and a stack of places to come back
to. A coordinate that is no number is equal only to itself, so a turtle also knows which write each
coordinate comes from, and coming back to a place brings the writes back as well.
-/
namespace Lindenmayer

/-- The writes that the coordinates of a place come from, by number. -/
structure Writes where
  x : Nat
  y : Nat
deriving DecidableEq, Repr, Inhabited

/-- A place that a turtle comes back to. -/
structure Place (K : Type) where
  x : K
  y : K
  heading : K
  writes : Writes := ⟨0, 0⟩
deriving DecidableEq, Repr, Inhabited

/-- A turtle. The last place pushed is the first of the stack. -/
structure Turtle (K : Type) where
  x : K
  y : K
  heading : K
  hue : K
  saturation : K
  brightness : K
  opacity : K
  penWidth : K
  step : K
  turnAngle : K
  penDown : Bool
  stack : List (Place K)
  writes : Writes := ⟨0, 0⟩
  /-- How many writes of coordinates there were. -/
  written : Nat := 0
deriving DecidableEq, Repr, Inhabited

namespace Turtle

variable {K : Type} [Scalar K]

/-- The turtle that a drawing starts with when nothing is said: at the origin, with a light blue
    pen. -/
def initial : Turtle K where
  x := Scalar.zero
  y := Scalar.zero
  heading := Scalar.zero
  hue := Scalar.ofInt 204
  saturation := Scalar.decimal 625 3
  brightness := Scalar.decimal 8 1
  opacity := Scalar.decimal 9 1
  penWidth := Scalar.one
  step := Scalar.ofInt 15
  turnAngle := Scalar.ofInt 45
  penDown := true
  stack := []

omit [Scalar K] in
/-- Writes the first coordinate. -/
def setX (t : Turtle K) (x : K) : Turtle K :=
  { t with x, writes := { t.writes with x := t.written + 1 }, written := t.written + 1 }

omit [Scalar K] in
/-- Writes the second coordinate. -/
def setY (t : Turtle K) (y : K) : Turtle K :=
  { t with y, writes := { t.writes with y := t.written + 1 }, written := t.written + 1 }

omit [Scalar K] in
/-- The turtle with places on its stack, the last one to come back to first; each has coordinates of
    its own. -/
def withStack (t : Turtle K) (places : List (Place K)) : Turtle K :=
  let numbered := places.zipIdx (t.written + 1)
  { t with
    stack := (numbered.map fun (place, i) => { place with writes := ⟨i, i⟩ }).reverse
    written := t.written + places.length }

/-- Turns by an angle. -/
def turn (t : Turtle K) (angle : K) : Turtle K := { t with heading := t.heading + angle }

/-- Moves along the heading, x first. A failure comes with the turtle as it is left. -/
def advance (t : Turtle K) (distance : K) : Except (Failure × Turtle K) (Turtle K) :=
  match Scalar.cosDegrees t.heading with
  | .error failure => .error (failure, t)
  | .ok cosine =>
    let moved := t.setX (t.x + distance * cosine)
    match Scalar.sinDegrees t.heading with
    | .error failure => .error (failure, moved)
    | .ok sine => .ok (moved.setY (t.y + distance * sine))

omit [Scalar K] in
/-- Remembers the position and heading. -/
def push (t : Turtle K) : Turtle K :=
  { t with stack := ⟨t.x, t.y, t.heading, t.writes⟩ :: t.stack }

omit [Scalar K] in
/-- Goes back to the place remembered last, if there is one. -/
def pop? (t : Turtle K) : Option (Turtle K) :=
  match t.stack with
  | [] => none
  | place :: rest =>
    some { t with
      x := place.x, y := place.y, heading := place.heading, writes := place.writes, stack := rest }

end Turtle

end Lindenmayer
