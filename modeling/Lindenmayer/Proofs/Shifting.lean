import Lindenmayer.Proofs.Exact
import Lindenmayer.Proofs.Resuming

/-!
Turtles somewhere else. In exact arithmetic a turtle that is moved, together with the places on its stack, walks as
it did: every command does the same to it, and what it emits is moved with it (`obey_shifted`, `walk_shifted`,
`render_shifted`). No command reads where the turtle is but to add to it.
-/
namespace Lindenmayer

/-! ### Everything with a place, moved -/

/-- How far something is moved. -/
structure Shift (K : Type) where
  x : K
  y : K

section
variable {K : Type} [Scalar K]

def Point.shifted (d : Shift K) (p : Point K) : Point K := ⟨p.x + d.x, p.y + d.y⟩

def Place.shifted (d : Shift K) (place : Place K) : Place K := { place with x := place.x + d.x, y := place.y + d.y }

/-- A turtle moved with all places on its stack. -/
def Turtle.shifted (d : Shift K) (t : Turtle K) : Turtle K :=
  { t with x := t.x + d.x, y := t.y + d.y, stack := t.stack.map (Place.shifted d) }

def Primitive.shifted (d : Shift K) : Primitive K → Primitive K
  | .moveTo x y => .moveTo (x + d.x) (y + d.y)
  | .lineTo x y => .lineTo (x + d.x) (y + d.y)
  | .circle x y radius => .circle (x + d.x) (y + d.y) radius
  | .rectangle x y width height => .rectangle (x + d.x) (y + d.y) width height
  | .setLineWidth width => .setLineWidth width
  | .setPenColour hue saturation brightness opacity => .setPenColour hue saturation brightness opacity
  | .penUp => .penUp
  | .penDown => .penDown

def Run.shifted (d : Shift K) (r : Run K) : Run K :=
  { r with turtle := r.turtle.shifted d, emitted := r.emitted.map (Primitive.shifted d) }

def Pass.shifted (d : Shift K) (p : Pass K) : Pass K :=
  { p with turtle := p.turtle.shifted d, emitted := p.emitted.map (Primitive.shifted d) }

end

namespace Shifting
open Outcomes Passes

/-- What comes of something, or what is left of it, with a function done to either. -/
def both {α : Type} (f : α → α) : Except (Failure × α) α → Except (Failure × α) α
  | .ok a => .ok (f a)
  | .error (failure, a) => .error (failure, f a)

variable {F : Type} {outside : Outside F} [Field F] [LinearOrder F] [FloorRing F]
variable (d : Shift (Exact F outside))

/-! ### Commands -/

theorem emit_shifted (r : Run (Exact F outside)) (p : Primitive (Exact F outside)) :
    (r.emit p).shifted d = (r.shifted d).emit (p.shifted d) := by
  simp [Run.emit, Run.shifted]

theorem emitPlace_shifted (r : Run (Exact F outside)) : r.emitPlace.shifted d = (r.shifted d).emitPlace :=
  emit_shifted d r (.moveTo r.turtle.x r.turtle.y)

theorem emitWidth_shifted (r : Run (Exact F outside)) : r.emitWidth.shifted d = (r.shifted d).emitWidth :=
  emit_shifted d r (.setLineWidth r.turtle.penWidth)

theorem emitColour_shifted (r : Run (Exact F outside)) : r.emitColour.shifted d = (r.shifted d).emitColour :=
  emit_shifted d r (.setPenColour r.turtle.hue r.turtle.saturation r.turtle.brightness r.turtle.opacity)

theorem advance_shifted (t : Turtle (Exact F outside)) (distance : Exact F outside) :
    (t.shifted d).advance distance = both (Turtle.shifted d) (t.advance distance) := by
  have x (step : Exact F outside) : (t.shifted d).setX ((t.shifted d).x + step) = (t.setX (t.x + step)).shifted d := by
    simp only [Turtle.setX, Turtle.shifted, add_right_comm]
  have y (moved : Turtle (Exact F outside)) (step : Exact F outside) :
      (moved.shifted d).setY ((t.shifted d).y + step) = (moved.setY (t.y + step)).shifted d := by
    simp only [Turtle.setY, Turtle.shifted, add_right_comm]
  have heading : (t.shifted d).heading = t.heading := rfl
  rw [Turtle.advance, Turtle.advance, heading]
  cases Scalar.cosDegrees t.heading with
  | error failure => rfl
  | ok cosine =>
    dsimp only
    rw [x]
    cases Scalar.sinDegrees t.heading with
    | error failure => rfl
    | ok sine =>
      dsimp only
      rw [y]
      rfl

theorem move_shifted (r : Run (Exact F outside)) (distance : Exact F outside) :
    (r.shifted d).move distance = both (Run.shifted d) (r.move distance) := by
  have turtle : (r.shifted d).turtle = r.turtle.shifted d := rfl
  rw [Run.move, Run.move, turtle, advance_shifted]
  cases r.turtle.advance distance with
  | error failed => rfl
  | ok t =>
    have line : (if t.penDown then Primitive.lineTo (t.shifted d).x (t.shifted d).y else .moveTo (t.shifted d).x (t.shifted d).y) =
        (if t.penDown then Primitive.lineTo t.x t.y else .moveTo t.x t.y).shifted d := by
      split <;> rfl
    exact congrArg Except.ok ((congrArg _ line).trans (emit_shifted d (r.withTurtle t) _).symm)

theorem obey_shifted (r : Run (Exact F outside)) (command : Command) :
    (r.shifted d).obey none command = both (Run.shifted d) (r.obey none command) := by
  cases command with
  | forward | halfForward => exact move_shifted d r _
  | halfBackward => exact move_shifted d (r.turn (Scalar.ofInt 180)) _
  | backward =>
    have moved := move_shifted d (r.turn (Scalar.ofInt 180)) r.turtle.step
    have turned : (r.shifted d).turn (Scalar.ofInt 180) = (r.turn (Scalar.ofInt 180)).shifted d := rfl
    have step : (r.shifted d).turtle.step = r.turtle.step := rfl
    rw [Run.obey, Run.obey, turned, step, moved]
    cases (r.turn (Scalar.ofInt 180)).move r.turtle.step with
    | error | ok => rfl
  | turn | randomTurn | growStep | shrinkStep | nudge | push | asterisk => rfl
  | penUp | penDown | circle | square =>
    refine congrArg Except.ok (Eq.symm ?_)
    exact emit_shifted d _ _
  | randomHue | hueShift | randomSaturation | randomOpacity =>
    refine congrArg Except.ok (Eq.symm ?_)
    exact emitColour_shifted d _
  | penWidth =>
    refine congrArg Except.ok (Eq.symm ?_)
    exact emitWidth_shifted d _
  | pop =>
    cases standing : r.turtle.stack with
    | nil =>
      have none_ : (r.shifted d).turtle.stack = [] := congrArg (List.map _) standing
      simp only [Run.obey, Turtle.pop?, standing, none_]
      rfl
    | cons place rest =>
      have some_ : (r.shifted d).turtle.stack = place.shifted d :: rest.map (Place.shifted d) := congrArg (List.map _) standing
      simp only [Run.obey, Turtle.pop?, standing, some_]
      refine congrArg Except.ok (Eq.symm ?_)
      exact emitPlace_shifted d _

/-! ### Sequences -/

theorem read_shifted (r : Run (Exact F outside)) (s : Symbol) : (r.shifted d).read none s = both (Run.shifted d) (r.read none s) := by
  rw [Run.read, Run.read]
  cases Command.ofSymbol? s with
  | none => rfl
  | some command => exact obey_shifted d r command

theorem walk_shifted (r : Run (Exact F outside)) (sequence : Sequence) :
    (r.shifted d).walk none sequence = both (Run.shifted d) (r.walk none sequence) := by
  induction sequence generalizing r with
  | nil => rfl
  | cons s rest ih =>
    rw [Run.walk, Run.walk, read_shifted]
    cases r.read none s with
    | error failed => rfl
    | ok next => exact ih next

theorem setUp_shifted (r : Run (Exact F outside)) : (r.shifted d).setUp = r.setUp.shifted d := by
  rw [Run.setUp, Run.setUp, ← emitPlace_shifted, ← emitWidth_shifted, ← emitColour_shifted]
  have down : (r.emitPlace.emitWidth.emitColour.shifted d).turtle.penDown = r.emitPlace.emitWidth.emitColour.turtle.penDown := rfl
  rw [down]
  split
  · rfl
  · exact (emit_shifted d _ .penUp).symm

theorem blank_shifted (t : Turtle (Exact F outside)) (calls : Nat) (count : Except Failure Nat) :
    (Pass.blank t calls count).shifted d = .blank (t.shifted d) calls count := by
  simp [Pass.shifted, Pass.blank]

theorem renderSequence_shifted (calls : Nat) (randomness : Randomness) (t : Turtle (Exact F outside)) (sequence : Sequence) :
    renderSequence none calls randomness (t.shifted d) sequence = (renderSequence none calls randomness t sequence).shifted d := by
  rw [renderSequence, renderSequence]
  split
  · exact (blank_shifted d t calls _).symm
  cases randomness.start with
  | error failure => exact (blank_shifted d t calls _).symm
  | ok generator =>
    have start : ⟨t.shifted d, generator, calls, #[]⟩ = Run.shifted d ⟨t, generator, calls, #[]⟩ := by
      simp [Run.shifted]
    dsimp only
    rw [start, setUp_shifted, walk_shifted]
    cases (Run.setUp ⟨t, generator, calls, #[]⟩).walk none sequence with
    | ok last => rfl
    | error failed => rfl

theorem setStride_shifted (t : Turtle (Exact F outside)) (step turnAngle : Number (Exact F outside)) :
    setStride (t.shifted d) step turnAngle = both (Turtle.shifted d) (setStride t step turnAngle) := by
  rw [setStride, setStride]
  cases step.toScalar with
  | error failure => rfl
  | ok s =>
    dsimp only
    cases turnAngle.toScalar with
    | error | ok => rfl

theorem render_shifted (calls : Nat) (randomness : Randomness) (t : Turtle (Exact F outside))
    (step turnAngle : Number (Exact F outside)) (sequence : Except Failure Sequence) :
    render none calls randomness (t.shifted d) step turnAngle sequence =
      (render none calls randomness t step turnAngle sequence).shifted d := by
  have checks : renderChecks (t.shifted d) step = renderChecks t step := rfl
  rw [render, render, checks]
  cases renderChecks t step >>= fun _ => sequence with
  | error failure => exact (blank_shifted d t calls _).symm
  | ok sequence =>
    dsimp only
    rw [setStride_shifted]
    cases setStride t step turnAngle with
    | error failed => exact (blank_shifted d failed.2 calls _).symm
    | ok strode => exact renderSequence_shifted d calls randomness strode sequence

end Shifting

end Lindenmayer
