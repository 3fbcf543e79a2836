import Lindenmayer.Turtle.Command
import Lindenmayer.Turtle.Primitive
import Lindenmayer.Turtle.Hook
import Lindenmayer.Random.Seed

/-!
Walking a sequence. The turtle reads it once from left to right; every symbol that is a command
changes the turtle or emits primitives. `Run.obey` does one command, `Run.walk` a sequence, and
`render` is a whole pass with its checks. Whatever fails leaves a run: the turtle as it is then and
what was emitted before.
-/
namespace Lindenmayer

/-- A pass under way. -/
structure Run (K : Type) where
  turtle : Turtle K
  generator : Generator
  /-- How often the hook was called. -/
  calls : Nat
  /-- What was emitted, the first first. -/
  emitted : Array (Primitive K)
deriving Repr, Inhabited

/-- What comes of a pass or a part of one: a run, or a failure and the run that it leaves. -/
abbrev Outcome (K : Type) := Except (Failure × Run K) (Run K)

namespace Run

variable {K : Type}

/-- Emits a primitive. -/
def emit (r : Run K) (p : Primitive K) : Run K := { r with emitted := r.emitted.push p }

/-- Changes the turtle. -/
def withTurtle (r : Run K) (t : Turtle K) : Run K := { r with turtle := t }

/-- Emits the turtle's position. -/
def emitPlace (r : Run K) : Run K := r.emit (.moveTo r.turtle.x r.turtle.y)

/-- Emits the width of the turtle's pen. -/
def emitWidth (r : Run K) : Run K := r.emit (.setLineWidth r.turtle.penWidth)

/-- Emits the colour of the turtle's pen. -/
def emitColour (r : Run K) : Run K :=
  let t := r.turtle
  r.emit (.setPenColour t.hue t.saturation t.brightness t.opacity)

/-- Emits whether the turtle's pen is down. -/
def emitPen (r : Run K) : Run K := r.emit (if r.turtle.penDown then .penDown else .penUp)

/-- What a pass begins with: the position, the pen, and that it is up if it is. -/
def setUp (r : Run K) : Run K :=
  let r := r.emitPlace.emitWidth.emitColour
  if r.turtle.penDown then r else r.emit .penUp

variable [Scalar K]

/-- Moves the turtle, with a line if its pen is down. -/
def move (r : Run K) (distance : K) : Outcome K :=
  match r.turtle.advance distance with
  | .error (failure, t) => .error (failure, r.withTurtle t)
  | .ok t =>
    let moved := r.withTurtle t
    .ok (moved.emit (if t.penDown then .lineTo t.x t.y else .moveTo t.x t.y))

/-- Turns the turtle. -/
def turn (r : Run K) (angle : K) : Run K := r.withTurtle (r.turtle.turn angle)

/-- The angles that a random turn chooses from, in degrees. -/
def turnAngles : List Nat := [10, 15, 30, 45, 60]

/-- A random turn angle. -/
def drawAngle (g : Generator) : K × Generator :=
  let (i, g) := g.below turnAngles.length 64
  (Scalar.ofInt (turnAngles.getD i 0), g)

/-- A random number of the unit interval. -/
def drawUnit (g : Generator) : K × Generator :=
  let (n, g) := g.next53
  (Scalar.ofInt n / Scalar.ofInt 0x20000000000000, g)

/-- Whether a turtle's place is another: a coordinate comes from another write and is another
    number. -/
def moved (before after : Turtle K) : Bool :=
  (before.writes.x != after.writes.x && !Scalar.same before.x after.x) ||
    (before.writes.y != after.writes.y && !Scalar.same before.y after.y)

/-- Whether one of some fields was set to another number. -/
def changed (before after : Turtle K) (set : List Turtle.Field)
    (fields : List (Turtle.Field × (Turtle K → K))) : Bool :=
  fields.any fun (field, get) => set.contains field && !Scalar.same (get before) (get after)

/-- Emits what a hook changed: the position, the width, the colour and the pen, in this order. -/
def emitChanges (before : Turtle K) (set : List Turtle.Field) (r : Run K) : Run K :=
  let t := r.turtle
  let r := if moved before t then r.emitPlace else r
  let r := if Scalar.same before.penWidth t.penWidth then r else r.emitWidth
  let r :=
    if changed before t set [(.hue, (·.hue)), (.saturation, (·.saturation)),
        (.brightness, (·.brightness)), (.opacity, (·.opacity))] then r.emitColour else r
  if before.penDown = t.penDown then r else r.emitPen

/-- Calls the hook and emits what it changed. -/
def callHook (hook : Hook K) (r : Run K) : Outcome K :=
  let called := { r with calls := r.calls + 1 }
  let actions := hook r.calls r.turtle
  match Action.run r.turtle actions with
  | .error (failure, t) => .error (failure, called.withTurtle t)
  | .ok t => .ok (emitChanges r.turtle (Action.fields actions) (called.withTurtle t))

/-- Obeys one command. -/
def obey (hook : Option (Hook K)) (r : Run K) (command : Command) : Outcome K :=
  let t := r.turtle
  match command with
  | .forward => r.move t.step
  | .backward => ((r.turn (Scalar.ofInt 180)).move t.step).map (·.turn (Scalar.ofInt (-180)))
  | .halfForward => r.move (Scalar.half t.step)
  | .halfBackward => (r.turn (Scalar.ofInt 180)).move (Scalar.half t.step)
  | .penUp => .ok ((r.withTurtle { t with penDown := false }).emit .penUp)
  | .penDown => .ok ((r.withTurtle { t with penDown := true }).emit .penDown)
  | .turn back => .ok (r.turn (Scalar.ofInt (if back then -1 else 1) * t.turnAngle))
  | .randomTurn =>
    let (turnAngle, generator) := drawAngle r.generator
    .ok { r with turtle := { t with turnAngle }, generator }
  | .randomHue =>
    let (unit, generator) := drawUnit r.generator
    let hue := Scalar.zero + Scalar.ofInt 360 * unit
    .ok { r with turtle := { t with hue }, generator }.emitColour
  | .hueShift degrees =>
    let hue := Scalar.floorMod (t.hue + Scalar.ofInt degrees) (Scalar.ofInt 360)
    .ok (r.withTurtle { t with hue }).emitColour
  | .randomSaturation =>
    let (saturation, generator) := drawUnit r.generator
    .ok { r with turtle := { t with saturation }, generator }.emitColour
  | .randomOpacity =>
    let (opacity, generator) := drawUnit r.generator
    .ok { r with turtle := { t with opacity }, generator }.emitColour
  | .growStep length => .ok (r.withTurtle { t with step := t.step + Scalar.ofInt length })
  | .shrinkStep length => .ok (r.withTurtle { t with step := t.step - Scalar.ofInt length })
  | .penWidth halves => .ok (r.withTurtle { t with penWidth := Scalar.halves halves }).emitWidth
  | .nudge degrees => .ok (r.turn (Scalar.ofInt degrees))
  | .circle => .ok (r.emit (.circle t.x t.y (t.step / Scalar.ofInt 4)))
  | .square =>
    let side := t.step / Scalar.ofInt 4
    .ok (r.emit (.rectangle t.x t.y side side))
  | .push => .ok (r.withTurtle t.push)
  | .pop =>
    match t.pop? with
    | some t => .ok (r.withTurtle t).emitPlace
    | none => .ok r
  | .asterisk =>
    match hook with
    | some hook => r.callHook hook
    | none => .ok r

/-- Reads one symbol; what is no command is passed over. -/
def read (hook : Option (Hook K)) (r : Run K) (s : Symbol) : Outcome K :=
  match Command.ofSymbol? s with
  | some command => r.obey hook command
  | none => .ok r

/-- Reads a sequence. -/
def walk (hook : Option (Hook K)) (r : Run K) : Sequence → Outcome K
  | [] => .ok r
  | s :: rest =>
    match r.read hook s with
    | .ok next => next.walk hook rest
    | .error failed => .error failed

end Run

/-- What is left of a pass, whether it failed or not. -/
structure Pass (K : Type) where
  turtle : Turtle K
  emitted : Array (Primitive K)
  calls : Nat
  /-- The generator as it goes on, if one was started. -/
  generator : Option Generator
  /-- The number of symbols read, or why the pass ended early. -/
  count : Except Failure Nat

namespace Pass

variable {K : Type}

/-- A pass that ended before anything was emitted. -/
def blank (turtle : Turtle K) (calls : Nat) (count : Except Failure Nat) : Pass K :=
  { turtle, emitted := #[], calls, generator := none, count }

/-- The pass that a run is, with its count. -/
def ofRun (r : Run K) (count : Except Failure Nat) : Pass K :=
  { turtle := r.turtle, emitted := r.emitted, calls := r.calls, generator := some r.generator, count }

end Pass

variable {K : Type} [Scalar K]

/-- The checks before a pass touches the turtle: the step, and then the pen. -/
def renderChecks (turtle : Turtle K) (step : Number K) : Except Failure Unit :=
  if !step.isPositive then .error (.stepNotPositive step.shown)
  else if !Scalar.lt Scalar.zero turtle.penWidth then
    .error (.penWidthNotPositive (Number.real turtle.penWidth).shown)
  else .ok ()

/-- Sets the step and then the turn angle of a turtle. -/
def setStride (t : Turtle K) (step turnAngle : Number K) : Except (Failure × Turtle K) (Turtle K) :=
  match step.toScalar with
  | .error failure => .error (failure, t)
  | .ok step =>
    let t := { t with step }
    match turnAngle.toScalar with
    | .error failure => .error (failure, t)
    | .ok turnAngle => .ok { t with turnAngle }

/-- Walks a sequence with a turtle whose step and turn angle are set. The empty sequence needs no
    random numbers and emits nothing. -/
def renderSequence (hook : Option (Hook K)) (calls : Nat) (randomness : Randomness)
    (turtle : Turtle K) (sequence : Sequence) : Pass K :=
  if sequence.isEmpty then .blank turtle calls (.ok 0)
  else
    match randomness.start with
    | .error failure => .blank turtle calls (.error failure)
    | .ok generator =>
      let r : Run K := { turtle, generator, calls, emitted := #[] }
      match r.setUp.walk hook sequence with
      | .ok r => .ofRun r (.ok sequence.length)
      | .error (failure, r) => .ofRun r (.error failure)

/-- One pass of a turtle over a sequence, after `calls` calls of the hook. A sequence that is none
    fails after the checks of the step and the pen. -/
def render (hook : Option (Hook K)) (calls : Nat) (randomness : Randomness) (turtle : Turtle K)
    (step turnAngle : Number K) (sequence : Except Failure Sequence) : Pass K :=
  match renderChecks turtle step >>= fun _ => sequence with
  | .error failure => .blank turtle calls (.error failure)
  | .ok sequence =>
    match setStride turtle step turnAngle with
    | .error (failure, turtle) => .blank turtle calls (.error failure)
    | .ok turtle => renderSequence hook calls randomness turtle sequence

end Lindenmayer
