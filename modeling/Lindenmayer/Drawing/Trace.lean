import Lindenmayer.Derivation
import Lindenmayer.Turtle.Render
import Lindenmayer.Drawing.Recording

/-!
Tracing a system: it is taken back to its seed, evaluated, and walked by a new turtle. Nothing of
the state that it was found in matters, and the state that it is left in says how far it came.
-/
namespace Lindenmayer

/-- How a system is traced. -/
structure TraceOptions (K : Type) where
  forward : Number K
  turn : Number K
  iterations : Value
  pen : Pen.Components K
  startX : Number K
  startY : Number K
  orientation : Number K
  hook : Option (Hook K)
  randomness : Randomness

/-- What is traced: the number of symbols read, and the primitives. -/
structure Trace (K : Type) where
  commands : Nat
  primitives : Array (Primitive K)
deriving Inhabited

variable {K : Type} [Scalar K]

/-- A turtle with a pen of red, green and blue. -/
def Turtle.ofPen (pen : Pen.Components K) (x y heading : Number K) (opacity : K) :
    Except Failure (Turtle K) := do
  let hsv ← Pen.ofRgb pen
  let x ← x.toScalar
  let y ← y.toScalar
  let heading ← heading.toScalar
  return { Turtle.initial with
    x, y, heading, hue := hsv.hue, saturation := hsv.saturation, brightness := hsv.brightness, opacity }

/-- The opacity that a turtle starts with. -/
def usualOpacity : K := Scalar.decimal 9 1

namespace TraceOptions

/-- The turtle that walks. -/
def turtle (o : TraceOptions K) : Except Failure (Turtle K) :=
  Turtle.ofPen o.pen o.startX o.startY o.orientation usualOpacity

/-- Walks the state of a system. -/
def walk (o : TraceOptions K) (state : Sequence) : Except Failure (Trace K) := do
  let turtle ← o.turtle
  let pass := render o.hook 0 o.randomness turtle o.forward o.turn (.ok state)
  return { commands := ← pass.count, primitives := pass.emitted }

end TraceOptions

/-- Traces a system. It is left in the state of its seed if the generations are rejected, and
    evaluated otherwise. -/
def Derivation.trace (s : Derivation) (o : TraceOptions K) : Derivation × Except Failure (Trace K) :=
  match s.reset.evaluate o.iterations with
  | .error failure => (s.reset, .error failure)
  | .ok evaluated => (evaluated, o.walk evaluated.state)

end Lindenmayer
