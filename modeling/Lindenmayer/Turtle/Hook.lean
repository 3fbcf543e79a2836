import Lindenmayer.Turtle.Basic

/-!
Hooks: what an asterisk does to a turtle. A hook sees the turtle and how often a hook was called
before, and answers with actions. `Action.run` does them, and `Action.fields` tells which fields they
set: a part of the pen that no action sets counts as unchanged, even if it holds no number and so
differs from itself.
-/
namespace Lindenmayer

/-- A field of a turtle that holds a number. -/
inductive Turtle.Field where
  | x | y | heading | hue | saturation | brightness | opacity | penWidth | step | turnAngle
deriving DecidableEq, Repr

/-- Sets a field. -/
def Turtle.set {K : Type} (t : Turtle K) (field : Turtle.Field) (value : K) : Turtle K :=
  match field with
  | .x => t.setX value
  | .y => t.setY value
  | .heading => { t with heading := value }
  | .hue => { t with hue := value }
  | .saturation => { t with saturation := value }
  | .brightness => { t with brightness := value }
  | .opacity => { t with opacity := value }
  | .penWidth => { t with penWidth := value }
  | .step => { t with step := value }
  | .turnAngle => { t with turnAngle := value }

/-- One thing that a hook does to a turtle. -/
inductive Action (K : Type) where
  | set (field : Turtle.Field) (value : K)
  | setPen (down : Bool)
  | turn (angle : K)
  | advance (distance : K)
  | push
  | pop
deriving Repr

/-- What an asterisk calls: from the number of calls before and the turtle, the actions. It is assumed
    that a hook draws no random numbers from the generator of the pass that calls it. -/
abbrev Hook (K : Type) := Nat → Turtle K → List (Action K)

namespace Action

/-- The field that an action sets. -/
def field? {K : Type} : Action K → Option Turtle.Field
  | .set field _ => some field
  | _ => none

/-- Does one action. -/
def perform {K : Type} [Scalar K] (t : Turtle K) : Action K → Except (Failure × Turtle K) (Turtle K)
  | .set field value => .ok (t.set field value)
  | .setPen down => .ok { t with penDown := down }
  | .turn angle => .ok (t.turn angle)
  | .advance distance => t.advance distance
  | .push => .ok t.push
  | .pop => .ok (t.pop?.getD t)

/-- Does actions one after the other. -/
def run {K : Type} [Scalar K] (t : Turtle K) :
    List (Action K) → Except (Failure × Turtle K) (Turtle K)
  | [] => .ok t
  | action :: rest => do run (← action.perform t) rest

/-- The fields that actions set. -/
def fields {K : Type} (actions : List (Action K)) : List Turtle.Field := actions.filterMap field?

end Action

end Lindenmayer
