import Lindenmayer.Scalar.Basic
import Lindenmayer.Decimal.Shortest
import Lindenmayer.Decimal.Reading

/-!
Doubles as scalars. Remainders and roundings are computed on the exact value of a double
(`Binary`), so they round nowhere but at the end.
-/
namespace Lindenmayer.Double

/-- The double that a finite value stands for. -/
def ofFinite (negative : Bool) (mantissa : Nat) (exponent : Int) : Float :=
  Binary.toFloat (.finite negative mantissa exponent)

/-- The infinity above all doubles. -/
def infinity : Float := 1.0 / 0.0

/-- No number. -/
def nan : Float := 0.0 / 0.0

/-- The remainder of `x / y` for the quotient toward zero; it has the sign of `x`. -/
def remainder (x y : Float) : Float :=
  match Binary.ofFloat x, Binary.ofFloat y with
  | .finite negative m e, .finite _ n f =>
    let exponent := min e f
    let divisor := n * Nat.pow 2 (f - exponent).toNat
    if divisor = 0 then nan
    else ofFinite negative (m * Nat.pow 2 (e - exponent).toNat % divisor) exponent
  | .finite _ _ _, .infinite _ => x
  | _, _ => nan

/-- The remainder of `x / y` with the sign of `y`, also that of a zero. -/
def floorMod (x y : Float) : Float :=
  let rest := remainder x y
  if rest == 0.0 then (if y < 0.0 then -0.0 else 0.0)
  else if (rest < 0.0) != (y < 0.0) then rest + y
  else rest

/-- The integer nearest to a double. -/
def round (x : Float) : Except Failure Int :=
  match Binary.ofFloat x with
  | .nan => .error .integerFromNan
  | .infinite _ => .error .overflow
  | .finite negative m e => .ok (Decimal.nearest negative m e)

/-- The integer part of a double. -/
def truncate (x : Float) : Except Failure Int :=
  match Binary.ofFloat x with
  | .nan => .error .integerFromNan
  | .infinite _ => .error .overflow
  | .finite negative m e => .ok (Decimal.whole negative m e)

/-- An angle in degrees as one in radians. -/
def radians (degrees : Float) : Float := degrees * 0.017453292519943295

/-- A periodic function of an angle in degrees; an infinite angle has no place in its period. -/
def periodic (f : Float → Float) (degrees : Float) : Except Failure Float :=
  if (radians degrees).isInf then .error .outsideDomain else .ok (f (radians degrees))

/-- The least integer that rounds to an infinity. -/
def integerLimit : Nat := Nat.pow 2 1024 - Nat.pow 2 970

/-- The double nearest to an integer, if it is finite. -/
def ofInt (n : Int) : Except Failure Float :=
  if n.natAbs < integerLimit then .ok (Float.ofInt n) else .error .overflow

instance : Scalar Float where
  ofInt := Float.ofInt
  convert := ofInt
  decimal mantissa places := Decimal.nearestFloat mantissa (-(places : Int))
  unbounded := infinity
  bounded x := x < infinity
  isNan := Float.isNaN
  lt x y := x < y
  same x y := x == y
  abs := Float.abs
  floorMod := floorMod
  round := round
  truncate := truncate
  cosDegrees := periodic Float.cos
  sinDegrees := periodic Float.sin
  fixed places x := Decimal.fixedBinary places (.ofFloat x)
  shown x := Decimal.shortestText Decimal.messageStyle (.ofFloat x)

end Lindenmayer.Double
