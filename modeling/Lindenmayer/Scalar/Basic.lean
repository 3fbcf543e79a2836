import Lindenmayer.Failure

/-!
The numbers that turtles and pictures are made of. Everything geometric is written for any scalars:
doubles, with their not-a-number and infinities, are one kind, and exact numbers are another.
-/
namespace Lindenmayer

/-- Numbers to draw with. -/
class Scalar (K : Type) extends Add K, Sub K, Mul K, Div K, Neg K where
  /-- The number of an integer. -/
  ofInt : Int → K
  /-- The number of an integer, if it is in the numbers' range. -/
  convert : Int → Except Failure K
  /-- The number nearest to `mantissa / 10 ^ places`. -/
  decimal : (mantissa places : Nat) → K
  /-- A number above which there is none. -/
  unbounded : K
  /-- Whether a number is below some other. -/
  bounded : K → Bool
  /-- Whether a number is none. -/
  isNan : K → Bool
  /-- Whether one number is below another. -/
  lt : K → K → Bool
  /-- Whether two numbers are equal. -/
  same : K → K → Bool
  /-- The size of a number. -/
  abs : K → K
  /-- The remainder of a division, with the sign of the divisor. -/
  floorMod : K → K → K
  /-- The nearest integer, the even one of two as near. -/
  round : K → Except Failure Int
  /-- The integer part. -/
  truncate : K → Except Failure Int
  /-- The cosine of an angle in degrees. -/
  cosDegrees : K → Except Failure K
  /-- The sine of an angle in degrees. -/
  sinDegrees : K → Except Failure K
  /-- The text with so many places. -/
  fixed : (places : Nat) → K → List Char
  /-- The text in messages. -/
  shown : K → List Char

namespace Scalar

variable {K : Type} [Scalar K]

/-- Zero. -/
def zero : K := ofInt 0

/-- One. -/
def one : K := ofInt 1

/-- Half of a number. -/
def half (x : K) : K := x / ofInt 2

/-- The greater of two numbers, the first unless the second is above it. -/
def max (x y : K) : K := if lt x y then y else x

/-- The less of two numbers, the first unless the second is below it. -/
def min (x y : K) : K := if lt y x then y else x

/-- The number of the unit interval nearest to a number; no number stays none. -/
def clampUnit (x : K) : K := min (max x zero) one

/-- Whether a number is zero. -/
def isZero (x : K) : Bool := same x zero

/-- The natural number that so many halves are. -/
def halves (n : Nat) : K := half (ofInt n)

end Scalar

/-- A number as it was given: an integer, or a scalar. -/
inductive Number (K : Type) where
  | int (n : Int)
  | real (x : K)
deriving DecidableEq, Repr, Inhabited

namespace Number

variable {K : Type} [Scalar K]

/-- The scalar of a number. -/
def toScalar : Number K → Except Failure K
  | .int n => Scalar.convert n
  | .real x => .ok x

/-- Whether a number is above zero. -/
def isPositive : Number K → Bool
  | .int n => 0 < n
  | .real x => Scalar.lt Scalar.zero x

/-- A number as messages show it: integers without a point. -/
def shown : Number K → String
  | .int n => toString n
  | .real x => String.ofList (Scalar.shown x)

end Number

end Lindenmayer
