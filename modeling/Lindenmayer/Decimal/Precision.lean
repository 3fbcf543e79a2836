import Lindenmayer.Decimal.Fixed

/-!
Formats of floating-point numbers and rounding to one of them. A number that a format holds is kept
in the form that its shortest text is made from: the mantissa has all its bits, unless the exponent
is the least.
-/
namespace Lindenmayer

/-- A format of floating-point numbers: mantissas below `2 ^ bits`, exponents from `leastExponent`
    on, and sizes below `2 ^ endExponent`. -/
structure Precision where
  bits : Nat
  leastExponent : Int
  endExponent : Int
deriving DecidableEq, Repr

namespace Precision

/-- Numbers of 64 bits. -/
def double : Precision := ⟨53, -1074, 1024⟩

/-- Numbers of 32 bits. -/
def single : Precision := ⟨24, -149, 128⟩

/-- Numbers of 16 bits. -/
def half : Precision := ⟨11, -24, 16⟩

end Precision

namespace Binary

/-- The number of binary digits. -/
def bitLength (n : Nat) : Nat := if n = 0 then 0 else n.log2 + 1

/-- A mantissa and an exponent brought to a format's exponent for their size, a half rounded to the
    even neighbour. -/
def settle (p : Precision) (mantissa : Nat) (exponent : Int) : Nat × Int :=
  let target := max p.leastExponent (exponent + bitLength mantissa - p.bits)
  let kept := Decimal.roundDiv (mantissa * Nat.pow 2 (exponent - target).toNat)
    (Nat.pow 2 (target - exponent).toNat)
  if bitLength kept ≤ p.bits then (kept, target) else (kept / 2, target + 1)

/-- The nearest number that a format holds; sizes from the format's end on become infinite. -/
def round (p : Precision) : Binary → Binary
  | .nan => .nan
  | .infinite negative => .infinite negative
  | .finite negative 0 _ => .finite negative 0 p.leastExponent
  | .finite negative mantissa exponent =>
    let (kept, settled) := settle p mantissa exponent
    if p.endExponent < settled + bitLength kept then .infinite negative
    else .finite negative kept settled

/-- The double that stands for a number which doubles hold. -/
def toFloat : Binary → Float
  | .nan => 0.0 / 0.0
  | .infinite negative => if negative then -1.0 / 0.0 else 1.0 / 0.0
  | .finite negative mantissa exponent =>
    let sign := if negative then .negative else .positive
    .ofModel (.pack (.round .binary64 sign mantissa exponent))

end Binary

end Lindenmayer
