/-!
Doubles taken apart. A finite double is a mantissa times a power of two, and all text of numbers
is made from that exact value (`Binary.numerator`, `Binary.denominator`).
-/
namespace Lindenmayer

/-- What a double stands for. -/
inductive Binary where
  /-- No number. -/
  | nan
  /-- An infinity. -/
  | infinite (negative : Bool)
  /-- The number of size `mantissa * 2 ^ exponent`; zero has a sign too. -/
  | finite (negative : Bool) (mantissa : Nat) (exponent : Int)
deriving DecidableEq, Repr

namespace Binary

/-- Reads the sign, exponent and fraction bits of a double. -/
def ofBits (bits : Nat) : Binary :=
  let negative := decide (0x8000000000000000 ≤ bits)
  let exponent : Nat := bits / 0x10000000000000 % 0x800
  let fraction : Nat := bits % 0x10000000000000
  if exponent = 2047 then
    if fraction = 0 then .infinite negative else .nan
  else if exponent = 0 then .finite negative fraction (-1074)
  else .finite negative (0x10000000000000 + fraction) ((exponent : Int) - 1075)

/-- What a double stands for. -/
def ofFloat (x : Float) : Binary := ofBits x.toBits.toNat

/-- The numerator of `mantissa * 2 ^ exponent`. -/
def numerator (mantissa : Nat) (exponent : Int) : Nat := mantissa * Nat.pow 2 exponent.toNat

/-- The denominator of `mantissa * 2 ^ exponent`. -/
def denominator (exponent : Int) : Nat := Nat.pow 2 (-exponent).toNat

theorem denominator_pos (exponent : Int) : 0 < denominator exponent := Nat.two_pow_pos _

end Binary

end Lindenmayer
