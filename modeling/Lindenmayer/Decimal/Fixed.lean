import Lindenmayer.Decimal.Binary

/-!
Decimal text with a fixed number of places. A quotient is rounded to the nearest multiple of the
last place, a half to the even neighbour, so by half of that place at most (`roundDiv_mul_le`); the
sign is written also before a zero.
-/
namespace Lindenmayer.Decimal

/-- The integer nearest to `num / den`, the even one of two as near. -/
def roundDiv (num den : Nat) : Nat :=
  let quotient := num / den
  let rest := num % den
  if 2 * rest < den then quotient
  else if den < 2 * rest then quotient + 1
  else if quotient % 2 = 0 then quotient else quotient + 1

/-- The decimal digits of a natural number. -/
def digits (n : Nat) : List Char := Nat.toDigits 10 n

/-- Digits with zeros before them up to a width. -/
def padLeft (width : Nat) (ds : List Char) : List Char :=
  List.replicate (width - ds.length) '0' ++ ds

/-- Characters without those of one kind at their end. -/
def stripEnd (c : Char) (cs : List Char) : List Char := (cs.reverse.dropWhile (· == c)).reverse

/-- The text of `n / 10 ^ places`, with exactly so many places. -/
def pointed (places n : Nat) : List Char :=
  if places = 0 then digits n
  else
    let unit := Nat.pow 10 places
    digits (n / unit) ++ '.' :: padLeft places (digits (n % unit))

/-- The text of `num / den` with a fixed number of places. -/
def fixed (places : Nat) (negative : Bool) (num den : Nat) : List Char :=
  let body := pointed places (roundDiv (num * Nat.pow 10 places) den)
  if negative then '-' :: body else body

/-- The text of a double with a fixed number of places. -/
def fixedBinary (places : Nat) : Binary → List Char
  | .nan => "nan".toList
  | .infinite negative => if negative then "-inf".toList else "inf".toList
  | .finite negative mantissa exponent =>
    fixed places negative (Binary.numerator mantissa exponent) (Binary.denominator exponent)

/-- The integer nearest to a finite double, the even one of two as near. -/
def nearest (negative : Bool) (mantissa : Nat) (exponent : Int) : Int :=
  let n := roundDiv (Binary.numerator mantissa exponent) (Binary.denominator exponent)
  if negative then -(n : Int) else n

/-- The integer part of a finite double. -/
def whole (negative : Bool) (mantissa : Nat) (exponent : Int) : Int :=
  let n := Binary.numerator mantissa exponent / Binary.denominator exponent
  if negative then -(n : Int) else n

/-- Rounding goes up by at most half of the divisor. -/
theorem roundDiv_mul_le {num den : Nat} (pos : 0 < den) :
    2 * (roundDiv num den * den) ≤ 2 * num + den := by
  have split := Nat.div_add_mod num den
  have small := Nat.mod_lt num pos
  simp only [roundDiv]
  have up : (num / den + 1) * den = den * (num / den) + den := by
    rw [Nat.add_mul, Nat.one_mul, Nat.mul_comm]
  have same : num / den * den = den * (num / den) := Nat.mul_comm ..
  split
  · omega
  · split
    · omega
    · split <;> omega

end Lindenmayer.Decimal
