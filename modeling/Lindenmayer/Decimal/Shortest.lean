import Lindenmayer.Decimal.Precision

/-!
The shortest decimal text that reads back as the same number of a format. A decimal reads back
exactly when it lies between the midpoints to the number's two neighbours, ends included for an even
mantissa. For 1, 2, … digits the two decimals around the value are tried; the first length with a
hit wins.
-/
namespace Lindenmayer.Decimal

/-- A positive number as a quotient of natural numbers. -/
structure Ratio where
  num : Nat
  den : Nat

/-- `n * 10 ^ power` as a quotient. -/
def Ratio.scaled (n : Nat) (power : Int) : Ratio :=
  ⟨n * Nat.pow 10 power.toNat, Nat.pow 10 (-power).toNat⟩

/-- Whether one quotient is below another. -/
def Ratio.below (a b : Ratio) : Bool := a.num * b.den < b.num * a.den

/-- The decimals that read back as one number: its value and the two ends around it. -/
structure Interval where
  value : Ratio
  low : Ratio
  high : Ratio
  closed : Bool

/-- The decimals that read back as `mantissa * 2 ^ exponent`. Below a power of two the neighbour
    is twice as near. -/
def Interval.around (p : Precision) (mantissa : Nat) (exponent : Int) : Interval :=
  let quarter (n : Nat) : Ratio :=
    ⟨Binary.numerator n (exponent - 2), Binary.denominator (exponent - 2)⟩
  let down := if mantissa = Nat.pow 2 (p.bits - 1) ∧ exponent ≠ p.leastExponent then 1 else 2
  { value := quarter (4 * mantissa)
    low := quarter (4 * mantissa - down)
    high := quarter (4 * mantissa + 2)
    closed := mantissa % 2 == 0 }

/-- Whether a decimal reads back as the interval's number. -/
def Interval.holds (i : Interval) (r : Ratio) : Bool :=
  if i.closed then !r.below i.low && !i.high.below r else i.low.below r && r.below i.high

/-- The least `k` from `start` on with the value below `10 ^ k`. -/
def Interval.magnitude (i : Interval) : (fuel : Nat) → (start : Int) → Int
  | 0, start => start
  | fuel + 1, start =>
    if i.value.below (Ratio.scaled 1 start) then start else i.magnitude fuel (start + 1)

/-- The nearer to the value of the two decimals around it with so many digits that read back;
    the digits and the power of ten of the last. -/
def Interval.candidate? (i : Interval) (magnitude : Int) (count : Nat) : Option (Nat × Int) :=
  let power := magnitude - count
  let unit := Ratio.scaled 1 power
  let lower := i.value.num * unit.den / (i.value.den * unit.num)
  let lowHolds := i.holds (Ratio.scaled lower power)
  let highHolds := i.holds (Ratio.scaled (lower + 1) power)
  if lowHolds && highHolds then
    let gap := 2 * (i.value.num * unit.den - lower * (i.value.den * unit.num))
    let width := i.value.den * unit.num
    some (if gap < width ∨ gap = width ∧ lower % 2 = 0 then lower else lower + 1, power)
  else if lowHolds then some (lower, power)
  else if highHolds then some (lower + 1, power)
  else none

/-- The first candidate with `count`, `count + 1`, … digits. -/
def Interval.search (i : Interval) (magnitude : Int) : (fuel count : Nat) → Nat × Int
  | 0, _ => (0, 0)
  | fuel + 1, count =>
    match i.candidate? magnitude count with
    | some found => found
    | none => i.search magnitude fuel (count + 1)

/-- The shortest digits of a finite number that is not zero, and the power of ten of the last. -/
def shortest (p : Precision) (mantissa : Nat) (exponent : Int) : Nat × Int :=
  let i := Interval.around p mantissa exponent
  i.search (i.magnitude 700 (-330)) 18 1

/-- How shortest numbers are written: which powers of ten stand without an exponent, and how many
    digits an exponent has at least. -/
structure Style where
  leastPositional : Int
  endPositional : Int
  exponentWidth : Nat

/-- Numbers from `0.0001` up to `10 ^ 16` are written without an exponent, whole ones with `.0`. -/
def messageStyle : Style := ⟨-4, 16, 2⟩

/-- Digits that stand for `0.d₁d₂… * 10 ^ point`, written in a style. -/
def layout (style : Style) (ds : List Char) (point : Int) : List Char :=
  let leading := point - 1
  if style.leastPositional ≤ leading ∧ leading < style.endPositional then
    if point ≤ 0 then "0.".toList ++ List.replicate (-point).toNat '0' ++ ds
    else
      let before := point.toNat
      if ds.length ≤ before then ds ++ List.replicate (before - ds.length) '0' ++ ".0".toList
      else ds.take before ++ '.' :: ds.drop before
  else
    let sign := if leading < 0 then '-' else '+'
    let fraction := match ds.drop 1 with
      | [] => []
      | more => '.' :: more
    ds.take 1 ++ fraction ++ 'e' :: sign :: padLeft style.exponentWidth (digits leading.natAbs)

/-- The shortest text of a double. -/
def shortestText (style : Style) : Binary → List Char
  | .nan => "nan".toList
  | .infinite negative => if negative then "-inf".toList else "inf".toList
  | .finite negative mantissa exponent =>
    let body :=
      if mantissa = 0 then "0.0".toList
      else
        let (n, power) := shortest .double mantissa exponent
        let all := digits n
        layout style (stripEnd '0' all) (power + all.length)
    if negative then '-' :: body else body

end Lindenmayer.Decimal
