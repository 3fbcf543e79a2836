import Lindenmayer.Decimal.Fixed
import Lindenmayer.Text.Numeral

/-!
Reading decimal text as doubles. A numeral is kept as its digits and a power of ten until the one
rounding at the end (`Numeral.toFloat`).
-/
namespace Lindenmayer.Decimal

/-- A decimal numeral of the ASCII digits: `± mantissa * 10 ^ exponent`. It is whole when it was
    written without a point and an exponent. -/
structure Numeral where
  negative : Bool
  mantissa : Nat
  exponent : Int
  whole : Bool
  digitCount : Nat
deriving DecidableEq, Repr

/-- The double nearest to `mantissa * 10 ^ exponent`. Sizes far out of the range of doubles are
    settled without the power. -/
def nearestFloat (mantissa : Nat) (exponent : Int) : Float :=
  let size : Int := (digits mantissa).length + exponent
  if mantissa = 0 ∨ size < -330 then 0.0
  else if 310 < size then 1.0 / 0.0
  else Float.ofScientific mantissa (decide (exponent < 0)) exponent.natAbs

/-- The double nearest to a numeral. -/
def Numeral.toFloat (n : Numeral) : Float :=
  let size := nearestFloat n.mantissa n.exponent
  if n.negative then -size else size

/-- The ASCII digits that a text begins with, and the rest. -/
def takeDigits (s : Text) : List Nat × Text := Text.takeDigits Text.asciiDigit? s

/-- The digits after a point that a text begins with; a point without digits is left where it is. -/
def takeFraction : Text → List Nat × Text
  | [] => ([], [])
  | c :: rest =>
    if c.val = 46 then
      match takeDigits rest with
      | ([], _) => ([], c :: rest)
      | (ds, rest) => (ds, rest)
    else ([], c :: rest)

/-- A sign that a text begins with, true for minus, and the rest. -/
def takeSign : Text → Option Bool × Text
  | [] => (none, [])
  | c :: rest =>
    if c.val = 45 then (some true, rest)
    else if c.val = 43 then (some false, rest)
    else (none, c :: rest)

/-- The exponent that a text begins with; one without digits is left where it is. -/
def takeExponent : Text → Option Int × Text
  | [] => (none, [])
  | c :: rest =>
    if c.val = 101 ∨ c.val = 69 then
      let (sign, tail) := takeSign rest
      match takeDigits tail with
      | ([], _) => (none, c :: rest)
      | (ds, tail) =>
        let n : Int := Text.ofDigits ds
        (some (if sign = some true then -n else n), tail)
    else (none, c :: rest)

/-- The numeral of a sign, digits before a point, digits after it and an exponent. -/
def Numeral.assemble (negative : Bool) (before after : List Nat) (power : Option Int) : Numeral :=
  { negative
    mantissa := Text.ofDigits (before ++ after)
    exponent := power.getD 0 - after.length
    whole := after.isEmpty && power.isNone
    digitCount := before.length }

/-- The spellings of a number that is none and of infinity, in lower case. -/
def specialFloat? (s : Text) : Option Float :=
  if s.isString "nan" then some (0.0 / 0.0)
  else if s.isString "inf" || s.isString "infinity" then some (1.0 / 0.0)
  else none

/-- An ASCII letter in lower case. -/
def lowerLetter (c : CodePoint) : CodePoint :=
  if h : 65 ≤ c.val ∧ c.val ≤ 90 then ⟨c.val + 32, by omega⟩ else c

/-- The double that a whole text stands for: a sign, digits with a point among or around them and an
    exponent, or a special spelling. -/
def exactFloat? (s : Text) : Option Float :=
  let (sign, body) := takeSign s
  let signed (x : Float) : Float := if sign = some true then -x else x
  match specialFloat? (body.map lowerLetter) with
  | some x => some (signed x)
  | none =>
    let (before, rest) := takeDigits body
    let (after, rest) :=
      match takeFraction rest with
      | ([], c :: tail) => if c.val = 46 ∧ !before.isEmpty then ([], tail) else ([], c :: tail)
      | found => found
    let (power, rest) := takeExponent rest
    if (before.isEmpty && after.isEmpty) || !rest.isEmpty then none
    else some (signed (Numeral.assemble false before after power).toFloat)

/-- The double that a text stands for, white space around it aside. -/
def float? (s : Text) : Option Float := exactFloat? (Text.trim s)

end Lindenmayer.Decimal
