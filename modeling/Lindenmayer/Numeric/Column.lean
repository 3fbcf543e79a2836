import Lindenmayer.Decimal.Shortest
import Lindenmayer.Numeric.ElementType

/-!
Numbers written below each other, points under points. Real numbers have the fewest digits that read
back, but no more than eight behind the point; all numbers of a column have an exponent or none has
(`needsExponent`). `elementText` is how a number is written by itself.
-/
namespace Lindenmayer.Numeric

open Decimal

/-- Texts brought to a width with blanks before them. -/
def padStart (width : Nat) (s : List Char) : List Char := List.replicate (width - s.length) ' ' ++ s

/-- Texts brought to a width with blanks after them. -/
def padEnd (width : Nat) (s : List Char) : List Char := s ++ List.replicate (width - s.length) ' '

/-- The greatest of some lengths. -/
def widest (columns : List (List Char)) : Nat := (columns.map List.length).foldl max 0

/-- The most digits behind the point. -/
def places : Nat := 8

/-- A finite number in parts: what stands before the point, what stands behind it, and the power of
    ten that both are taken times. -/
structure Parts where
  whole : List Char
  fraction : List Char
  power : Int

/-- The digits of a number that is not zero, and the power of ten of the last: the fewest that read
    back, or as many as there is room for down to a power of ten. -/
def digitsTo (p : Precision) (mantissa : Nat) (exponent least : Int) : Nat × Int :=
  let (n, power) := shortest p mantissa exponent
  if least ≤ power then (n, power)
  else
    let unit := Ratio.scaled 1 least
    (roundDiv (Binary.numerator mantissa exponent * unit.den)
      (Binary.denominator exponent * unit.num), least)

/-- A sign before digits. -/
def signed (negative : Bool) (ds : List Char) : List Char := if negative then '-' :: ds else ds

/-- The parts of a finite number written without a power of ten. -/
def positional (p : Precision) (negative : Bool) (mantissa : Nat) (exponent : Int) : Parts :=
  if mantissa = 0 then ⟨signed negative ['0'], [], 0⟩
  else
    let (n, power) := digitsTo p mantissa exponent (-(places : Int))
    let all := padLeft ((-power).toNat + 1) (digits n ++ List.replicate power.toNat '0')
    let cut := all.length - (-power).toNat
    ⟨signed negative (all.take cut), stripEnd '0' (all.drop cut), 0⟩

/-- The parts of a finite number written with one digit before the point. -/
def scientific (p : Precision) (negative : Bool) (mantissa : Nat) (exponent : Int) : Parts :=
  if mantissa = 0 then ⟨signed negative ['0'], [], 0⟩
  else
    let (short, power) := shortest p mantissa exponent
    let leading := power + (digits short).length - 1
    let (n, last) := digitsTo p mantissa exponent (leading - places)
    let all := digits n
    ⟨signed negative (all.take 1), stripEnd '0' (all.drop 1), last + all.length - 1⟩

/-- An exponent's sign and digits, two at least. -/
def exponentText (width : Nat) (power : Int) : List Char :=
  (if power < 0 then '-' else '+') :: padLeft (max 2 width) (digits power.natAbs)

/-- The size of a finite number. -/
def size? : Binary → Option Ratio
  | .finite _ mantissa exponent =>
    some ⟨Binary.numerator mantissa exponent, Binary.denominator exponent⟩
  | _ => none

/-- The power of ten from which on a column's numbers have an exponent. -/
def columnEnd (p : Precision) : Nat := if p.bits ≤ 11 then 3 else if p.bits ≤ 24 then 6 else 8

/-- The power of ten from which on a number by itself has an exponent. -/
def elementEnd (p : Precision) : Nat := if p.bits ≤ 11 then 3 else if p.bits ≤ 24 then 6 else 16

/-- A ten-thousandth as a format has it. -/
def tenThousandth (p : Precision) : Ratio :=
  (size? (Binary.round p (.finite false 0x1a36e2eb1c432d (-66)))).getD ⟨1, 10000⟩

/-- The number of parts that the unit has at a thousand in a format. -/
def partsAtThousand (p : Precision) : Nat := Nat.pow 2 (p.bits - 10)

/-- Whether a column has exponents: of its sizes that are not zero the greatest is large, the least
    is small, or the one is more than a thousand times the other. -/
def needsExponent (p : Precision) (column : List Binary) : Bool :=
  match (column.filterMap size?).filter (·.num != 0) with
  | [] => false
  | first :: rest =>
    let greatest := rest.foldl (fun a b => if a.below b then b else a) first
    let least := rest.foldl (fun a b => if b.below a then b else a) first
    let unit := partsAtThousand p
    !greatest.below (Ratio.scaled 1 (columnEnd p)) || least.below (tenThousandth p) ||
      decide ((2000 * unit + 1) * (least.num * greatest.den) < 2 * unit * (greatest.num * least.den))

/-- The text of a number that is not finite. -/
def specialText : Binary → List Char
  | .infinite true => "-inf".toList
  | .infinite false => "inf".toList
  | _ => "nan".toList

/-- The cells of a column of real numbers, all of one width. -/
def realCells (p : Precision) (column : List Binary) : List (List Char) :=
  let exponential := needsExponent p column
  let parts? : Binary → Option Parts
    | .finite negative mantissa exponent =>
      some ((if exponential then scientific else positional) p negative mantissa exponent)
    | _ => none
  let written := column.filterMap parts?
  let behind := widest (written.map Parts.fraction)
  let digitCount := widest (written.map fun w => digits w.power.natAbs)
  let tail := if exponential then behind + max 2 digitCount + 2 else behind
  let specials := (column.filter fun x => (size? x).isNone).map specialText
  let before := max (widest (written.map Parts.whole)) (widest specials - (tail + 1))
  column.map fun x =>
    match parts? x with
    | none => padStart (before + tail + 1) (specialText x)
    | some w =>
      let head := padStart before w.whole ++ ['.']
      if exponential then
        head ++ w.fraction ++ List.replicate (behind - w.fraction.length) '0' ++
          'e' :: exponentText digitCount w.power
      else head ++ padEnd behind w.fraction

/-- The cells of a column of integers, all of one width. -/
def integerCells (column : List Int) : List (List Char) :=
  let written := column.map fun n => (toString n).toList
  written.map (padStart (widest written))

/-- A real number by itself. -/
def elementText (p : Precision) (x : Binary) : List Char :=
  match x with
  | .finite negative mantissa exponent =>
    if mantissa = 0 then signed negative "0.0".toList
    else
      let size : Ratio := ⟨Binary.numerator mantissa exponent, Binary.denominator exponent⟩
      let plain := !size.below (Ratio.scaled 1 (-4)) && size.below (Ratio.scaled 1 (elementEnd p))
      let (n, power) := shortest p mantissa exponent
      let all := digits n
      signed negative (layout (if plain then ⟨-5, 17, 2⟩ else ⟨0, 0, 2⟩) (stripEnd '0' all)
        (power + all.length))
  | x => specialText x

end Lindenmayer.Numeric
