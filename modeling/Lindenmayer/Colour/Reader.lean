import Lindenmayer.Colour.Basic
import Lindenmayer.Text.Case
import Lindenmayer.Text.Digit
import Lindenmayer.Text.Blank
import Lindenmayer.Text.Numeral

/-!
The spellings of colours: names, hexadecimal digits behind `#`, and the functions `rgb`, `rgba`,
`hsl`, `hsv` and `hsb`. Case does not matter; digits may be of any script, and white space may stand
around a function's arguments. One line end may follow.
-/
namespace Lindenmayer.Colour

/-- The names of colours. -/
def names : List (String × Colour) := [
  ("black", ⟨0, 0, 0⟩), ("white", ⟨255, 255, 255⟩), ("red", ⟨255, 0, 0⟩), ("blue", ⟨0, 0, 255⟩)]

/-- The length of the longest text that is looked at. -/
def longest : Nat := 100

/-- A text without one line end at its end. -/
def chomp (s : Text) : Text :=
  match s.reverse with
  | c :: rest => if c.val = 10 then rest.reverse else s
  | [] => []

/-- The colour of hexadecimal digits: one for each channel, doubled, or two; opacity may follow. -/
def ofHex? (s : Text) : Option Colour := do
  let digits ← s.mapM fun c => Text.hexDigit? c.val
  match digits with
  | [r, g, b] | [r, g, b, _] => some ⟨17 * r, 17 * g, 17 * b⟩
  | [r, r', g, g', b, b'] | [r, r', g, g', b, b', _, _] =>
    some ⟨16 * r + r', 16 * g + g', 16 * b + b'⟩
  | _ => none

/-! ### Arguments of functions -/

/-- An unsigned decimal: its digits as a number, and how many of them are behind the point. -/
structure Amount where
  mantissa : Nat
  places : Nat

/-- The kinds of arguments. -/
inductive Argument where
  /-- Digits. -/
  | integer
  /-- Digits and a percent sign. -/
  | percent
  /-- Digits, maybe with a point. -/
  | decimal
  /-- Digits, maybe with a point, and a percent sign. -/
  | decimalPercent

/-- Whether a kind of argument may have a point. -/
def Argument.pointed : Argument → Bool
  | .decimal | .decimalPercent => true
  | _ => false

/-- Whether a kind of argument ends in a percent sign. -/
def Argument.isPercent : Argument → Bool
  | .percent | .decimalPercent => true
  | _ => false

/-- The text behind a code point that it begins with. -/
def after? (code : Nat) : Text → Option Text
  | [] => none
  | c :: rest => if c.val = code then some rest else none

/-- Reads one argument. -/
def Argument.read? (kind : Argument) (s : Text) : Option (Amount × Text) := do
  let (before, rest) := Text.takeDigits Text.digit? s
  if before.isEmpty then none
  else
    let (places, rest) :=
      match if kind.pointed then after? 46 rest else none with
      | some tail => Text.takeDigits Text.digit? tail
      | none => ([], rest)
    let amount : Amount := ⟨Text.ofDigits (before ++ places), places.length⟩
    if kind.isPercent then return (amount, ← after? 37 rest) else return (amount, rest)

/-- Reads the arguments up to the closing parenthesis at the end of the text. -/
def arguments? : List Argument → Text → Option (List Amount)
  | [], _ => none
  | kind :: more, s => do
    let (amount, rest) ← kind.read? (Text.trimStart s)
    let rest := Text.trimStart rest
    match more with
    | [] => if (← after? 41 rest).isEmpty then return [amount] else none
    | _ => return amount :: (← arguments? more (← after? 44 rest))

/-- The arguments of a call of a function. -/
def call? (function : String) (kinds : List Argument) (s : Text) : Option (List Amount) :=
  let head := Text.ofString (function ++ "(")
  if head.isPrefixOf s then arguments? kinds (s.drop head.length) else none

/-! ### Reading a colour -/

variable (K : Type) [Scalar K]

/-- The number of an amount. -/
def Amount.toScalar (a : Amount) : K := Scalar.decimal a.mantissa a.places

/-- The number of an amount in hundredths. -/
def Amount.hundredths (a : Amount) : K := a.toScalar K / Scalar.ofInt 100

/-- The channel of a percentage. -/
def Amount.percentChannel (a : Amount) : Except Failure Int :=
  Scalar.truncate ((Scalar.ofInt (a.mantissa * 255) : K) / Scalar.ofInt 100 + Scalar.half Scalar.one)

/-- Makes a colour from the arguments of a function. -/
abbrev Maker := List Amount → Except Failure (Option Colour)

/-- Three channels as they are. -/
def makeRgb : Maker
  | r :: g :: b :: _ => .ok (some ⟨r.mantissa, g.mantissa, b.mantissa⟩)
  | _ => .ok none

/-- Three channels as percentages. -/
def makePercent : Maker
  | [r, g, b] => do
    return some ⟨← r.percentChannel K, ← g.percentChannel K, ← b.percentChannel K⟩
  | _ => .ok none

/-- A hue in degrees, a saturation and a lightness. -/
def makeHsl : Maker
  | [h, s, l] => some <$>
    ofHls (h.toScalar K / Scalar.ofInt 360) (l.hundredths K) (s.hundredths K)
  | _ => .ok none

/-- A hue in degrees, a saturation and a value. -/
def makeHsv : Maker
  | [h, s, v] => some <$>
    ofHsv (h.toScalar K / Scalar.ofInt 360) (s.hundredths K) (v.hundredths K)
  | _ => .ok none

/-- The functions with the kinds of their arguments, in the order in which they are tried. -/
def functions : List (String × List Argument × Maker) := [
  ("rgb", [.integer, .integer, .integer], makeRgb),
  ("rgb", [.percent, .percent, .percent], makePercent K),
  ("hsl", [.decimal, .decimalPercent, .decimalPercent], makeHsl K),
  ("hsv", [.decimal, .decimalPercent, .decimalPercent], makeHsv K),
  ("hsb", [.decimal, .decimalPercent, .decimalPercent], makeHsv K),
  ("rgba", [.integer, .integer, .integer, .integer], makeRgb)]

/-- The colour of a call, none if the text is no call. -/
def ofCall (s : Text) : Except Failure (Option Colour) :=
  match (functions K).findSome? fun (name, kinds, make) => (call? name kinds s).map make with
  | some made => made
  | none => .ok none

/-- The colour that a text names, computed with scalars of the given type. -/
def ofText (s : Text) : Except Failure Colour := do
  if longest < s.length then .error .colourTooLong
  else
    let lowered := Text.lower s
    match names.find? fun entry => lowered.isString entry.1 with
    | some (_, colour) => return colour
    | none =>
      let body := chomp lowered
      match (after? 35 body).bind ofHex? with
      | some colour => return colour
      | none =>
        match ← ofCall K body with
        | some colour => return colour
        | none => .error (.unknownColour lowered)

end Lindenmayer.Colour
