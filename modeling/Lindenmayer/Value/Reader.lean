import Lindenmayer.Failure
import Lindenmayer.Decimal.Reading

/-!
Reading JSON text. Beyond the standard it takes `NaN`, `Infinity` and `-Infinity`, and escaped
surrogates that stand alone. A number with a point or an exponent is a float, any other an integer
of any size up to the digit limit. Of fields with one name the last counts, in the place of the
first.

Each reader takes the text that is left and gives its result with what it leaves. What it cannot read
it reports as a `Refusal`, at the place that so much of the text is left from.
-/
namespace Lindenmayer.Value

/-- White space between tokens. -/
def isSpace (c : CodePoint) : Bool := c.val == 32 || c.val == 9 || c.val == 10 || c.val == 13

/-- The text after white space. -/
def skipSpace (s : Text) : Text := s.dropWhile isSpace

/-- The text after a literal that it begins with. -/
def afterLiteral? (literal : String) (s : Text) : Option Text :=
  let word := Text.ofString literal
  if word.isPrefixOf s then some (s.drop word.length) else none

/-- Why a text is not read. A fault is where so many characters are left. -/
inductive Refusal where
  | fault (fault : JsonFault) (left : Nat)
  | tooLong (digits : Nat)
  | tooDeep (container : String)

/-- The number that four hexadecimal digits stand for. -/
def hexQuad? : Text → Option (Nat × Text)
  | a :: b :: c :: d :: rest => do
    let a ← Text.hexDigit? a.val
    let b ← Text.hexDigit? b.val
    let c ← Text.hexDigit? c.val
    let d ← Text.hexDigit? d.val
    return (a * 4096 + b * 256 + c * 16 + d, rest)
  | _ => none

/-- The text after the sign of a numbered escape that a text begins with. More than its digits has to
    follow. -/
def afterEscapeSign? : Text → Option Text
  | slash :: u :: rest =>
    if slash.val = 92 ∧ u.val = 117 ∧ 4 < rest.length then some rest else none
  | _ => none

/-- What follows the sign of a numbered escape. A high and a low surrogate that follow each other make
    one code point. -/
def numberedEscape (s : Text) : Except Refusal (CodePoint × Text) :=
  let bad (s : Text) : Except Refusal (CodePoint × Text) :=
    .error (.fault .badNumberedEscape (s.length + 1))
  match if 4 < s.length then hexQuad? s else none with
  | none => bad s
  | some (n, rest) =>
    if 0xD800 ≤ n ∧ n < 0xDC00 then
      match afterEscapeSign? rest with
      | none => .ok (CodePoint.ofNat n, rest)
      | some second =>
        match hexQuad? second with
        | none => bad second
        | some (m, tail) =>
          if 0xDC00 ≤ m ∧ m < 0xE000 then
            .ok (CodePoint.ofNat (0x10000 + (n - 0xD800) * 1024 + (m - 0xDC00)), tail)
          else .ok (CodePoint.ofNat n, rest)
    else .ok (CodePoint.ofNat n, rest)

/-- The code point that the letter of a short escape stands for. -/
def shortEscape? (c : CodePoint) : Option CodePoint :=
  match c.val with
  | 34 | 47 | 92 => some c
  | 98 => some (.ofNat 8)
  | 102 => some (.ofNat 12)
  | 110 => some (.ofNat 10)
  | 114 => some (.ofNat 13)
  | 116 => some (.ofNat 9)
  | _ => none

/-- What stands behind a backslash. -/
def readEscape (start : Nat) : Text → Except Refusal (CodePoint × Text)
  | [] => .error (.fault .openString start)
  | letter :: tail =>
    if letter.val = 117 then numberedEscape tail
    else
      match shortEscape? letter with
      | some found => .ok (found, tail)
      | none => .error (.fault .badEscape (tail.length + 2))

/-- What stands behind the opening quote of a string, up to the closing one; the quote is where so
    many characters are left. -/
def readString (start : Nat) : (fuel : Nat) → Text → Except Refusal (Text × Text)
  | 0, _ => .error (.fault .openString start)
  | _, [] => .error (.fault .openString start)
  | fuel + 1, c :: rest =>
    if c.val = 34 then .ok ([], rest)
    else if c.val < 32 then .error (.fault .controlCharacter (rest.length + 1))
    else if c.val = 92 then do
      let (found, tail) ← readEscape start rest
      let (s, tail) ← readString start fuel tail
      return (found :: s, tail)
    else do
      let (s, tail) ← readString start fuel rest
      return (c :: s, tail)

/-- The numeral that a text begins with. No zero stands before other digits. -/
def readNumeral (s : Text) : Option (Decimal.Numeral × Text) :=
  let (negative, body) :=
    match s with
    | c :: rest => if c.val = 45 then (true, rest) else (false, s)
    | [] => (false, [])
  let (before, rest) :=
    match body with
    | c :: rest => if c.val = 48 then ([0], rest) else Decimal.takeDigits body
    | [] => ([], [])
  if before.isEmpty then none
  else
    let (after, rest) := Decimal.takeFraction rest
    let (power, rest) := Decimal.takeExponent rest
    some (Decimal.Numeral.assemble negative before after power, rest)

/-- The number that a text begins with. -/
def readNumber (s : Text) : Except Refusal (Value × Text) :=
  match readNumeral s with
  | none => .error (.fault .noValue s.length)
  | some (n, rest) =>
    if !n.whole then .ok (.float n.toFloat, rest)
    else if Text.digitLimit < n.digitCount then .error (.tooLong n.digitCount)
    else .ok (.int (if n.negative then -(n.mantissa : Int) else n.mantissa), rest)

/-- The literals and what they stand for. -/
def literals : List (String × Value) := [
  ("null", .null), ("true", .bool true), ("false", .bool false), ("NaN", .float (0.0 / 0.0)),
  ("Infinity", .float (1.0 / 0.0)), ("-Infinity", .float (-1.0 / 0.0))]

/-- The literal or number that a text begins with. -/
def readAtom (s : Text) : Except Refusal (Value × Text) :=
  match literals.findSome? fun (word, value) => (afterLiteral? word s).map (value, ·) with
  | some found => .ok found
  | none => readNumber s

/-- The text after a certain character. -/
def after (expected : Nat) (fault : JsonFault) : Text → Except Refusal Text
  | [] => .error (.fault fault 0)
  | c :: rest => if c.val = expected then .ok rest else .error (.fault fault (rest.length + 1))

/-- The string that a text begins with, where a name has to be. -/
def readName (fuel : Nat) (s : Text) : Except Refusal (Text × Text) := do
  readString s.length fuel (← after 34 .noName s)

mutual

/-- The value that a text begins with, with so many levels of lists and objects at most. -/
def readValue : (fuel depth : Nat) → Text → Except Refusal (Value × Text)
  | 0, _, s => .error (.fault .noValue s.length)
  | fuel + 1, depth, s =>
    match s with
    | [] => .error (.fault .noValue 0)
    | c :: rest =>
      if c.val = 34 then do
        let (found, rest) ← readString s.length fuel rest
        return (.text found, rest)
      else if c.val = 91 then
        match depth with
        | 0 => .error (.tooDeep "array")
        | depth + 1 =>
          let inner := skipSpace rest
          if (inner.head?.map Fin.val) = some 93 then .ok (.list [], inner.tail)
          else do
            let (found, rest) ← readItems fuel depth inner
            return (.list found, rest)
      else if c.val = 123 then
        match depth with
        | 0 => .error (.tooDeep "object")
        | depth + 1 =>
          let inner := skipSpace rest
          if (inner.head?.map Fin.val) = some 125 then .ok (.object [], inner.tail)
          else do
            let (found, rest) ← readFields fuel depth inner
            return (.object (lastWins found), rest)
      else readAtom s

/-- The items of a list up to its closing bracket. -/
def readItems : (fuel depth : Nat) → Text → Except Refusal (List Value × Text)
  | 0, _, s => .error (.fault .noValue s.length)
  | fuel + 1, depth, s => do
    let (item, rest) ← readValue fuel depth s
    let rest := skipSpace rest
    if (rest.head?.map Fin.val) = some 93 then return ([item], rest.tail)
    else
      let rest ← after 44 .noComma rest
      let (items, rest) ← readItems fuel depth (skipSpace rest)
      return (item :: items, rest)

/-- The fields of an object up to its closing brace. -/
def readFields : (fuel depth : Nat) → Text → Except Refusal (List (Text × Value) × Text)
  | 0, _, s => .error (.fault .noName s.length)
  | fuel + 1, depth, s => do
    let (name, rest) ← readName fuel s
    let rest ← after 58 .noColon (skipSpace rest)
    let (value, rest) ← readValue fuel depth (skipSpace rest)
    let rest := skipSpace rest
    if (rest.head?.map Fin.val) = some 125 then return ([(name, value)], rest.tail)
    else
      let rest ← after 44 .noComma rest
      let (fields, rest) ← readFields fuel depth (skipSpace rest)
      return ((name, value) :: fields, rest)

end

/-- The value that a whole text is. Every second step at least takes a code point of the text, so
    twice its length bounds the steps to what is left at any place. -/
def readWhole (depth : Nat) (s : Text) : Except Refusal Value :=
  if s.head? = some Text.byteOrderMark then .error (.fault .markBefore s.length)
  else do
    let (value, rest) ← readValue (2 * s.length + 2) depth (skipSpace s)
    let rest := skipSpace rest
    if rest.isEmpty then return value else .error (.fault .moreBehind rest.length)

/-- The value that a JSON text stands for. Lists and objects may stand within each other so many
    levels deep. -/
def read (depth : Nat) (s : Text) : Except Failure Value :=
  match readWhole depth s with
  | .ok value => .ok value
  | .error (.fault fault left) => .error (.notJson fault (.of s (s.length - left)))
  | .error (.tooLong digits) => .error (.integerTooLong digits)
  | .error (.tooDeep container) => .error (.nestedTooDeep container)

end Lindenmayer.Value
