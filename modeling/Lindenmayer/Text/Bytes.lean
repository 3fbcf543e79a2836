import Lindenmayer.Text.Digit

/-!
Texts as bytes: the UTF-8 encoding, the escapes of bytes in addresses, and the base of 64 that
carries bytes in ASCII.
-/
namespace Lindenmayer.Text

/-! ### UTF-8 -/

/-- The last six bits of a number, marked as a byte that continues. -/
def continuation (n : Nat) : Nat := 0x80 + n % 64

/-- The bytes of a code point. -/
def codePointBytes (c : CodePoint) : List Nat :=
  let n := c.val
  if n < 0x80 then [n]
  else if n < 0x800 then [0xC0 + n / 64, continuation n]
  else if n < 0x10000 then [0xE0 + n / 4096, continuation (n / 64), continuation n]
  else [0xF0 + n / 262144, continuation (n / 4096), continuation (n / 64), continuation n]

/-- The bytes of a text. -/
def bytes (s : Text) : List Nat := s.flatMap codePointBytes

/-- Whether a code point stands for a byte of a path that encodes nothing. -/
def isStrayByte (c : CodePoint) : Bool := 0xDC80 ≤ c.val && c.val ≤ 0xDCFF

/-- Whether a code point is a surrogate. -/
def isSurrogate (c : CodePoint) : Bool := 0xD800 ≤ c.val && c.val ≤ 0xDFFF

/-- Whether a code point is a surrogate that no path can have. -/
def isLoneInPath (c : CodePoint) : Bool := isSurrogate c && !isStrayByte c

/-- The number of bytes of a path. -/
def pathLength (s : Text) : Nat :=
  (s.map fun c => if isStrayByte c then 1 else (codePointBytes c).length).foldr (· + ·) 0

/-- The first code point of a kind with the surrogates that follow it, and how many code points stand
    before. -/
def badRun? (bad : CodePoint → Bool) (s : Text) : Option (Text × Nat) :=
  let before := s.takeWhile fun c => !bad c
  let run := (s.drop before.length).takeWhile isSurrogate
  if run.isEmpty then none else some (run, before.length)

/-- What stands for bytes that encode nothing. -/
def replacement : CodePoint := .ofNat 0xFFFD

/-- An encoding that has begun: how many bytes are to come, the range of the next, and the bits of
    those before. -/
structure Begun where
  more : Nat
  low : Nat
  high : Nat
  bits : Nat

/-- What a first byte begins, none if no encoding begins with it. Short encodings of small numbers,
    surrogates and numbers beyond the last code point are ruled out by the range of the second. -/
def begun? (b : Nat) : Option Begun :=
  if 0xC2 ≤ b ∧ b ≤ 0xDF then some ⟨1, 0x80, 0xBF, b % 32⟩
  else if b = 0xE0 then some ⟨2, 0xA0, 0xBF, 0⟩
  else if b = 0xED then some ⟨2, 0x80, 0x9F, 13⟩
  else if 0xE1 ≤ b ∧ b ≤ 0xEF then some ⟨2, 0x80, 0xBF, b % 16⟩
  else if b = 0xF0 then some ⟨3, 0x90, 0xBF, 0⟩
  else if 0xF1 ≤ b ∧ b ≤ 0xF3 then some ⟨3, 0x80, 0xBF, b % 8⟩
  else if b = 0xF4 then some ⟨3, 0x80, 0x8F, 4⟩
  else none

/-- A first byte: what it says at once, and what it begins. -/
def firstByte (b : Nat) : Text × Option Begun :=
  if b < 0x80 then ([.ofNat b], none)
  else
    match begun? b with
    | some begun => ([], some begun)
    | none => ([replacement], none)

/-- One byte more: what is said, and what has begun then. A byte out of range ends what has begun and
    counts as a first one. -/
def nextByte (state : Option Begun) (b : Nat) : Text × Option Begun :=
  match state with
  | none => firstByte b
  | some begun =>
    if begun.low ≤ b ∧ b ≤ begun.high then
      let bits := begun.bits * 64 + b % 64
      if begun.more ≤ 1 then ([.ofNat bits], none)
      else ([], some ⟨begun.more - 1, 0x80, 0xBF, bits⟩)
    else
      let (said, state) := firstByte b
      (replacement :: said, state)

/-- The text of bytes, from what has begun. -/
def decodeFrom : Option Begun → List Nat → Text
  | none, [] => []
  | some _, [] => [replacement]
  | state, b :: rest =>
    let (said, state) := nextByte state b
    said ++ decodeFrom state rest

/-! ### Units of more than one byte -/

/-- A number from its bytes. -/
def unitOf (greatFirst : Bool) (bs : List Nat) : Nat :=
  (if greatFirst then bs else bs.reverse).foldl (fun n b => 256 * n + b) 0

/-- The units of `width` bytes that bytes are, none if some bytes are left over. -/
def units? (greatFirst : Bool) (width : Nat) (bs : List Nat) : Option (List Nat) :=
  if bs.length % width ≠ 0 then none
  else some ((List.range (bs.length / width)).map fun i =>
    unitOf greatFirst ((bs.drop (i * width)).take width))

/-- The code points of units of 16 bits: a high and a low surrogate that follow each other make
    one. -/
def joinSurrogates : List Nat → Text
  | high :: low :: rest =>
    if 0xD800 ≤ high ∧ high < 0xDC00 ∧ 0xDC00 ≤ low ∧ low < 0xE000 then
      .ofNat (0x10000 + (high - 0xD800) * 1024 + (low - 0xDC00)) :: joinSurrogates rest
    else .ofNat high :: joinSurrogates (low :: rest)
  | units => units.map CodePoint.ofNat

/-- The text of bytes in units of 16 bits. -/
def ofBytes16? (greatFirst : Bool) (bs : List Nat) : Option Text :=
  (units? greatFirst 2 bs).map joinSurrogates

/-- The text of bytes in units of 32 bits. -/
def ofBytes32? (greatFirst : Bool) (bs : List Nat) : Option Text := do
  let units ← units? greatFirst 4 bs
  if units.all (· < 0x110000) then some (units.map CodePoint.ofNat) else none

/-- The text of bytes; what encodes nothing is replaced. -/
def ofBytes (bs : List Nat) : Text := decodeFrom none bs

/-! ### Escaped bytes -/

/-- Bytes with each percent sign and the two hexadecimal digits behind it made one byte. -/
def unescape : List Nat → List Nat
  | b :: c :: d :: rest =>
    if b = 37 then
      match hexDigit? c, hexDigit? d with
      | some c, some d => (16 * c + d) :: unescape rest
      | _, _ => b :: unescape (c :: d :: rest)
    else b :: unescape (c :: d :: rest)
  | bs => bs

/-- A text with its escaped bytes decoded. -/
def unescaped (s : Text) : Text := ofBytes (unescape (bytes s))

/-- Whether a byte is a letter or a digit of ASCII. -/
def isWordByte (b : Nat) : Bool :=
  (48 ≤ b && b ≤ 57) || (65 ≤ b && b ≤ 90) || (97 ≤ b && b ≤ 122)

/-- A byte escaped by a percent sign and two digits. -/
def escapedByte (b : Nat) : Text := ofString (String.ofList ('%' :: hexDigits 2 b))

/-- A text with all bytes escaped but letters and digits of ASCII and those of another kind. -/
def escaped (kept : Nat → Bool) (s : Text) : Text :=
  (bytes s).flatMap fun b => if isWordByte b || kept b then [.ofNat b] else escapedByte b

/-! ### The base of 64 -/

/-- The sixty-four characters. -/
def alphabet64 : List Char :=
  "ABCDEFGHIJKLMNOPQRSTUVWXYZabcdefghijklmnopqrstuvwxyz0123456789+/".toList

/-- The character of six bits. -/
def char64 (n : Nat) : Char := alphabet64.getD (n % 64) '='

/-- Bytes in the base of 64: four characters for three bytes, with equality signs for those missing
    at the end. -/
def base64 : List Nat → List Char
  | [] => []
  | [a] => [char64 (a / 4), char64 (a * 16), '=', '=']
  | [a, b] => [char64 (a / 4), char64 (a * 16 + b / 16), char64 (b * 4), '=']
  | a :: b :: c :: rest =>
    char64 (a / 4) :: char64 (a * 16 + b / 16) :: char64 (b * 4 + c / 64) :: char64 c :: base64 rest

end Lindenmayer.Text
