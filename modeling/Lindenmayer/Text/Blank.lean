import Lindenmayer.Text.Basic

/-!
White space of every script, and trimming it. The byte-order mark is no white space:
`stripMarks` takes it away by itself.
-/
namespace Lindenmayer.Text

/-- White space: the separators of every script and the ASCII controls that stand for one. -/
def isBlank (c : Nat) : Bool :=
  (9 ≤ c && c ≤ 13) || (28 ≤ c && c ≤ 32) || c == 0x85 || c == 0xA0 || c == 0x1680 ||
    (0x2000 ≤ c && c ≤ 0x200A) || c == 0x2028 || c == 0x2029 || c == 0x202F || c == 0x205F ||
    c == 0x3000

/-- White space by the property of that name: blanks without the four separators of ASCII. -/
def isWhite (c : Nat) : Bool := isBlank c && !(28 ≤ c && c ≤ 31)

/-- The byte-order mark. -/
def byteOrderMark : CodePoint := .ofNat 0xFEFF

/-- A text without the code points of a kind before it. -/
def dropAtStart (kind : Nat → Bool) (s : Text) : Text := s.dropWhile fun c => kind c.val

/-- A text without the code points of a kind around it. -/
def dropAround (kind : Nat → Bool) (s : Text) : Text :=
  (dropAtStart kind (dropAtStart kind s).reverse).reverse

/-- A text without the blanks before it. -/
def trimStart (s : Text) : Text := dropAtStart isBlank s

/-- A text without the blanks around it. -/
def trim (s : Text) : Text := dropAround isBlank s

/-- A text without the white space around it. -/
def trimWhite (s : Text) : Text := dropAround isWhite s

/-- A text without the byte-order marks before it. -/
def stripMarks (s : Text) : Text := s.dropWhile (· == byteOrderMark)

theorem isBlank_byteOrderMark : isBlank byteOrderMark.val = false := by decide

end Lindenmayer.Text
