import Lindenmayer.Text.Basic

/-!
Decimal digits of every script. A script's ten digits stand together in order, so its zero places
all of them; `digit?` reads one character and `digit?_ascii` says what it is on the ASCII digits.
The digits of numerals in ASCII and in base sixteen have readers of their own.
-/
namespace Lindenmayer.Text

/-- The zeros of the scripts that have decimal digits, ascending. -/
def zeros : List Nat := [
  0x30, 0x660, 0x6F0, 0x7C0, 0x966, 0x9E6, 0xA66, 0xAE6, 0xB66, 0xBE6, 0xC66, 0xCE6,
  0xD66, 0xDE6, 0xE50, 0xED0, 0xF20, 0x1040, 0x1090, 0x17E0, 0x1810, 0x1946, 0x19D0, 0x1A80,
  0x1A90, 0x1B50, 0x1BB0, 0x1C40, 0x1C50, 0xA620, 0xA8D0, 0xA900, 0xA9D0, 0xA9F0, 0xAA50, 0xABF0,
  0xFF10, 0x104A0, 0x10D30, 0x11066, 0x110F0, 0x11136, 0x111D0, 0x112F0, 0x11450, 0x114D0, 0x11650, 0x116C0,
  0x11730, 0x118E0, 0x11950, 0x11C50, 0x11D50, 0x11DA0, 0x16A60, 0x16AC0, 0x16B50, 0x1D7CE, 0x1D7D8, 0x1D7E2,
  0x1D7EC, 0x1D7F6, 0x1E140, 0x1E2F0, 0x1E950, 0x1FBF0]

/-- The value of a decimal digit of any script. -/
def digit? (c : Nat) : Option Nat :=
  (zeros.find? fun z => z ≤ c && c < z + 10).map (c - ·)

/-- The value of an ASCII digit. -/
def asciiDigit? (c : Nat) : Option Nat := if 48 ≤ c ∧ c ≤ 57 then some (c - 48) else none

/-- The value of a hexadecimal digit, in either case. -/
def hexDigit? (c : Nat) : Option Nat :=
  if 48 ≤ c ∧ c ≤ 57 then some (c - 48)
  else if 97 ≤ c ∧ c ≤ 102 then some (c - 87)
  else if 65 ≤ c ∧ c ≤ 70 then some (c - 55)
  else none

/-- The value of a hexadecimal digit; decimal digits may be of any script. -/
def anyHexDigit? (c : Nat) : Option Nat := (hexDigit? c).orElse fun _ => digit? c

/-- The digits that a text begins with, of a kind that says each one's value, and the rest. -/
def takeDigits (value? : Nat → Option Nat) : Text → List Nat × Text
  | [] => ([], [])
  | c :: rest =>
    match value? c.val with
    | some d => let (ds, rest) := takeDigits value? rest; (d :: ds, rest)
    | none => ([], c :: rest)

/-- The low `width` hexadecimal digits of a number, in lower case. -/
def hexDigits : (width : Nat) → Nat → List Char
  | 0, _ => []
  | width + 1, n => hexDigits width (n / 16) ++ [Nat.digitChar (n % 16)]

theorem digit?_ascii (d : Fin 10) : digit? (48 + d) = some d.val := by
  revert d; decide

theorem digit?_lt {c d : Nat} (h : digit? c = some d) : d < 10 := by
  simp only [digit?, Option.map_eq_some_iff] at h
  obtain ⟨z, found, rfl⟩ := h
  have := List.find?_some found
  simp only [Bool.and_eq_true, decide_eq_true_eq] at this
  omega

end Lindenmayer.Text
