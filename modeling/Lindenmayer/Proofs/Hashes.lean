import Lindenmayer.Drawing.Picture
import Lindenmayer.Proofs.Reading

/-!
The `#` spelling of a colour whose channels are bytes. It is `#` and six digits (`hashText_digits`), and whatever the
scalars it is read back as the colour that it was written from (`hashText_read`).
-/
namespace Lindenmayer.Hashes
open Colour Reading

/-- Whether every channel is a byte. -/
structure Bytes (c : Colour) : Prop where
  red : 0 ≤ c.red ∧ c.red ≤ 255
  green : 0 ≤ c.green ∧ c.green ≤ 255
  blue : 0 ≤ c.blue ∧ c.blue ≤ 255

/-- The digit of a number below sixteen, in lower case. -/
def hexDigit (d : Fin 16) : CodePoint := Text.ofChar (Nat.digitChar d)

theorem channelText_byte : ∀ n : Fin 256, (Pen.channelText n.val).map Text.ofChar =
    [Text.ofChar (Nat.digitChar (n / 16)), Text.ofChar (Nat.digitChar (n % 16))] := by decide +kernel

theorem channelText_digits {n : Int} (byte : 0 ≤ n ∧ n ≤ 255) :
    ∃ high low, (Pen.channelText n).map Text.ofChar = [hexDigit high, hexDigit low] ∧ n = 16 * (high : Nat) + (low : Nat) := by
  obtain ⟨m, rfl⟩ := Int.eq_ofNat_of_zero_le byte.1
  exact ⟨⟨m / 16, by omega⟩, ⟨m % 16, by omega⟩, channelText_byte ⟨m, by omega⟩, by dsimp only; omega⟩

/-- A hash and six digits. -/
def hashSpelled (digits : List (Fin 16)) : Text := Text.ofChar '#' :: digits.map hexDigit

theorem hashText_digits {c : Colour} (bytes : Bytes c) : ∃ a b d e f g, Pen.hashText c = hashSpelled [a, b, d, e, f, g] ∧
    c = ⟨16 * (a : Nat) + (b : Nat), 16 * (d : Nat) + (e : Nat), 16 * (f : Nat) + (g : Nat)⟩ := by
  obtain ⟨a, b, red, first⟩ := channelText_digits bytes.red
  obtain ⟨d, e, green, second⟩ := channelText_digits bytes.green
  obtain ⟨f, g, blue, third⟩ := channelText_digits bytes.blue
  refine ⟨a, b, d, e, f, g, ?_, ?_⟩
  · rw [Pen.hashText, List.map_append, List.map_append, List.map_cons, red, green, blue]
    rfl
  · rw [← first, ← second, ← third]

variable (K : Type) [Scalar K]

theorem hashSpelled_read (a b d e f g : Fin 16) : Colour.ofText K (hashSpelled [a, b, d, e, f, g]) =
    .ok ⟨16 * (a : Nat) + (b : Nat), 16 * (d : Nat) + (e : Nat), 16 * (f : Nat) + (g : Nat)⟩ := by
  have lowered : Text.lower (hashSpelled [a, b, d, e, f, g]) = hashSpelled [a, b, d, e, f, g] := by
    have digits : ∀ x, Lowered (hexDigit x) := by decide
    refine lower_lowered fun c member => ?_
    rcases List.mem_cons.mp member with rfl | member
    · decide
    · obtain ⟨x, _, rfl⟩ := List.mem_map.mp member
      exact digits x
  have unnamed : (names.find? fun entry => (hashSpelled [a, b, d, e, f, g]).isString entry.1) = none := by
    refine List.find?_eq_none.mpr fun entry listed named => ?_
    have same : hashSpelled [a, b, d, e, f, g] = Text.ofString entry.1 := by simpa [Text.isString] using named
    have different : ∀ entry ∈ names, (Text.ofString entry.1).head? ≠ some (Text.ofChar '#') := by decide
    exact different entry listed (by rw [← same]; rfl)
  have whole : chomp (hashSpelled [a, b, d, e, f, g]) = hashSpelled [a, b, d, e, f, g] := by
    have dark : ∀ x, (hexDigit x).val ≠ 10 := by decide
    exact if_neg (dark g)
  have read : ofHex? ([a, b, d, e, f, g].map hexDigit) =
      some ⟨16 * (a : Nat) + (b : Nat), 16 * (d : Nat) + (e : Nat), 16 * (f : Nat) + (g : Nat)⟩ := by
    have digits : ∀ x, Text.hexDigit? (hexDigit x).val = some x.val := by decide
    simp [ofHex?, digits]
  rw [ofText, if_neg (by simp [hashSpelled, longest])]
  dsimp only
  rw [lowered, whole, unnamed]
  dsimp only
  have hashed : (after? 35 (hashSpelled [a, b, d, e, f, g])).bind ofHex? = ofHex? ([a, b, d, e, f, g].map hexDigit) := rfl
  rw [hashed, read]
  rfl

/-- A colour of bytes is read back from its spelling. -/
theorem hashText_read {c : Colour} (bytes : Bytes c) : Colour.ofText K (Pen.hashText c) = .ok c := by
  obtain ⟨a, b, d, e, f, g, written, same⟩ := hashText_digits bytes
  rw [written, same]
  exact hashSpelled_read K a b d e f g

end Lindenmayer.Hashes
