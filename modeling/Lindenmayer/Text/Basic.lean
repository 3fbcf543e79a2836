/-!
A text is the list of its code points. Surrogates may stand alone in it, which is why it is no
`String`; `toString?_ofString` says that nothing is lost for the texts that are.
-/
namespace Lindenmayer

/-- A number that names a character, surrogates included. -/
abbrev CodePoint := Fin 0x110000

/-- The code point with a number; numbers count modulo the number of code points. -/
def CodePoint.ofNat (n : Nat) : CodePoint := ⟨n % 0x110000, Nat.mod_lt n (by decide)⟩

/-- A text as the list of its code points. -/
abbrev Text := List CodePoint

namespace Text

/-- The code point of a character. -/
def ofChar (c : Char) : CodePoint :=
  ⟨c.toNat, by
    have := c.valid
    simp only [UInt32.isValidChar, Nat.isValidChar] at this
    show c.val.toNat < _
    omega⟩

/-- The code points of a string. -/
def ofString (s : String) : Text := s.toList.map ofChar

/-- The character a code point names, none for a surrogate. -/
def toChar? (c : CodePoint) : Option Char :=
  if h : c.val.isValidChar then some (Char.ofNatAux c.val h) else none

/-- The string of a text, none if a surrogate stands alone in it. -/
def toString? (s : Text) : Option String := (s.mapM toChar?).map String.ofList

/-- Whether a text has surrogates that stand alone, so that no encoding can carry it. -/
def hasSurrogate (s : Text) : Bool := s.any fun c => !c.val.isValidChar

/-- A text of characters is equal to a string. -/
def isString (s : Text) (t : String) : Bool := s == ofString t

theorem toChar?_ofChar (c : Char) : toChar? (ofChar c) = some c := by
  have h : c.toNat.isValidChar := c.valid
  exact dif_pos h

theorem toString?_ofString (s : String) : toString? (ofString s) = some s := by
  have h : ∀ cs : List Char, (cs.map ofChar).mapM toChar? = some cs := by
    intro cs
    induction cs with
    | nil => rfl
    | cons c rest ih => simp [List.mapM_cons, toChar?_ofChar, ih]
  simp [toString?, ofString, h]

end Text

end Lindenmayer
