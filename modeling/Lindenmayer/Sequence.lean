import Lindenmayer.Failure

/-!
Sequences of symbols, and the values that stand for them. A text stands for its code points, an
array of numbers for its integers, and a list for its items one by one; `Sequence.toText` goes back
to text as far as the symbols are code points.
-/
namespace Lindenmayer

/-- A word of symbols. -/
abbrev Sequence := List Symbol

namespace Symbol

/-- The number of symbols. -/
def bound : Int := 0x100000000

/-- The symbol with a number. -/
def ofInt? (n : Int) : Option Symbol :=
  if 0 ≤ n ∧ n < bound then some (UInt32.ofNat n.toNat) else none

/-- The symbol that a code point is. -/
def ofCodePoint (c : CodePoint) : Symbol := UInt32.ofNat c.val

/-- The symbol that a character is. -/
def ofChar (c : Char) : Symbol := c.val

/-- The code point that a symbol is, if it is one. -/
def codePoint? (s : Symbol) : Option CodePoint :=
  if h : s.toNat < 0x110000 then some ⟨s.toNat, h⟩ else none

/-- The symbol that a value stands for: a text of one character or an integer in the range. The message
    that shows the value is made before it is looked at. -/
def ofValue (given : Value) : Except Failure Symbol :=
  match given.plain with
  | .text [c] => .ok (ofCodePoint c)
  | .text _ => .error (.symbolNotSingle given)
  | .int n =>
    match ofInt? n with
    | some s => .ok s
    | none => .error (.showing given (.notASymbol given))
  | _ => .error (.showing given (.notASymbol given))

/-- A symbol as it is shown: its character, or its number where it has none. -/
def display (s : Symbol) : Value :=
  match codePoint? s with
  | some c => .text [c]
  | none => .int s.toNat

end Symbol

namespace Sequence

/-- The sequence of a text's code points. -/
def ofText (s : Text) : Sequence := s.map Symbol.ofCodePoint

/-- The sequence of a string's characters. -/
def ofString (s : String) : Sequence := s.toList.map Symbol.ofChar

/-- The sequence of an array. An empty array of any type is the empty sequence. -/
def ofArray (type : ElementType) (shape : List Nat) (entries : List Value) :
    Except Failure Sequence :=
  if shape.length ≠ 1 then .error .notOneDimensional
  else if entries.isEmpty then .ok []
  else if !type.isInteger then .error (.notIntegers type.name)
  else
    match (entries.map Value.integerEntry).mapM Symbol.ofInt? with
    | some symbols => .ok symbols
    | none => .error .symbolsOutOfRange

/-- The sequence that a value stands for. Of an object the names of its fields count. -/
def ofValue (given : Value) : Except Failure Sequence :=
  match given.plain with
  | .text s => .ok (ofText s)
  | .array type shape entries => ofArray type shape entries
  | .list items => items.mapM Symbol.ofValue
  | .object fields => (fields.map fun f => Value.text f.1).mapM Symbol.ofValue
  | _ => .error .wrongKind

/-- The text of a sequence, if all its symbols are code points. -/
def toText? (s : Sequence) : Option Text := s.mapM Symbol.codePoint?

/-- The text of a sequence. -/
def toText (s : Sequence) : Except Failure Text :=
  match toText? s with
  | some text => .ok text
  | none => .error .noStringForm

/-- A sequence as it is shown: its text, or the numbers of all its symbols where it has none. -/
def display (s : Sequence) : Value :=
  match toText? s with
  | some text => .text text
  | none => .list (s.map fun symbol => .int symbol.toNat)

end Sequence

end Lindenmayer
