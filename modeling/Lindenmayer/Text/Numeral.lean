import Lindenmayer.Text.Digit
import Lindenmayer.Text.Blank

/-!
Integers as people write them: white space around, a sign, digits of any script with single
underscores between them. `integer?` reads one, up to `digitLimit` digits.
-/
namespace Lindenmayer.Text

/-- The most digits that an integer is read from or written with. -/
def digitLimit : Nat := 4300

/-- The digits that a text begins with, of a kind that says each one's value, and the rest. Single
    underscores may stand between two digits; none if one stands elsewhere. `isOpen` tells that a
    digit has to come next. -/
def scanDigits? (value? : Nat → Option Nat) : (isOpen : Bool) → List Nat →
    Option (List Nat × List Nat)
  | isOpen, [] => if isOpen then none else some ([], [])
  | isOpen, c :: rest =>
    match value? c with
    | some d => (scanDigits? value? false rest).map fun (ds, rest) => (d :: ds, rest)
    | none =>
      if isOpen then none
      else if c == 95 then scanDigits? value? true rest
      else some ([], c :: rest)

/-- The number that digits stand for in a base. -/
def ofDigitsIn (base : Nat) (digits : List Nat) : Nat := digits.foldl (fun n d => base * n + d) 0

/-- The number that digits stand for. -/
def ofDigits (digits : List Nat) : Nat := ofDigitsIn 10 digits

/-- The natural number that a run of digits stands for. -/
def natural? (cs : List Nat) : Option Nat :=
  match scanDigits? digit? true cs with
  | some (digits, []) => if digits.length ≤ digitLimit then some (ofDigits digits) else none
  | _ => none

/-- The integer that a text stands for. -/
def integer? (s : Text) : Option Int :=
  match (trim s).map Fin.val with
  | 43 :: rest => (natural? rest).map Int.ofNat
  | 45 :: rest => (natural? rest).map fun n => -(n : Int)
  | cs => (natural? cs).map Int.ofNat

theorem ofDigits_append_singleton (digits : List Nat) (d : Nat) :
    ofDigits (digits ++ [d]) = 10 * ofDigits digits + d := by
  simp [ofDigits, ofDigitsIn]

end Lindenmayer.Text
