import Lindenmayer.Failure
import Lindenmayer.Text.Case
import Lindenmayer.Text.Bytes

/-!
Environments: variables with their values. A variable may also be named with a byte-order mark in
front, and its value may start with one; the plain name goes first. What cannot be encoded has no
place in an environment (`checkText`), and not every text is a name (`checkVariable`).
-/
namespace Lindenmayer

/-- Variables with their values. -/
abbrev Environment := List (Text × Text)

namespace Environment

/-- Checks whether a text can be encoded as a name or a value. -/
def checkText (s : Text) : Except Failure Unit :=
  match Text.badRun? Text.isLoneInPath s with
  | some (run, first) => .error (.notEncodable run first)
  | none => .ok ()

/-- Checks whether a variable can have a name and a value: neither may hold a null character, and a
    name is not empty and holds no equality sign. -/
def checkVariable (name value : Text) : Except Failure Unit := do
  checkText name
  checkText value
  if (name ++ value).any (·.val == 0) then .error .nullCharacter
  else if name.contains (Text.ofChar '=') then .error .equalityInName
  else if name.isEmpty then .error .nameless
  else .ok ()

/-- The value of a variable as it stands. -/
def get? (e : Environment) (name : Text) : Option Text := (e.find? (·.1 == name)).map Prod.snd

/-- The environment with a variable. -/
def set (e : Environment) (name value : Text) : Except Failure Environment := do
  checkVariable name value
  return (name, value) :: e.filter (·.1 != name)

/-- The environment without a variable. -/
def unset (e : Environment) (name : Text) : Except Failure Environment := do
  checkText name
  return e.filter (·.1 != name)

/-- A value without the byte-order marks before it and then the white space around it. -/
def cleaned (value : Text) : Text := Text.trim (Text.stripMarks value)

/-- The value of a variable under its own name or with a byte-order mark before it. -/
def lookup (e : Environment) (name : Text) : Option Text :=
  ((e.get? name).orElse fun _ => e.get? (Text.byteOrderMark :: name)).map cleaned

/-- The value of the variable that a text names, if it can name one. -/
def read (e : Environment) (name : Text) : Except Failure (Option Text) := do
  checkText name
  return e.lookup name

/-- The value of a variable that counts as given: not a blank one. -/
def given? (e : Environment) (name : String) : Option Text :=
  match e.lookup (Text.ofString name) with
  | some [] => none
  | found => found

end Environment

end Lindenmayer
