import Lindenmayer.Text.Quoted
import Lindenmayer.Text.Numeral
import Lindenmayer.Numeric.Bracketed
import Lindenmayer.Numeric.Column

/-!
Untyped values, as they come from outside: from a request's body or from a caller that may pass
anything. `Value.shown` is how messages show one and `Value.showable` whether they can,
`Value.truthy` whether one counts as given, `Value.parts?` what it consists of.
-/
namespace Lindenmayer

/-- A value of any kind. The fields of an object keep their order. -/
inductive Value where
  | null
  | bool (b : Bool)
  | int (n : Int)
  | float (x : Float)
  | text (s : Text)
  | list (items : List Value)
  | object (fields : List (Text × Value))
  /-- An array of entries of one type in any number of dimensions, row by row. -/
  | array (type : ElementType) (shape : List Nat) (entries : List Value)
  /-- One entry of an array, taken out of it. -/
  | element (type : ElementType) (entry : Value)
deriving Inhabited

namespace Value

/-- A text value from a string. -/
def string (s : String) : Value := .text (Text.ofString s)

/-- An object from fields named by strings. -/
def record (fields : List (String × Value)) : Value :=
  .object (fields.map fun (name, value) => (Text.ofString name, value))

/-- The field of an object with a name, the last of several. -/
def field? (name : String) : Value → Option Value
  | .object fields => (fields.reverse.find? fun f => Text.isString f.1 name).map Prod.snd
  | _ => none

/-- The fields of an object in which a name occurs once: a later value takes the place of an
    earlier one. -/
def lastWins (fields : List (Text × Value)) : List (Text × Value) :=
  fields.foldl (fun kept f =>
    if kept.any (·.1 == f.1) then kept.map fun g => if g.1 == f.1 then f else g
    else kept ++ [f]) []

/-- Whether a value counts as given: null, false, zero and empty values do not. -/
def truthy : Value → Bool
  | .null => false
  | .bool b => b
  | .int n => n != 0
  | .float x => x != 0
  | .text s => !s.isEmpty
  | .list items => !items.isEmpty
  | .object fields => !fields.isEmpty
  | .array _ _ entries => entries.any plainTruthy
  | .element _ entry => plainTruthy entry
where
  plainTruthy : Value → Bool
    | .bool b => b
    | .int n => n != 0
    | .float x => x != 0
    | .text s => !s.isEmpty
    | .list items => !items.isEmpty
    | .object fields => !fields.isEmpty
    | _ => false

/-- What an entry taken out of an array stands for: integers and texts for themselves. -/
def plain : Value → Value
  | .element (.signed _) entry => entry
  | .element (.unsigned _) entry => entry
  | .element (.text _) entry => entry
  | v => v

/-- An entry taken out of an array. One of an array of any values is that value. -/
def ofEntry (type : ElementType) (entry : Value) : Value :=
  if type = .mixed then entry else .element type entry

/-- The rows of an array with `n` rows of a shape; entries in no dimension stand by themselves. -/
def rows (type : ElementType) (n : Nat) (inner : List Nat) (entries : List Value) : List Value :=
  if inner.isEmpty then entries.map (ofEntry type)
  else (Numeric.rows n entries).map (.array type inner)

/-- What a value consists of, if it has parts: the characters of a text, the items of a list, the
    names in an object, the rows of an array. -/
def parts? (v : Value) : Option (List Value) :=
  match v.plain with
  | .text s => some (s.map fun c => .text [c])
  | .list items => some items
  | .object fields => some (fields.map fun f => .text f.1)
  | .array type (n :: inner) entries => some (rows type n inner entries)
  | _ => none

/-! ### As messages show them -/

/-- The real number that an entry is. -/
def realEntry : Value → Binary
  | .float x => .ofFloat x
  | _ => .nan

/-- The integer that an entry is. -/
def integerEntry : Value → Int
  | .int n => n
  | _ => 0

/-- The truth value of an entry in a column of the given width. -/
def flagCell (aligned : Bool) (entry : Value) : List Char :=
  match entry with
  | .bool true => if aligned then " True".toList else "True".toList
  | _ => "False".toList

/-- The cells of entries of a type, where `texts` are the entries as they are shown by
    themselves. -/
def cells (type : ElementType) (aligned : Bool) (entries : List Value) (texts : List String) :
    List (List Char) :=
  let reals (entries : List Value) : List (List Char) :=
    Numeric.realCells type.precision (entries.map fun e => Binary.round type.precision e.realEntry)
  match type with
  | .boolean => entries.map (flagCell aligned)
  | .signed _ | .unsigned _ => Numeric.integerCells (entries.map integerEntry)
  | .real _ => reals entries
  | .complex _ => (reals entries).map (· ++ "+0.j".toList)
  | .text _ | .mixed => texts.map String.toList

/-- A number taken out of an array, without its type. -/
def elementText (type : ElementType) (entry : Value) : String :=
  match type, entry with
  | .real _, entry | .complex _, entry =>
    String.ofList (Numeric.elementText type.precision (Binary.round type.precision entry.realEntry))
  | _, entry => toString entry.integerEntry

/-- A whole number without its point and zero. -/
def withoutZero (s : String) : String :=
  String.ofList (if s.toList.drop (s.length - 2) == ['.', '0'] then s.toList.take (s.length - 2)
    else s.toList)

/-- A number taken out of an array as messages show it. -/
def shownElement (type : ElementType) (entry : Value) : String :=
  match type, entry with
  | .boolean, .bool b => if b then "np.True_" else "np.False_"
  | .text _, .text s => "np.str_(" ++ Text.quoted s ++ ")"
  | .complex _, entry =>
    "np." ++ type.name ++ "(" ++ withoutZero (elementText type entry) ++ "+0j)"
  | _, entry => "np." ++ type.name ++ "(" ++ elementText type entry ++ ")"

/-- A list among an array's entries is marked as one. -/
def markedText (entry : Value) (shown : String) : String :=
  match entry with
  | .list _ => "list(" ++ shown ++ ")"
  | _ => shown

/-- Those of an array's entries that messages show: all of a small array, of a large one the ends. -/
def keptEntries {α : Type} (shape : List Nat) (entries : List α) : List α :=
  if Numeric.shownEntries < entries.length then Numeric.ends shape entries else entries

mutual

/-- A value as messages show it. -/
def shown : Value → String
  | .null => "None"
  | .bool b => if b then "True" else "False"
  | .int n => toString n
  | .float x => String.ofList (Decimal.shortestText Decimal.messageStyle (.ofFloat x))
  | .text s => s.quoted
  | .list items => "[" ++ String.intercalate ", " (shownItems items) ++ "]"
  | .object fields => "\x7b" ++ String.intercalate ", " (shownFields fields) ++ "\x7d"
  | .array type shape entries =>
    Numeric.shownArray type shape entries.length
      (cells type (!shape.isEmpty) (keptEntries shape entries) (keptEntries shape (shownEntries entries)))
  | .element type entry => shownElement type entry

/-- The entries of an array as they are shown by themselves. -/
def shownEntries : List Value → List String
  | [] => []
  | entry :: rest => markedText entry (shown entry) :: shownEntries rest

/-- The items of a list as messages show them. -/
def shownItems : List Value → List String
  | [] => []
  | item :: rest => shown item :: shownItems rest

/-- The fields of an object as messages show them. -/
def shownFields : List (Text × Value) → List String
  | [] => []
  | (name, value) :: rest => (Text.quoted name ++ ": " ++ shown value) :: shownFields rest

end

mutual

/-- Whether messages can show a value: the integers that they would write have few enough digits. -/
def showable : Value → Bool
  | .int n => n.natAbs < Nat.pow 10 Text.digitLimit
  | .list items => (showableEach items).all id
  | .object fields => showableFields fields
  | .array _ shape entries => (keptEntries shape (showableEach entries)).all id
  | .element _ entry => showable entry
  | _ => true

/-- Which of several values messages can show. -/
def showableEach : List Value → List Bool
  | [] => []
  | item :: rest => showable item :: showableEach rest

/-- Whether messages can show all fields. -/
def showableFields : List (Text × Value) → Bool
  | [] => true
  | (_, value) :: rest => showable value && showableFields rest

end

mutual

/-- Whether a value can be written as JSON text: its numbers are finite and no surrogate stands
    alone. -/
def encodable : Value → Bool
  | .float x => x.isFinite
  | .text s => !Text.hasSurrogate s
  | .list items => encodableItems items
  | .object fields => encodableFields fields
  | .array _ _ _ | .element _ _ => false
  | _ => true

/-- Whether all items can be written. -/
def encodableItems : List Value → Bool
  | [] => true
  | item :: rest => encodable item && encodableItems rest

/-- Whether all fields can be written. -/
def encodableFields : List (Text × Value) → Bool
  | [] => true
  | (name, value) :: rest => !Text.hasSurrogate name && encodable value && encodableFields rest

end

end Value

end Lindenmayer
