import Lindenmayer.Decimal.Precision

/-!
The types that the entries of an array can have, and their names. Sizes count bits;
`ElementType.ofName?` reads a name or one of its short forms, `ElementType.name` writes the full one.
-/
namespace Lindenmayer

/-- The type of an array's entries. -/
inductive ElementType where
  | boolean
  | signed (bits : Nat)
  | unsigned (bits : Nat)
  | real (bits : Nat)
  | complex (bits : Nat)
  | text (length : Nat)
  /-- Entries of any kind. -/
  | mixed
deriving DecidableEq, Repr, Inhabited

namespace ElementType

/-- The full name of a type. -/
def name : ElementType → String
  | .boolean => "bool"
  | .signed bits => "int" ++ toString bits
  | .unsigned bits => "uint" ++ toString bits
  | .real bits => "float" ++ toString bits
  | .complex bits => "complex" ++ toString bits
  | .text length => "<U" ++ toString length
  | .mixed => "object"

/-- The types by name. -/
def names : List (String × ElementType) := [
  ("bool", .boolean), ("int8", .signed 8), ("int16", .signed 16), ("int32", .signed 32),
  ("int64", .signed 64), ("uint8", .unsigned 8), ("uint16", .unsigned 16),
  ("uint32", .unsigned 32), ("uint64", .unsigned 64), ("float16", .real 16),
  ("float32", .real 32), ("float64", .real 64), ("complex64", .complex 64),
  ("complex128", .complex 128), ("str", .text 0), ("object", .mixed)]

/-- Other names of the types. -/
def otherNames : List (String × ElementType) := [
  ("bool_", .boolean), ("?", .boolean), ("b1", .boolean),
  ("byte", .signed 8), ("b", .signed 8), ("i1", .signed 8),
  ("short", .signed 16), ("h", .signed 16), ("i2", .signed 16),
  ("intc", .signed 32), ("i", .signed 32), ("i4", .signed 32),
  ("int", .signed 64), ("int_", .signed 64), ("intp", .signed 64), ("long", .signed 64),
  ("longlong", .signed 64), ("l", .signed 64), ("q", .signed 64), ("p", .signed 64),
  ("n", .signed 64), ("i8", .signed 64),
  ("ubyte", .unsigned 8), ("B", .unsigned 8), ("u1", .unsigned 8),
  ("ushort", .unsigned 16), ("H", .unsigned 16), ("u2", .unsigned 16),
  ("uintc", .unsigned 32), ("I", .unsigned 32), ("u4", .unsigned 32),
  ("uint", .unsigned 64), ("uintp", .unsigned 64), ("ulong", .unsigned 64),
  ("ulonglong", .unsigned 64), ("L", .unsigned 64), ("Q", .unsigned 64), ("P", .unsigned 64),
  ("N", .unsigned 64), ("u8", .unsigned 64),
  ("half", .real 16), ("e", .real 16), ("f2", .real 16),
  ("single", .real 32), ("f", .real 32), ("f4", .real 32),
  ("float", .real 64), ("double", .real 64), ("d", .real 64), ("f8", .real 64),
  ("csingle", .complex 64), ("F", .complex 64), ("c8", .complex 64),
  ("complex", .complex 128), ("cdouble", .complex 128), ("D", .complex 128),
  ("c16", .complex 128),
  ("str_", .text 0), ("unicode", .text 0), ("U", .text 0), ("U0", .text 0),
  ("object_", .mixed), ("O", .mixed)]

/-- A name without the mark of this machine's byte order. -/
def unmarked (name : String) : String :=
  match name.toList with
  | mark :: rest => if mark = '<' ∨ mark = '=' ∨ mark = '|' then String.ofList rest else name
  | [] => name

/-- The type that a name stands for. A text type without a length fits its longest entry. -/
def ofName? (name : String) : Option ElementType :=
  match (names ++ otherNames).find? (·.1 == unmarked name) with
  | some (_, type) => some type
  | none =>
    match (unmarked name).toList with
    | 'U' :: digits => (String.ofList digits).toNat?.map ElementType.text
    | _ => none

/-- Whether the entries are integers. -/
def isInteger : ElementType → Bool
  | .signed _ | .unsigned _ => true
  | _ => false

/-- Whether a type is the one that its entries alone suggest, so that it need not be named. -/
def isUsual (type : ElementType) : Bool :=
  type == .boolean || type == .signed 64 || type == .real 64 || type == .complex 128

/-- A type as messages show it; a name that is no word stands in quotes. -/
def shown (type : ElementType) : String :=
  match type with
  | .text _ => "'" ++ type.name ++ "'"
  | _ => type.name

/-- The format of real numbers of some bits. -/
def precisionOfBits (bits : Nat) : Precision :=
  if bits ≤ 16 then .half else if bits ≤ 32 then .single else .double

/-- The format of the type's numbers; the parts of a complex number share its bits. -/
def precision : ElementType → Precision
  | .real bits => precisionOfBits bits
  | .complex bits => precisionOfBits (bits / 2)
  | _ => .double

/-- The integer that a type stores for another: it counts modulo the number of its values. -/
def wrapped : ElementType → Int → Int
  | .signed bits, n => Int.bmod n (Nat.pow 2 bits)
  | .unsigned bits, n => Int.emod n (Nat.pow 2 bits)
  | _, n => n

/-- Whether an integer is one of a type's values. -/
def holds (type : ElementType) (n : Int) : Bool := type.wrapped n == n

end ElementType

end Lindenmayer
