import Lindenmayer.Scalar.Double

/-!
Arrays from nested lists. The lists have to have one shape, and every entry is converted to the type
of the array: integers have to be among the type's values, real numbers are rounded to it.
-/
namespace Lindenmayer.Value

/-- The beginning that two lists share. -/
def commonStart : List Nat → List Nat → List Nat
  | m :: first, n :: second => if m = n then m :: commonStart first second else []
  | _, _ => []

mutual

/-- The shape that nested lists have as far as they have one, and whether that is all. -/
def shapeOf : Value → List Nat × Bool
  | .list [] => ([0], true)
  | .list (first :: rest) =>
    let (inner, even) := sharedShape (shapeOf first) rest
    ((rest.length + 1) :: inner, even)
  | _ => ([], true)

/-- The shape that values share with one of a shape, and whether all have just that. -/
def sharedShape (shared : List Nat × Bool) : List Value → List Nat × Bool
  | [] => shared
  | item :: rest =>
    let (shape, even) := shapeOf item
    sharedShape (commonStart shared.1 shape, shared.2 && even && shared.1 == shape) rest

end

/-- The values that stand so many lists deep, in order. -/
def entriesAt : (depth : Nat) → Value → List Value
  | depth + 1, .list items => items.flatMap (entriesAt depth)
  | _, v => [v]

/-- The integer part of a real number that is to be an entry; it has 64 bits, and those of the type
    are kept. -/
def truncatedEntry (type : ElementType) (x : Float) : Except Failure Value :=
  match Binary.ofFloat x with
  | .nan => .error .integerFromNan
  | .infinite _ => .error .overflow
  | .finite negative mantissa exponent =>
    let n := Decimal.whole negative mantissa exponent
    if (ElementType.signed 64).holds n ∨
        ((ElementType.unsigned 64).holds n ∧ (type = .unsigned 32 ∨ type = .unsigned 64))
      then .ok (.int (type.wrapped n))
    else .error .overflow

/-- An integer as an entry of a type. -/
def integerOf (type : ElementType) : Value → Except Failure Value
  | .int n => if type.holds n then .ok (.int n) else .error .overflow
  | .bool b => .ok (.int (if b then 1 else 0))
  | .float x => truncatedEntry type x
  | .text s =>
    match Text.integer? s with
    | some n => if type.holds n then .ok (.int n) else .error .overflow
    | none => .error (.badInteger 10 s)
  | _ => .error .wrongKind

/-- A double rounded to the numbers of a type; from the type's end on it is infinite. -/
def roundedTo (type : ElementType) (x : Float) : Value :=
  .float (Binary.toFloat (Binary.round type.precision (.ofFloat x)))

/-- A real number as an entry of a type. -/
def realOf (type : ElementType) : Value → Except Failure Value
  | .null => .ok (.float (0.0 / 0.0))
  | .bool b => .ok (.float (if b then 1.0 else 0.0))
  | .int n => do return roundedTo type (← Double.ofInt n)
  | .float x => .ok (roundedTo type x)
  | .text s =>
    match Decimal.float? s with
    | some x => .ok (roundedTo type x)
    | none => .error (.badReal s)
  | _ => .error .wrongKind

/-- A value as an entry of a type. -/
def entryOf (type : ElementType) (v : Value) : Except Failure Value :=
  match type with
  | .boolean => .ok (.bool v.truthy)
  | .signed _ | .unsigned _ => integerOf type v
  | .real _ | .complex _ => realOf type v
  | .text length =>
    let s := match v with
      | .text s => s
      | v => Text.ofString v.shown
    .ok (.text (if length = 0 then s else s.take length))
  | .mixed => .ok v

/-- A text type as long as its longest entry. -/
def fitting (type : ElementType) (entries : List Value) : ElementType :=
  match type with
  | .text 0 =>
    .text ((entries.map fun
      | .text s => s.length
      | _ => 0).foldl max 1)
  | type => type

/-- The array of nested lists with entries of a type. -/
def arrayOf (typeName : String) (nested : Value) : Except Failure Value :=
  match ElementType.ofName? typeName with
  | none => .error .wrongKind
  | some type => do
    let (shape, even) := shapeOf nested
    if !even && type ≠ .mixed then .error (.ragged shape)
    else
      let entries ← (entriesAt shape.length nested).mapM (entryOf type)
      return .array (fitting type entries) shape entries

end Lindenmayer.Value
