import Lindenmayer.Failure

/-!
Objects made of pairs. Any value that consists of pairs gives one: of each pair the first part names
a field and the second is its value. Names are told apart as keys are, by `sameKey`: numbers by what
they stand for, whatever their kind.
-/
namespace Lindenmayer.Value

/-- What a key counts as: a whole number as an integer, in whatever kind it is given. -/
def keyForm : Value → Value
  | .bool b => .int (if b then 1 else 0)
  | .element _ (.bool b) => .int (if b then 1 else 0)
  | .float x => wholeForm x
  | .element _ (.float x) => wholeForm x
  | .element _ entry => entry
  | v => v
where
  wholeForm (x : Float) : Value :=
    match Binary.ofFloat x with
    | .finite negative mantissa exponent =>
      if Binary.numerator mantissa exponent % Binary.denominator exponent = 0
        then .int (Decimal.whole negative mantissa exponent)
      else .float x
    | _ => .float x

/-- Whether two values are the same key. -/
def sameKey (a b : Value) : Bool :=
  match a.keyForm, b.keyForm with
  | .null, .null => true
  | .int m, .int n => m == n
  | .float x, .float y => x == y
  | .text s, .text t => s == t
  | _, _ => false

/-- Whether a value can be a key at all. -/
def isKey : Value → Bool
  | .list _ | .object _ | .array _ _ _ => false
  | _ => true

/-- The name of the field that a key stands for. -/
def keyName : Value → Text
  | .text s => s
  | .element _ (.text s) => s
  | .element _ entry => Text.ofString entry.shown
  | v => Text.ofString v.shown

/-- Fields with one more, in the place of a former one of the same key or at the end. -/
def insertField (key value : Value) : List (Value × Value) → List (Value × Value)
  | [] => [(key, value)]
  | (k, v) :: rest =>
    if sameKey k key then (k, value) :: rest else (k, v) :: insertField key value rest

/-- The key and the value that the `index`-th part gives. -/
def pairOf (index : Nat) (part : Value) : Except Failure (Value × Value) :=
  match part.parts? with
  | none => .error .wrongKind
  | some [key, value] => if key.isKey then .ok (key, value) else .error .wrongKind
  | some parts => .error (.fieldNotPair index parts.length)

/-- Fields with those that parts give, counted from an index on. -/
def fieldsOf (fields : List (Value × Value)) : (index : Nat) → List Value →
    Except Failure (List (Value × Value))
  | _, [] => .ok fields
  | index, part :: rest => do
    let (key, value) ← pairOf index part
    fieldsOf (insertField key value fields) (index + 1) rest

/-- The object that a value stands for. -/
def toObject (v : Value) : Except Failure Value :=
  match v with
  | .object fields => .ok (.object fields)
  | given =>
    match given.parts? with
    | none => .error .wrongKind
    | some parts => do
      return .object ((← fieldsOf [] 0 parts).map fun f => (f.1.keyName, f.2))

/-- Whether a value counts as given; an array does so only by its one entry. -/
def counts : Value → Except Failure Bool
  | .array type shape entries =>
    if entries.length = 1 then .ok (truthy (.array type shape entries))
    else .error (.ambiguousTruth entries.isEmpty)
  | v => .ok v.truthy

end Lindenmayer.Value
