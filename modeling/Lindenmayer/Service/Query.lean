import Lindenmayer.Service.Address
import Lindenmayer.Service.Response
import Lindenmayer.Decimal.Reading
import Lindenmayer.Value.Reader

/-!
Reading the parts of a request: parameters of the query by their types, and the object in the body.
Whatever does not parse makes the request misshapen (`none`).
-/
namespace Lindenmayer.Request

/-- Where a request goes. A query that is given apart stands in the place of the path's own. -/
def address (r : Request) : Address :=
  let written := Address.ofAsker r.path
  match r.query with
  | none => written
  | some parameters => { written with query := Address.queryOf parameters }

/-- A parameter of a query, the last of several. -/
def parameter? (a : Address) (name : String) : Option Text :=
  ((Address.parameters a.query).reverse.find? fun p => p.1.isString name).map Prod.snd

/-! ### Numbers -/

/-- An underscore. -/
def underscore : CodePoint := Text.ofChar '_'

/-- Whether two underscores stand side by side. -/
def hasDoubleUnderscore : Text → Bool
  | a :: b :: rest => (a == underscore && b == underscore) || hasDoubleUnderscore (b :: rest)
  | _ => false

/-- A text without its underscores, if it has some and each stands between two other characters. -/
def withoutUnderscores? (s : Text) : Option Text :=
  if s.head? = some underscore ∨ s.getLast? = some underscore ∨ hasDoubleUnderscore s then none
  else if s.contains underscore then some (s.filter (· != underscore))
  else none

/-- Whether a character is a digit from one on. -/
def isLeadingDigit (c : CodePoint) : Bool := 49 ≤ c.val && c.val ≤ 57

/-- A numeral without the zeros before its first other digit; underscores among them do not count. Of
    zeros alone the last character is left. -/
def withoutZeros? (s : Text) : Option Text :=
  match s with
  | [] => none
  | first :: rest =>
    if first.val = 48 then
      let kept := rest.dropWhile fun c => c.val == 48 || c == underscore
      match kept with
      | [] => s.getLast?.map ([·])
      | c :: _ =>
        if isLeadingDigit c then some kept
        else if c.val = 46 then some (s.drop (s.length - kept.length - 1))
        else none
    else if isLeadingDigit first ∨ first.val = 45 then some s
    else none

/-- A numeral without a point and zeros at its end. -/
def withoutPlaces (s : Text) : Text :=
  let whole := s.takeWhile fun c => c.val != 46
  let places := s.drop (whole.length + 1)
  if !places.isEmpty && places.all (fun c => c.val == 48) then whole else s

/-- A numeral without a plus sign; no other sign may follow that one. -/
def withoutPlus? (s : Text) : Option Text :=
  match s with
  | plus :: rest =>
    if plus.val ≠ 43 then some s
    else if (rest.head?.map Fin.val) = some 45 then none
    else some rest
  | [] => some []

/-- The integer of ASCII digits alone, with a minus sign or none. No zero stands before other
    digits. -/
def plainInteger? (s : Text) : Option Int :=
  let (sign, body) := Decimal.takeSign s
  let (digits, rest) := Decimal.takeDigits body
  if sign = some false ∨ digits.isEmpty ∨ !rest.isEmpty ∨ Text.digitLimit < s.length ∨
      (1 < digits.length ∧ digits.head? = some 0) then none
  else
    let n : Int := Text.ofDigits digits
    some (if sign = some true then -n else n)

/-- A whole number. A plus sign, zeros before it and a point with zeros behind it do not count, nor
    do underscores between digits. -/
def readInteger (s : Text) : Option Int := do
  let numeral ← withoutZeros? (← withoutPlus? (Text.trimWhite s))
  let whole := withoutPlaces numeral
  plainInteger? ((withoutUnderscores? whole).getD whole)

/-- A real number; underscores between other characters do not count where nothing else is to be
    passed over. -/
def readReal (s : Text) : Option Float :=
  (Decimal.exactFloat? (Text.trimWhite s)).orElse fun _ =>
    (withoutUnderscores? s).bind Decimal.exactFloat?

/-- A truth value. -/
def readFlag (s : Text) : Option Bool :=
  let name : Text := s.map Decimal.lowerLetter
  if ["true", "1", "on", "t", "y", "yes"].any name.isString then some true
  else if ["false", "0", "off", "f", "n", "no"].any name.isString then some false
  else none

/-- A parameter that may be missing, but has to parse. -/
def optional {α : Type} (a : Address) (name : String) (read : Text → Option α) :
    Option (Option α) :=
  match parameter? a name with
  | none => some none
  | some s => (read s).map some

/-- A number of generations: an integer not below zero. -/
def readGenerations (s : Text) : Option Int :=
  (readInteger s).filter fun n => decide (0 ≤ n)

/-- A delay: a number not below zero. -/
def readDelay (s : Text) : Option Float := (readReal s).filter fun x => !decide (x < 0.0)

/-! ### Bodies -/

/-- The text that the bytes of a body are, by the zero bytes among the first four. A mark of the byte
    order before it does not count. -/
def decodedBody? (bs : List Nat) : Option Text :=
  match bs with
  | 0xEF :: 0xBB :: 0xBF :: rest => some (Text.ofBytes rest)
  | 0 :: 0 :: _ :: _ :: _ => Text.ofBytes32? true bs
  | 0 :: _ :: _ :: _ :: _ => Text.ofBytes16? true bs
  | _ :: 0 :: 0 :: 0 :: _ => Text.ofBytes32? false bs
  | _ :: 0 :: _ :: _ :: _ => Text.ofBytes16? false bs
  | [0, _] => Text.ofBytes16? true bs
  | [_, 0] => Text.ofBytes16? false bs
  | _ => some (Text.ofBytes bs)

/-- How deep lists and objects may stand within each other in a body. -/
def bodyDepth : Nat := 950

/-- What is in a body. -/
inductive Payload where
  | object (v : Value)
  | misshapen
  | unreadable
  /-- No object, and nothing that the answer could tell. -/
  | untold

/-- The object in the body. What cannot be read for another reason than its shape is not a matter of
    shape. -/
def payload (r : Request) : Payload :=
  match r.body with
  | none => .misshapen
  | some s =>
    match decodedBody? (Text.bytes s) with
    | none => .unreadable
    | some text =>
      match Value.read bodyDepth text with
      | .ok (.object fields) => .object (.object fields)
      | .ok other => if other.encodable then .misshapen else .untold
      | .error failure => if failure.category = .malformed then .misshapen else .unreadable

end Lindenmayer.Request
