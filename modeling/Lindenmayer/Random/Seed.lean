import Lindenmayer.Failure
import Lindenmayer.Random.Generator

/-!
Seeding generators. A seed is a natural number of any size or a list of them, in which a number may
also stand as a text; its 32-bit words are hashed into a pool of four, and the pool into the
generator's first state.
-/
namespace Lindenmayer.Seed

/-- The words of a natural number, the least first; zero has one. -/
def words (n : Nat) : List UInt32 :=
  if n < 0x100000000 then [UInt32.ofNat n]
  else UInt32.ofNat (n % 0x100000000) :: words (n / 0x100000000)
termination_by n
decreasing_by omega

/-- The words of an integer; there are none of a negative one. -/
def integerWords (n : Int) : Except Failure (List UInt32) :=
  if 0 ≤ n then .ok (words n.toNat) else .error .negativeSeed

/-- Words in the shape of an array. -/
structure Block where
  shape : List Nat
  words : List UInt32

/-- Words in one row. -/
def Block.row (words : List UInt32) : Block := ⟨[words.length], words⟩

/-- The first dimension after the outermost in which two shapes differ, with both sizes there. -/
def difference? (dimension : Nat) : List Nat → List Nat → Option (Nat × Nat × Nat)
  | m :: first, n :: other =>
    if m = n then difference? (dimension + 1) first other else some (dimension, m, n)
  | _, _ => none

/-- Whether a block can be joined to the first one. -/
def joinable (first : Block) (index : Nat) (other : Block) : Except Failure Unit :=
  if first.shape.length ≠ other.shape.length then
    .error (.dimensionsDiffer first.shape.length index other.shape.length)
  else
    match difference? 1 first.shape.tail other.shape.tail with
    | some (dimension, m, n) => .error (.sizesDiffer dimension m index n)
    | none => .ok ()

/-- Blocks that can all be joined to the first. -/
def allJoinable (first : Block) : (index : Nat) → List Block → Except Failure Unit
  | _, [] => .ok ()
  | index, block :: rest => do
    joinable first index block
    allJoinable first (index + 1) rest

/-- Blocks joined along the outermost dimension. -/
def join : List Block → Except Failure Block
  | [] => .ok (.row [])
  | first :: rest =>
    if first.shape.isEmpty then .error .zeroDimensional
    else do
      allJoinable first 1 rest
      let blocks := first :: rest
      return { shape := (blocks.map fun b => b.shape.headD 0).foldr (· + ·) 0 :: first.shape.tail
               words := blocks.flatMap Block.words }

/-- The number that the digits behind the sign of base sixteen stand for. -/
def hexadecimal? (digits : List Nat) : Option Nat :=
  let digits := match digits with
    | 95 :: rest => rest
    | digits => digits
  match Text.scanDigits? Text.anyHexDigit? true digits with
  | some (digits, []) => some (Text.ofDigitsIn 16 digits)
  | _ => none

/-- The number that a text stands for: in base sixteen behind `0x`, else in base ten if it begins
    with a digit. -/
def textNumber (s : Text) : Except Failure Nat :=
  match (Text.trim s).map Fin.val, s.map Fin.val with
  | 48 :: 120 :: digits, 48 :: 120 :: _ =>
    match hexadecimal? digits with
    | some n => .ok n
    | none => .error (.badInteger 16 s)
  | digits, first :: _ =>
    if (Text.asciiDigit? first).isNone then .error .unknownSeedText
    else
      match Text.scanDigits? Text.digit? true digits with
      | none => .error (.badInteger 10 s)
      | some (digits, rest) =>
        if Text.digitLimit < digits.length then .error (.integerTooLong digits.length)
        else if rest.isEmpty then .ok (Text.ofDigits digits)
        else .error (.badInteger 10 s)
  | _, [] => .error .unknownSeedText

/-- The words of an entry of an array. -/
def entryWords (entry : Value) : Except Failure Block :=
  match entry with
  | .int n => Block.row <$> integerWords n
  | .text s => do return .row (← integerWords (← textNumber s))
  | _ => .error .wrongKind

/-- The words of an array's rows, from the outermost dimension to the innermost. -/
def arrayWords : (shape : List Nat) → List Value → Except Failure Block
  | [], _ => .error .wrongKind
  | [_], entries => do join (← entries.mapM entryWords)
  | n :: inner, entries => do join (← (Numeric.rows n entries).mapM (arrayWords inner))

mutual

/-- The words of an item in a list. -/
def itemWords : Value → Except Failure Block
  | .int n => Block.row <$> integerWords n
  | .bool b => Block.row <$> integerWords (if b then 1 else 0)
  | .text s => do return .row (← integerWords (← textNumber s))
  | .list items => do join (← listWords items)
  | .object fields => do
    join (← (fields.map Prod.fst).mapM fun s => do return .row (← integerWords (← textNumber s)))
  | .array type shape entries =>
    if type = .unsigned 32 then
      .ok ⟨shape, entries.map fun e => UInt32.ofNat e.integerEntry.toNat⟩
    else if type = .mixed then
      match shape with
      | [_] => do join (← listWords entries)
      | _ => .error .wrongKind
    else if shape.head? = some 0 then .ok (.row [])
    else arrayWords shape entries
  | .element type entry => entryWords (Value.element type entry).plain
  | .null | .float _ => .error .wrongKind

/-- The words of a list's items, item by item. -/
def listWords : List Value → Except Failure (List Block)
  | [] => .ok []
  | item :: rest => do
    let found ← itemWords item
    return found :: (← listWords rest)

end

/-- The words of a seed. Joined to nothing, they have to stand in one row. -/
def seedWords (given : Value) : Except Failure (List UInt32) :=
  match given.plain with
  | .text _ | .object _ => .error .wrongKind
  | given => do return (← join [← itemWords given, .row []]).words

/-- A number hashed by the running factor `h`, and the next factor. -/
def hash (v h : UInt32) : UInt32 × UInt32 :=
  let next := h * 0x931e8875
  let mixed := (v ^^^ h) * next
  (mixed ^^^ (mixed >>> 16), next)

/-- Two numbers mixed into one. -/
def mix (x y : UInt32) : UInt32 :=
  let r := x * 0xca01f9dd - y * 0x4973f715
  r ^^^ (r >>> 16)

/-- A pool of words and the running factor. -/
structure Pool where
  cells : List UInt32
  factor : UInt32

/-- Hashes a word for one cell of the pool and mixes it in. -/
def Pool.absorb (p : Pool) (word : UInt32) (i : Nat) : Pool :=
  let (hashed, factor) := hash word p.factor
  { cells := p.cells.modify i fun cell => mix cell hashed, factor }

/-- Mixes a word into the cells at some places. -/
def Pool.absorbAt (p : Pool) (word : UInt32) (places : List Nat) : Pool :=
  places.foldl (fun p i => p.absorb word i) p

/-- The pool of the first four words, zero for those that are missing. -/
def Pool.fill (entropy : List UInt32) : Pool :=
  (List.range 4).foldl (fun p i =>
    let (hashed, factor) := hash (entropy.getD i 0) p.factor
    { cells := p.cells ++ [hashed], factor }) ⟨[], 0x43b0d7e5⟩

/-- The pool with every cell mixed into every other, in order. -/
def Pool.stir (p : Pool) : Pool :=
  (List.range 4).foldl (fun p i =>
    [0, 1, 2, 3].foldl (fun p j => if i = j then p else p.absorb (p.cells.getD i 0) j) p) p

/-- The pool of all words. -/
def Pool.ofWords (entropy : List UInt32) : Pool :=
  (entropy.drop 4).foldl (fun p word => p.absorbAt word [0, 1, 2, 3]) (Pool.fill entropy).stir

/-- Eight words drawn from a pool. -/
def Pool.draw (p : Pool) : List UInt32 :=
  ((List.range 8).foldl (fun (found, h) i =>
    let next : UInt32 := h * 0x58f38ded
    let v := (p.cells.getD (i % 4) 0 ^^^ h) * next
    (found ++ [v ^^^ (v >>> 16)], next)) (([] : List UInt32), (0x8b51f9dd : UInt32))).1

/-- The generator that words seed. -/
def generator (entropy : List UInt32) : Generator :=
  let drawn := (Pool.ofWords entropy).draw
  let part (i : Nat) : Nat :=
    (drawn.getD (2 * i) 0).toNat + (drawn.getD (2 * i + 1) 0).toNat * 0x100000000
  let joined (high low : Nat) : Nat := high * Nat.pow 2 64 + low
  Generator.start (joined (part 2) (part 3)) (joined (part 0) (part 1))

end Lindenmayer.Seed

namespace Lindenmayer

/-- Where random numbers come from: a generator that goes on, or a seed for a new one. -/
inductive Randomness where
  | generator (g : Generator)
  | seed (given : Value)

/-- The generator to draw from. Without a seed any one may be taken; this is always the same. -/
def Randomness.start : Randomness → Except Failure Generator
  | .generator g => .ok g
  | .seed .null => .ok (Seed.generator [])
  | .seed given => do return Seed.generator (← Seed.seedWords given)

end Lindenmayer
