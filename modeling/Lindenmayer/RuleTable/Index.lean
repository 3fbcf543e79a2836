import Lindenmayer.Sequence

/-!
The next generation through an index. The index of a table holds the symbols that have a rule in ascending
order, and all replacements one after the other in one array. A sequence is replaced by looking up
its distinct symbols once, laying out the lengths of what each cell becomes, and gathering every
cell of the result from the place where it comes from. Every read names its place, and a place that
is not there is a failure (`readAt`).
-/
namespace Lindenmayer

/-- The rules of a table for fast lookup: for each key in ascending order the length of its
    replacement and where it starts in `flat`. -/
structure Index where
  keys : Array Symbol
  lengths : Array Nat
  starts : Array Nat
  flat : Array Symbol
deriving DecidableEq, Repr, Inhabited

namespace Index

/-- For each number the sum of those before it. -/
def offsets (ns : List Nat) : Array Nat :=
  (ns.foldl (fun (sum, found) n => (sum + n, found.push sum)) ((0, #[]) : Nat × Array Nat)).2

/-- The replacement of a symbol in a list of rules. -/
def replacement? (rules : List (Symbol × Sequence)) (s : Symbol) : Option Sequence :=
  (rules.find? (·.1 == s)).map Prod.snd

/-- The index of a list of rules. -/
def ofRules (rules : List (Symbol × Sequence)) : Index :=
  let keys := (rules.map Prod.fst).mergeSort fun a b => a.toNat ≤ b.toNat
  let replacements := keys.map fun key => (replacement? rules key).getD []
  let lengths := replacements.map List.length
  { keys := keys.toArray
    lengths := lengths.toArray
    starts := offsets lengths
    flat := replacements.flatten.toArray }

/-- The entry of an array at a place. -/
def readAt {α : Type} (a : Array α) (i : Nat) : Except Failure α :=
  match a[i]? with
  | some x => .ok x
  | none => .error .indexOutOfRange

/-- The first place from `low` on, and `high` at the latest, whose symbol is not below `s`; the
    array ascends. -/
def lowerBound (a : Array Symbol) (s : Symbol) (low high : Nat) : Nat :=
  if low < high then
    let middle := (low + high) / 2
    match a[middle]? with
    | some found =>
      if found.toNat < s.toNat then lowerBound a s (middle + 1) high else lowerBound a s low middle
    | none => low
  else low
termination_by high - low

/-- A symbol put at its place in an ascending list, if it is not there. -/
def insertSymbol (s : Symbol) : List Symbol → List Symbol
  | [] => [s]
  | t :: rest =>
    if s.toNat < t.toNat then s :: t :: rest
    else if s = t then t :: rest
    else t :: insertSymbol s rest

/-- The symbols of a sequence, each once, ascending. -/
def distinct (sequence : Sequence) : List Symbol :=
  sequence.foldl (fun found s => insertSymbol s found) []

/-- What looking up one symbol gives: where its rule would stand, whether it is there, and how many
    cells the symbol becomes. -/
structure Slot where
  place : Nat
  ruled : Bool
  count : Nat
deriving DecidableEq, Repr, Inhabited

/-- Looks a symbol up. Above the last key the last one is compared. -/
def slot (index : Index) (s : Symbol) : Except Failure Slot := do
  let place := min (lowerBound index.keys s 0 index.keys.size) (index.keys.size - 1)
  let key ← readAt index.keys place
  let length ← readAt index.lengths place
  let ruled := key == s
  return { place, ruled, count := if ruled then length else 1 }

/-- For each cell of a result the cell that it comes from. -/
def owners (counts : List Nat) : List Nat :=
  counts.zipIdx.flatMap fun (count, i) => List.replicate count i

/-- The generation after a sequence. -/
def produce (index : Index) (sequence : Sequence) : Except Failure Sequence := do
  let cells := sequence.toArray
  let alphabet := (distinct sequence).toArray
  let kinds := cells.map fun s => lowerBound alphabet s 0 alphabet.size
  let slots := (← alphabet.toList.mapM index.slot).toArray
  let counts ← kinds.toList.mapM fun kind => do return (← readAt slots kind).count
  if counts.all (· == 0) then return []
  let starts := offsets counts
  (owners counts).zipIdx.mapM fun (owner, i) => do
    let slot ← readAt slots (← readAt kinds owner)
    if slot.ruled then
      let within := i - (← readAt starts owner)
      readAt index.flat ((← readAt index.starts slot.place) + within)
    else readAt cells owner

end Index

end Lindenmayer
