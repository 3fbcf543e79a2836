import Lindenmayer.RuleTable.Basic

/-!
Expanding sequences by a table. `RuleTable.produce` says what the next generation is: every symbol is
replaced by its replacement, or kept where it has no rule. `RuleTable.apply` computes it through the
table's index, `RuleTable.expand` goes on for any number of generations, and
`RuleTable.expandedLength` counts symbols instead of writing them.
-/
namespace Lindenmayer

namespace RuleTable

/-- What one symbol becomes. -/
def image (t : RuleTable) (s : Symbol) : Sequence := (t.get? s).getD [s]

/-- Replaces every symbol of a sequence by what it becomes. -/
def produce (t : RuleTable) (sequence : Sequence) : Sequence := sequence.flatMap t.image

/-- So many generations one after the other. -/
def generation (t : RuleTable) : (n : Nat) → Sequence → Sequence
  | 0, sequence => sequence
  | n + 1, sequence => t.generation n (t.produce sequence)

/-- The index of a table, made if it is not known. -/
def compiled (t : RuleTable) : Index := t.index.getD (Index.ofRules t.rules)

/-- The next generation of a sequence, with the table that now knows its index. An empty sequence
    and an empty table need none. -/
def apply (t : RuleTable) (sequence : Sequence) : Except Failure (Sequence × RuleTable) :=
  if sequence.isEmpty then .ok ([], t)
  else if t.rules.isEmpty then .ok (sequence, t)
  else do
    let index := t.compiled
    let next ← index.produce sequence
    return (next, { t with index := some index })

/-- A sequence after so many generations. -/
def expand (t : RuleTable) : (generations : Nat) → Sequence → Except Failure (Sequence × RuleTable)
  | 0, sequence => .ok (sequence, t)
  | n + 1, sequence => do
    let (next, t) ← t.apply sequence
    t.expand n next

end RuleTable

/-! ### Counting -/

/-- How often each symbol occurs. -/
abbrev Census := List (Symbol × Nat)

namespace Census

/-- Counts a symbol so many times more. -/
def add (s : Symbol) (n : Nat) : Census → Census
  | [] => [(s, n)]
  | (t, m) :: rest => if t = s then (t, m + n) :: rest else (t, m) :: add s n rest

/-- The census of a sequence. -/
def ofSequence (sequence : Sequence) : Census := sequence.foldl (fun counts s => add s 1 counts) []

/-- Adds every count of one census, so many times, to another. -/
def addAll (times : Nat) (found counts : Census) : Census :=
  found.foldl (fun counts c => add c.1 (times * c.2) counts) counts

/-- The number of symbols counted. -/
def total (counts : Census) : Nat := (counts.map Prod.snd).foldr (· + ·) 0

/-- The census of the next generation, from the census of each symbol's replacement. -/
def next (produced : List (Symbol × Census)) (counts : Census) : Census :=
  counts.foldl (fun sum c =>
    match produced.find? (·.1 == c.1) with
    | some (_, found) => addAll c.2 found sum
    | none => add c.1 c.2 sum) []

/-- The census after so many generations. -/
def generation (produced : List (Symbol × Census)) : (n : Nat) → Census → Census
  | 0, counts => counts
  | n + 1, counts => generation produced n (next produced counts)

end Census

namespace RuleTable

/-- The length of a sequence after so many generations, from the counts of its symbols alone. -/
def expandedLength (t : RuleTable) (generations : Nat) (sequence : Sequence) : Nat :=
  let produced := t.rules.map fun r => (r.1, Census.ofSequence r.2)
  (Census.generation produced generations (Census.ofSequence sequence)).total

end RuleTable

/-! ### From untyped values -/

/-- The number of generations that a value stands for. The messages that show the value are made before
    it is looked at. -/
def generationCount (given : Value) : Except Failure Nat :=
  match given.plain with
  | .int n =>
    if !given.showable then .error .tooManyDigits
    else if 0 ≤ n then .ok n.toNat
    else .error (.generationsNegative n)
  | _ => .error (.showing given (.generationsNotInteger given))

/-- Expands a sequence by rules. The number of generations is looked at first, then the rules, then
    the sequence. -/
def expandValue (sequence rules generations : Value) : Except Failure Sequence := do
  let n ← generationCount generations
  let table ← RuleTable.ofValue rules
  let start ← Sequence.ofValue sequence
  return (← table.expand n start).1

/-- The length of what `expandValue` gives, with the same checks in the same order. -/
def expandedLengthValue (sequence rules generations : Value) : Except Failure Nat := do
  let n ← generationCount generations
  let table ← RuleTable.ofValue rules
  let start ← Sequence.ofValue sequence
  return table.expandedLength n start

/-- A number that has few enough digits to be written. -/
def writable (n : Nat) : Except Failure Nat :=
  if n < Nat.pow 10 Text.digitLimit then .ok n else .error .tooManyDigits

/-- Expands a sequence by rules and gives its text. -/
def expandText (sequence rules generations : Value) : Except Failure Text := do
  (← expandValue sequence rules generations).toText

/-- Expands a text by a table and gives the text of that. -/
def RuleTable.textAfter (t : RuleTable) (text : Text) (generations : Value) : Except Failure Text := do
  let n ← generationCount generations
  let start ← Sequence.ofValue (.text text)
  (← t.expand n start).1.toText

end Lindenmayer
