import Lindenmayer.RuleTable.Index

/-!
Tables of production rules: ordered maps from symbols to their replacements. A key keeps the place
where it was first set. A table remembers its index from its first use on and forgets it with
every change (`RuleTable.set`, `RuleTable.erase`).
-/
namespace Lindenmayer

/-- Rules in the order in which their symbols were first set, and their index if it is known. -/
structure RuleTable where
  rules : List (Symbol × Sequence)
  index : Option Index
deriving DecidableEq, Repr, Inhabited

namespace RuleTable

/-- The table without rules. -/
def empty : RuleTable := ⟨[], none⟩

/-- The number of rules. -/
def size (t : RuleTable) : Nat := t.rules.length

/-- The symbols that have a rule, in the table's order. -/
def keys (t : RuleTable) : List Symbol := t.rules.map Prod.fst

/-- The replacement of a symbol. -/
def get? (t : RuleTable) (s : Symbol) : Option Sequence := Index.replacement? t.rules s

/-- Rules with one more, in the place of a former one of the same symbol or at the end. -/
def insertRule {κ α : Type} [DecidableEq κ] (s : κ) (replacement : α) : List (κ × α) → List (κ × α)
  | [] => [(s, replacement)]
  | (t, former) :: rest =>
    if t = s then (s, replacement) :: rest else (t, former) :: insertRule s replacement rest

/-- The table with a rule. -/
def insert (t : RuleTable) (s : Symbol) (replacement : Sequence) : RuleTable :=
  ⟨insertRule s replacement t.rules, none⟩

/-- The table without the rule of a symbol. -/
def remove (t : RuleTable) (s : Symbol) : RuleTable := ⟨t.rules.filter (·.1 != s), none⟩

/-! ### Access by untyped values -/

/-- Sets the rule of a key. -/
def set (t : RuleTable) (key replacement : Value) : Except Failure RuleTable := do
  let symbol ← Symbol.ofValue key
  let sequence ← Sequence.ofValue replacement
  return t.insert symbol sequence

/-- The replacement of a key. -/
def get (t : RuleTable) (key : Value) : Except Failure Sequence := do
  let symbol ← Symbol.ofValue key
  match t.get? symbol with
  | some replacement => return replacement
  | none => .error (.missingRule symbol)

/-- Erases the rule of a key. -/
def erase (t : RuleTable) (key : Value) : Except Failure RuleTable := do
  let symbol ← Symbol.ofValue key
  match t.get? symbol with
  | some _ => return t.remove symbol
  | none => .error (.missingRule symbol)

/-- Whether a key has a rule; what is rejected as a symbol has none. -/
def contains (t : RuleTable) (key : Value) : Except Failure Bool :=
  match Symbol.ofValue key with
  | .ok symbol => .ok (t.get? symbol).isSome
  | .error failure => if failure.category = .rejected then .ok false else .error failure

/-! ### Tables from values, and back -/

/-- The two parts of a rule: of a list of two, say, or of a text of two characters. -/
def parts (rule : Value) : Except Failure (Value × Value) :=
  match rule.parts? with
  | some [key, replacement] => .ok (key, replacement)
  | some items =>
    .error (if items.length < 2 then .tooFewParts 2 items.length else .tooManyParts 2)
  | none => .error .wrongKind

/-- The table with rules given one by one; each is taken apart only when its turn comes. -/
def insertAll (t : RuleTable) : List Value → Except Failure RuleTable
  | [] => .ok t
  | rule :: rest => do
    let (key, replacement) ← parts rule
    let t ← t.set key replacement
    t.insertAll rest

/-- The rules that a value gives one by one: none for null, an object's fields, or what the value
    consists of. -/
def rulesIn : Value → Except Failure (List Value)
  | .null => .ok []
  | .object fields => .ok (fields.map fun f => .list [.text f.1, f.2])
  | v =>
    match v.parts? with
    | some items => .ok items
    | none => .error .wrongKind

/-- The table that a value stands for. -/
def ofValue (v : Value) : Except Failure RuleTable := do empty.insertAll (← rulesIn v)

/-- The table of rules given in order, a later one replacing an earlier of the same symbol. -/
def ofRules (rules : List (Symbol × Sequence)) : RuleTable :=
  rules.foldl (fun t r => t.insert r.1 r.2) empty

/-- A new table with the rules of another. -/
def copy (t : RuleTable) : RuleTable := ofRules t.rules

/-- Keys and replacements as they are shown. -/
def display (t : RuleTable) : List (Value × Value) :=
  t.rules.map fun r => (Symbol.display r.1, Sequence.display r.2)

/-- The rules in braces, as messages show them. -/
def shownRules (t : RuleTable) : String :=
  let entry (r : Value × Value) : String := r.1.shown ++ ": " ++ r.2.shown
  "\x7b" ++ String.intercalate ", " (t.display.map entry) ++ "\x7d"

/-- A table as messages show it. -/
def shown (t : RuleTable) : String := "RuleTable(" ++ t.shownRules ++ ")"

end RuleTable

end Lindenmayer
