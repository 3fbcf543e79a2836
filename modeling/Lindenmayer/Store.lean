import Lindenmayer.Derivation

/-!
Where tables and systems stand while they are worked on. Symbols stand on tapes, and tapes at the places
of a store. A table (`Sheet`) knows the places of its replacements, a system (`Machine`) those of its seed
and its state, so whatever knows one place shares what is written there. Routines work on a store
together with one table or system; where a routine fails, what it has done until then stays done.
-/
namespace Lindenmayer

/-- What is done to some state. Where it fails, the state stays as it was left. -/
abbrev Routine (σ : Type) := ExceptT Failure (StateM σ)

/-- A routine for a part of a state. -/
def Routine.within {σ τ α : Type} (part : σ → τ) (put : σ → τ → σ) (r : Routine τ α) : Routine σ α :=
  fun s =>
    let (result, t) := r (part s)
    (result, put s t)

/-- A row of symbols. A tape that is locked cannot be written to. -/
structure Tape where
  symbols : Sequence
  locked : Bool
deriving DecidableEq, Repr, Inhabited

/-- Tapes at their places. -/
abbrev Store := Array Tape

namespace Store

/-- The tape at a place. -/
def tape (store : Store) (place : Nat) : Tape := store.getD place ⟨[], true⟩

/-- The symbols at a place. -/
def symbols (store : Store) (place : Nat) : Sequence := (store.tape place).symbols

/-- Puts symbols on a new tape. -/
def allot (symbols : Sequence) : Routine Store Nat := fun store =>
  (.ok store.size, store.push ⟨symbols, false⟩)

/-- Puts the symbols at a place on a new tape. -/
def copy (place : Nat) : Routine Store Nat := do allot ((← get).symbols place)

/-- Locks the tape at a place. -/
def lock (place : Nat) : Routine Store Unit :=
  modify fun store => store.setIfInBounds place ⟨store.symbols place, true⟩

/-- Puts symbols on a new tape and locks it. -/
def allotLocked (symbols : Sequence) : Routine Store Nat := do
  let place ← allot symbols
  lock place
  return place

/-- The place that an index means in a sequence; a negative one counts from the end. -/
def position (length : Nat) (index : Int) : Except Failure Nat :=
  let i := if index < 0 then index + length else index
  if 0 ≤ i ∧ i < length then .ok i.toNat else .error .indexOutOfRange

/-- A sequence with a symbol written into it. The index is looked at before the symbol. -/
def written (sequence : Sequence) (index symbol : Int) : Except Failure Sequence := do
  let i ← position sequence.length index
  match Symbol.ofInt? symbol with
  | some found => return sequence.set i found
  | none => .error .overflow

/-- Writes a symbol to the tape at a place, unless it is locked. -/
def write (place : Nat) (index symbol : Int) : Routine Store Unit := do
  let tape := (← get).tape place
  if tape.locked then throw .readOnly
  else
    let symbols ← written tape.symbols index symbol
    modify fun store => store.setIfInBounds place { tape with symbols }

end Store

/-- A routine for a store, where something stands with it. -/
def Routine.beside {σ α : Type} (r : Routine Store α) : Routine (Store × σ) α :=
  r.within Prod.fst fun (_, owner) store => (store, owner)

/-! ### Tables -/

/-- A table that stands with a store: each rule has the place of its replacement. -/
structure Sheet where
  rules : List (Symbol × Nat)
  index : Option Index
deriving DecidableEq, Repr, Inhabited

namespace Sheet

/-- The sheet without rules. -/
def blank : Sheet := ⟨[], none⟩

/-- The table of a sheet, with its replacements as they stand in a store. -/
def table (sheet : Sheet) (store : Store) : RuleTable :=
  ⟨sheet.rules.map fun r => (r.1, store.symbols r.2), sheet.index⟩

/-- The place of the replacement of a key. -/
def place (sheet : Sheet) (key : Value) : Except Failure Nat := do
  let symbol ← Symbol.ofValue key
  match sheet.rules.find? (·.1 == symbol) with
  | some (_, place) => return place
  | none => .error (.missingRule symbol)

/-- Gives a symbol its replacement. The index is forgotten. -/
def assign (symbol : Symbol) (place : Nat) : Routine (Store × Sheet) Unit :=
  modify fun (store, sheet) => (store, ⟨RuleTable.insertRule symbol place sheet.rules, none⟩)

/-- Sets the rule of a key, with a locked tape for its replacement. -/
def set (key replacement : Value) : Routine (Store × Sheet) Unit := do
  let symbol ← Symbol.ofValue key
  let place ← (Store.allotLocked (← Sequence.ofValue replacement)).beside
  assign symbol place

/-- Erases the rule of a key. The index is forgotten. -/
def erase (key : Value) : Routine (Store × Sheet) Unit := do
  let symbol ← Symbol.ofValue key
  match (← get).2.rules.find? (·.1 == symbol) with
  | some _ => modify fun (store, sheet) => (store, ⟨sheet.rules.filter (·.1 != symbol), none⟩)
  | none => throw (.missingRule symbol)

/-- Sets rules that are given one by one; each is taken apart only when its turn comes. -/
def fill : List Value → Routine (Store × Sheet) Unit
  | [] => pure ()
  | rule :: rest => do
    let (key, replacement) ← RuleTable.parts rule
    set key replacement
    fill rest

/-- Sets the rules of another sheet, with copies of their replacements. -/
def copyAll : List (Symbol × Nat) → Routine (Store × Sheet) Unit
  | [] => pure ()
  | (symbol, former) :: rest => do
    let place ← (Store.allotLocked ((← get).1.symbols former)).beside
    assign symbol place
    copyAll rest

/-- Puts the next generation of the symbols at a place on a new tape. The sheet remembers its index. -/
def apply (place : Nat) : Routine (Store × Sheet) Nat := do
  let (store, sheet) ← get
  let (next, t) ← (sheet.table store).apply (store.symbols place)
  modify fun (store, sheet) => (store, { sheet with index := t.index })
  (Store.allot next).beside

/-- Goes on for so many generations from the symbols at a place. -/
def expand : (generations place : Nat) → Routine (Store × Sheet) Nat
  | 0, place => return place
  | n + 1, place => do expand n (← apply place)

end Sheet

/-! ### Systems -/

/-- A system that stands with a store: its table, and the places of its seed and its state. -/
structure Machine where
  sheet : Sheet
  seed : Nat
  state : Nat
deriving DecidableEq, Repr, Inhabited

namespace Machine

/-- The system of a machine, with its symbols as they stand in a store. -/
def system (m : Machine) (store : Store) : Derivation :=
  ⟨m.sheet.table store, store.symbols m.seed, store.symbols m.state⟩

/-- A routine for the table of a machine. -/
def onSheet {α : Type} (r : Routine (Store × Sheet) α) : Routine (Store × Machine) α :=
  r.within (fun (store, m) => (store, m.sheet)) fun (_, m) (store, sheet) => (store, { m with sheet })

/-- Makes the tape at a place the state. -/
def moveTo (place : Nat) : Routine (Store × Machine) Unit :=
  modify fun (store, m) => (store, { m with state := place })

/-- Takes a machine back to a copy of its seed. -/
def reset : Routine (Store × Machine) Unit := do
  moveTo (← (Store.copy (← get).2.seed).beside)

/-- Takes a machine a number of generations further, from a copy of its state. -/
def evaluate (generations : Value) : Routine (Store × Machine) Unit := do
  let n ← generationCount generations
  let start ← (Store.copy (← get).2.state).beside
  moveTo (← onSheet (Sheet.expand n start))

/-- Writes a symbol to one of a machine's tapes. -/
def write (tape : Machine → Nat) (index symbol : Int) : Routine (Store × Machine) Unit := do
  (Store.write (tape (← get).2) index symbol).beside

/-- Puts replacements on locked tapes. -/
def lay : List (Symbol × Sequence) → Routine Store (List (Symbol × Nat))
  | [] => return []
  | (symbol, replacement) :: rest => do
    let place ← Store.allotLocked replacement
    return (symbol, place) :: (← lay rest)

/-- Puts a seed on a locked tape, and a copy of it on another for the state. -/
def plant (seed : Sequence) : Routine Store (Nat × Nat) := do
  let place ← Store.allotLocked seed
  return (place, ← Store.copy place)

/-- Makes a machine a given system, on tapes of its own. -/
def become (s : Derivation) : Routine (Store × Machine) Unit := do
  let rules ← (lay s.rules.rules).beside
  let seed ← (Store.allotLocked s.seed).beside
  let state ← (Store.allot s.state).beside
  modify fun (store, _) => (store, ⟨⟨rules, s.rules.index⟩, seed, state⟩)

end Machine

end Lindenmayer
