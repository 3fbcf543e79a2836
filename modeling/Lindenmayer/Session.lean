import Lindenmayer.Store

/-!
Sessions: named tables and systems that are built, changed and expanded step by step. A system may
share its table with its name and with other systems, so tables stand at places and systems refer to
their place; all symbols stand on the tapes of one store. `Session.step` runs one action and gives back
the session that it leaves, also where it fails. `Session.ledger` is what a session holds in values.
-/
namespace Lindenmayer

/-- What a name stands for: a table at its place, or a system with the place of its table. -/
inductive Session.Entry where
  | table (place : Nat)
  | system (place : Nat) (seed state : Sequence)
deriving DecidableEq, Repr

/-- What a name refers to: a table at its place, or the places of a system's table, seed and state. -/
inductive Session.Handle where
  | table (place : Nat)
  | system (place seed state : Nat)
deriving DecidableEq, Repr

/-- Tapes, tables at their places, and names in the order in which they were first given. -/
structure Session where
  store : Store
  sheets : Array Sheet
  handles : List (Text × Session.Handle)
deriving Repr

/-- What a session holds: its tables at their places, and what its names stand for. -/
structure Ledger where
  tables : Array RuleTable
  names : List (Text × Session.Entry)
deriving Repr

/-- A step of a session. -/
inductive Session.Action where
  /-- Names a new table. -/
  | newTable (id : Text) (rules : Value)
  /-- Names a new table with the rules of another. -/
  | copyTable (on id : Text)
  /-- Names a new system with rules of its own. -/
  | newSystem (id : Text) (seed rules : Value)
  /-- Names a new system that shares a table. -/
  | newSystemOn (id on : Text) (seed : Value)
  /-- Sets a rule. -/
  | set (on : Text) (key replacement : Value)
  /-- Erases a rule. -/
  | erase (on : Text) (key : Value)
  /-- Asks for a replacement. -/
  | get (on : Text) (key : Value)
  /-- Asks whether a key has a rule. -/
  | contains (on : Text) (key : Value)
  /-- Asks for the keys. -/
  | keys (on : Text)
  /-- Asks for the rules. -/
  | rules (on : Text)
  /-- Asks for the generation after a sequence. -/
  | apply (on : Text) (sequence : Value)
  /-- Expands a sequence. -/
  | expand (on : Text) (sequence generations : Value)
  /-- Asks for the length of an expansion. -/
  | expandedLength (on : Text) (sequence generations : Value)
  /-- Asks for the number of rules of a table, or for the length of a system's state. -/
  | size (on : Text)
  /-- Asks how messages show a table or a system. -/
  | shown (on : Text)
  /-- Takes a system some generations further. -/
  | evaluate (on : Text) (generations : Value)
  /-- Takes a system back to its seed. -/
  | reset (on : Text)
  /-- Asks for a system's state. -/
  | state (on : Text)
  /-- Asks for a system's seed. -/
  | seed (on : Text)
  /-- Asks for the text of a system's state. -/
  | stateText (on : Text)
  /-- Writes a symbol into a system's state. -/
  | writeState (on : Text) (index symbol : Int)
  /-- Tries to write a symbol into a system's seed. -/
  | writeSeed (on : Text) (index symbol : Int)
  /-- Tries to write a symbol into a replacement. -/
  | writeRule (on : Text) (key : Value) (index symbol : Int)

/-- What a step answers. -/
inductive Session.Answer where
  | table (rules : List (Symbol × Sequence))
  | sequence (s : Sequence)
  | flag (b : Bool)
  | symbols (keys : List Symbol)
  | count (n : Nat)
  | text (s : Text)
  | shown (s : String)

/-! ### Reading -/

namespace Ledger

/-- What a name stands for. -/
def entry (l : Ledger) (name : Text) : Except Failure Session.Entry :=
  match l.names.find? (·.1 == name) with
  | some (_, found) => .ok found
  | none => .error (.unknownName name)

/-- The place of the table that a name stands for; a system stands for its table. -/
def placeOf (l : Ledger) (name : Text) : Except Failure Nat := do
  match ← l.entry name with
  | .table place => return place
  | .system place _ _ => return place

/-- The table at a place. -/
def tableAt (l : Ledger) (place : Nat) : RuleTable := l.tables.getD place .empty

/-- The table that a name stands for. -/
def table (l : Ledger) (name : Text) : Except Failure RuleTable := do
  return l.tableAt (← l.placeOf name)

/-- The place of the table that a name stands for by itself; a system is none. -/
def ownPlaceOf (l : Ledger) (name : Text) : Except Failure Nat := do
  match ← l.entry name with
  | .table place => return place
  | .system _ _ _ => .error .wrongKind

/-- The system that a name stands for, with its table's place. -/
def system (l : Ledger) (name : Text) : Except Failure (Nat × Derivation) := do
  match ← l.entry name with
  | .table _ => .error .noSuchOperation
  | .system place seed state => return (place, ⟨l.tableAt place, seed, state⟩)

end Ledger

namespace Session

/-- The session without names. -/
def empty : Session := ⟨#[], #[], []⟩

/-- What is read where a handle points. -/
def Handle.entry (store : Store) : Handle → Entry
  | .table place => .table place
  | .system place seed state => .system place (store.symbols seed) (store.symbols state)

/-- What a session holds. -/
def ledger (s : Session) : Ledger :=
  ⟨s.sheets.map (·.table s.store), s.handles.map fun named => (named.1, named.2.entry s.store)⟩

/-- The tables of a session. -/
def tables (s : Session) : Array RuleTable := s.ledger.tables

/-- What a name stands for. -/
def entry (s : Session) (name : Text) : Except Failure Entry := s.ledger.entry name

/-- The place of the table that a name stands for; a system stands for its table. -/
def placeOf (s : Session) (name : Text) : Except Failure Nat := s.ledger.placeOf name

/-- The table at a place. -/
def tableAt (s : Session) (place : Nat) : RuleTable := s.ledger.tableAt place

/-- The table that a name stands for. -/
def table (s : Session) (name : Text) : Except Failure RuleTable := s.ledger.table name

/-- The place of the table that a name stands for by itself; a system is none. -/
def ownPlaceOf (s : Session) (name : Text) : Except Failure Nat := s.ledger.ownPlaceOf name

/-- The system that a name stands for, with its table's place. -/
def system (s : Session) (name : Text) : Except Failure (Nat × Derivation) := s.ledger.system name

/-! ### Changing -/

/-- What a name refers to. -/
def handle (s : Session) (name : Text) : Except Failure Handle :=
  match s.handles.find? (·.1 == name) with
  | some (_, found) => .ok found
  | none => .error (.unknownName name)

/-- The sheet at a place. -/
def sheetAt (s : Session) (place : Nat) : Sheet := s.sheets.getD place .blank

/-- A routine for the store of a session. -/
def onStore {α : Type} (r : Routine Store α) : Routine Session α :=
  r.within Session.store fun s store => { s with store }

/-- A routine for the table at a place. -/
def onSheet {α : Type} (place : Nat) (r : Routine (Store × Sheet) α) : Routine Session α :=
  r.within (fun s => (s.store, s.sheetAt place)) fun s (store, sheet) =>
    { s with store, sheets := s.sheets.setIfInBounds place sheet }

/-- A routine for the system that a name stands for. -/
def onMachine {α : Type} (on : Text) (r : Routine (Store × Machine) α) : Routine Session α := do
  match ← (← get).handle on with
  | .table _ => throw .noSuchOperation
  | .system place seed state =>
    r.within (fun s => (s.store, ⟨s.sheetAt place, seed, state⟩)) fun s (store, m) =>
      { store, sheets := s.sheets.setIfInBounds place m.sheet
        handles := RuleTable.insertRule on (.system place m.seed m.state) s.handles }

/-- A sheet that a routine fills. It has no place yet, so nothing knows of it if the routine fails. -/
def build (r : Routine (Store × Sheet) Unit) : Routine Session Sheet :=
  Routine.within (fun s => (s.store, Sheet.blank)) (fun s (store, _) => { s with store }) do
    r
    return (← get).2

/-- Gives a sheet a place. -/
def addSheet (sheet : Sheet) : Routine Session Nat := fun s =>
  (.ok s.sheets.size, { s with sheets := s.sheets.push sheet })

/-- Gives a name to something, or to something else. -/
def bind (name : Text) (h : Handle) : Routine Session Unit :=
  modify fun s => { s with handles := RuleTable.insertRule name h s.handles }

/-! ### Steps -/

/-- Answers what is read of the session as it is. -/
def reading (read : Ledger → Except Failure Answer) : Routine Session Answer := do read (← get).ledger

/-- Answers the rules of the table at a place. -/
def tableAnswer (place : Nat) : Routine Session Answer := reading fun l => return .table (l.tableAt place).rules

/-- Answers the symbols at a place of the store. -/
def symbolsAnswer (place : Nat) : Routine Session Answer := do
  return .sequence ((← get).store.symbols place)

/-- Answers the state of a system. -/
def stateAnswer (on : Text) : Routine Session Answer := reading fun l => do
  return .sequence (← l.system on).2.state

/-- Answers what is produced of a sequence by the table at a place. -/
def produceAt (place : Nat) (sequence : Value) (produce : Nat → Routine (Store × Sheet) Nat) : Routine Session Answer := do
  let start ← onStore (Store.allot (← Sequence.ofValue sequence))
  symbolsAnswer (← onSheet place (produce start))

/-- Names a new table and answers its rules. -/
def nameTable (id : Text) (sheet : Sheet) : Routine Session Answer := do
  let place ← addSheet sheet
  bind id (.table place)
  tableAnswer place

/-- Names a new system of the table at a place and answers its state. -/
def nameSystem (id : Text) (place : Nat) (seed : Sequence) : Routine Session Answer := do
  let (seed, state) ← onStore (Machine.plant seed)
  bind id (.system place seed state)
  stateAnswer id

/-- What an action does. -/
def perform : Action → Routine Session Answer
  | .newTable id rules => do
    nameTable id (← build (Sheet.fill (← RuleTable.rulesIn rules)))
  | .copyTable on id => do
    let former ← (← get).ownPlaceOf on
    nameTable id (← build (Sheet.copyAll ((← get).sheetAt former).rules))
  | .newSystem id seed rules => do
    let sheet ← build (Sheet.fill (← RuleTable.rulesIn rules))
    let sequence ← Sequence.ofValue seed
    nameSystem id (← addSheet sheet) sequence
  | .newSystemOn id on seed => do
    let place ← (← get).ownPlaceOf on
    nameSystem id place (← Sequence.ofValue seed)
  | .set on key replacement => do
    let place ← (← get).placeOf on
    onSheet place (Sheet.set key replacement)
    tableAnswer place
  | .erase on key => do
    let place ← (← get).placeOf on
    onSheet place (Sheet.erase key)
    tableAnswer place
  | .get on key => reading fun l => do return .sequence (← (← l.table on).get key)
  | .contains on key => reading fun l => do return .flag (← (← l.table on).contains key)
  | .keys on => reading fun l => do return .symbols (← l.table on).keys
  | .rules on => reading fun l => do return .table (← l.table on).rules
  | .apply on sequence => do produceAt (← (← get).placeOf on) sequence Sheet.apply
  | .expand on sequence generations => do
    let n ← generationCount generations
    produceAt (← (← get).ownPlaceOf on) sequence (Sheet.expand n)
  | .expandedLength on sequence generations => reading fun l => do
    let n ← generationCount generations
    let t := l.tableAt (← l.ownPlaceOf on)
    return .count (← writable (t.expandedLength n (← Sequence.ofValue sequence)))
  | .size on => reading fun l => do
    match ← l.entry on with
    | .table place => return .count (l.tableAt place).size
    | .system _ _ state => return .count state.length
  | .shown on => reading fun l => do
    match ← l.entry on with
    | .table place => return .shown (l.tableAt place).shown
    | .system place seed state => return .shown (Derivation.mk (l.tableAt place) seed state).shown
  | .evaluate on generations => do
    onMachine on (Machine.evaluate generations)
    stateAnswer on
  | .reset on => do
    onMachine on Machine.reset
    stateAnswer on
  | .state on => stateAnswer on
  | .seed on => reading fun l => do return .sequence (← l.system on).2.seed
  | .stateText on => reading fun l => do return .text (← (← l.system on).2.stateText)
  | .writeState on index symbol => do
    onMachine on (Machine.write Machine.state index symbol)
    stateAnswer on
  | .writeSeed on index symbol => do
    onMachine on (Machine.write Machine.seed index symbol)
    reading fun l => do return .sequence (← l.system on).2.seed
  | .writeRule on key index symbol => do
    let place ← (← get).placeOf on
    let replacement ← ((← get).sheetAt place).place key
    onStore (Store.write replacement index symbol)
    symbolsAnswer replacement

/-- Runs one step: the session after it and its answer. -/
def step (s : Session) (action : Action) : Session × Except Failure Answer :=
  let (answer, next) := perform action s
  (next, answer)

/-- Runs steps one after the other. -/
def run (s : Session) : List Action → Session × List (Except Failure Answer)
  | [] => (s, [])
  | action :: rest =>
    let (next, answer) := s.step action
    let (last, answers) := next.run rest
    (last, answer :: answers)

/-- Gives a named system to a process that may change it whatever comes of it. -/
def withSystem {α : Type} (s : Session) (on : Text) (process : Derivation → Derivation × Except Failure α) :
    Session × Except Failure α :=
  match s.system on with
  | .error failure => (s, .error failure)
  | .ok (_, found) =>
    let (next, result) := process found
    ((onMachine on (Machine.become next) s).2, result)

end Session

end Lindenmayer
