import Mathlib.Data.List.Nodup
import Lindenmayer.Proofs.Ledgers
import Lindenmayer.Proofs.Tapes

/-!
Sessions on their tapes. In a session that is `Stored`, replacements and seeds stand on locked tapes and each system
has a tape of its own for its state, so that a state may be written to and nothing else changes
(`Stored.write`). Every step of such a session leaves one, answers what the ledger of the session answers, and leaves
what the ledger leaves (`step_refines`). So a session that fails a step holds what it held, though the step may
have put symbols on new tapes by then.
-/
namespace Lindenmayer.Storing
open Outcomes Rewriting Keys Tapes Ledgers Session

/-- The seed of a system stands on a locked tape, and its state on one that is not. -/
def Held (store : Store) : Handle → Prop
  | .table _ => True
  | .system _ seed state => Locked store seed ∧ Free store state

/-- The place of the state of what a handle points to, if it is a system. -/
def stateAt : Handle → Option Nat
  | .table _ => none
  | .system _ _ state => some state

/-- What stands where in a session: no two systems have their states on one tape, and the tapes that they share are
    locked. -/
structure Stored (s : Session) : Prop where
  sheets : ∀ sheet ∈ s.sheets, Kept s.store sheet
  handles : ∀ named ∈ s.handles, Held s.store named.2
  distinct : (s.handles.map Prod.fst).Nodup
  apart : ∀ first ∈ s.handles, ∀ second ∈ s.handles, ∀ place, stateAt first.2 = some place → stateAt second.2 = some place →
    first.1 = second.1

variable {s : Session} {store : Store}

/-! ### What a session holds -/

theorem entry_handle (s : Session) (name : Text) : s.ledger.entry name = Handle.entry s.store <$> s.handle name := by
  have found : (s.handles.map fun named => (named.1, named.2.entry s.store)).find? (·.1 == name) =
      (s.handles.find? (·.1 == name)).map fun named => (named.1, named.2.entry s.store) := List.find?_map
  rw [Ledger.entry, Session.handle, Session.ledger, found]
  cases s.handles.find? (·.1 == name) with
  | none => rfl
  | some named => rfl

theorem handle_find {name : Text} {h : Handle} (found : s.handle name = .ok h) : s.handles.find? (·.1 == name) = some (name, h) := by
  rw [Session.handle] at found
  cases standing : s.handles.find? (·.1 == name) with
  | none =>
    rw [standing] at found
    cases found
  | some named =>
    rw [standing] at found
    cases found
    have same : named.1 = name := by simpa using List.find?_some standing
    rw [← same]

theorem tableAt_sheet (s : Session) (place : Nat) : s.ledger.tableAt place = (s.sheetAt place).table s.store := by
  rw [Ledger.tableAt, Session.ledger, Session.sheetAt, Array.getD_eq_getD_getElem?, Array.getD_eq_getD_getElem?,
    Array.getElem?_map]
  cases s.sheets[place]? with
  | none => rfl
  | some sheet => rfl

theorem handle_system {name : Text} {place seed state : Nat} (found : s.handle name = .ok (.system place seed state)) :
    s.ledger.system name = .ok (place, Machine.system ⟨s.sheetAt place, seed, state⟩ s.store) := by
  have entered : s.ledger.entry name = .ok (.system place (s.store.symbols seed) (s.store.symbols state)) := by
    rw [entry_handle, found]
    rfl
  refine bind_ok.mpr ⟨_, entered, ?_⟩
  dsimp only
  rw [tableAt_sheet]
  rfl

theorem Stored.sheetAt_kept (stored : Stored s) (place : Nat) : Kept s.store (s.sheetAt place) := by
  rw [Session.sheetAt, Array.getD_eq_getD_getElem?]
  cases found : s.sheets[place]? with
  | none => exact blank_kept s.store
  | some sheet => exact stored.sheets sheet (Array.mem_of_getElem? found)

theorem Extends.held {later : Store} (grown : Extends store later) {h : Handle} (held : Held store h) : Held later h := by
  cases h with
  | table => trivial
  | system => exact ⟨grown.locked held.1, grown.free held.2⟩

theorem Extends.entry {later : Store} (grown : Extends store later) {h : Handle} (held : Held store h) :
    h.entry later = h.entry store := by
  cases h with
  | table => rfl
  | system => rw [Handle.entry, Handle.entry, grown.locked_symbols held.1, grown.free_symbols held.2]

/-! ### Changes of a session -/

/-- New tapes change nothing. -/
theorem Stored.grow (stored : Stored s) (grown : Extends s.store store) :
    Stored { s with store } ∧ Session.ledger { s with store } = s.ledger := by
  constructor
  · exact { stored with
      sheets := fun sheet member => grown.kept (stored.sheets sheet member)
      handles := fun named member => Extends.held grown (stored.handles named member) }
  · have tables : s.sheets.map (·.table store) = s.sheets.map (·.table s.store) :=
      Array.map_congr_left fun sheet member => grown.table (stored.sheets sheet member)
    have names : s.handles.map (fun named => (named.1, named.2.entry store)) = s.handles.map fun named => (named.1, named.2.entry s.store) :=
      List.map_congr_left fun named member => by rw [Extends.entry grown (stored.handles named member)]
    rw [Session.ledger, Session.ledger, tables, names]

theorem Stored.putSheet (stored : Stored s) {sheet : Sheet} (kept : Kept s.store sheet) (place : Nat) :
    Stored { s with sheets := s.sheets.setIfInBounds place sheet } ∧
      Session.ledger { s with sheets := s.sheets.setIfInBounds place sheet } = s.ledger.putTable place (sheet.table s.store) := by
  constructor
  · refine { stored with sheets := fun other member => ?_ }
    rcases Array.mem_or_eq_of_mem_setIfInBounds member with former | rfl
    · exact stored.sheets other former
    · exact kept
  · rw [Session.ledger, Ledger.putTable, Session.ledger, Array.map_setIfInBounds]

theorem Stored.pushSheet (stored : Stored s) {sheet : Sheet} (kept : Kept s.store sheet) :
    Stored { s with sheets := s.sheets.push sheet } ∧
      Session.ledger { s with sheets := s.sheets.push sheet } = (s.ledger.addTable (sheet.table s.store)).1 := by
  constructor
  · refine { stored with sheets := fun other member => ?_ }
    rcases Array.mem_push.mp member with former | rfl
    · exact stored.sheets other former
    · exact kept
  · rw [Session.ledger, Ledger.addTable, Session.ledger, Array.map_push]

/-- A name may be given to what has its state on a tape that is no other name's. -/
theorem Stored.bindHandle (stored : Stored s) (name : Text) (h : Handle) (held : Held s.store h)
    (own : ∀ named ∈ s.handles, ∀ place, stateAt h = some place → stateAt named.2 = some place → named.1 = name) :
    Stored { s with handles := RuleTable.insertRule name h s.handles } ∧
      Session.ledger { s with handles := RuleTable.insertRule name h s.handles } = s.ledger.bind name (h.entry s.store) := by
  constructor
  · exact {
      sheets := stored.sheets
      handles := fun named member => by
        rcases mem_insertRule member with rfl | former
        · exact held
        · exact stored.handles named former
      distinct := nodup_insertRule stored.distinct
      apart := fun first member second also place here there => by
        rcases mem_insertRule member with rfl | former
        · rcases mem_insertRule also with rfl | other
          · rfl
          · exact (own second other place here there).symm
        · rcases mem_insertRule also with rfl | other
          · exact own first former place there here
          · exact stored.apart first former second other place here there }
  · exact congrArg (Ledger.mk _) (map_insertRule (Handle.entry s.store) name h s.handles)

section
variable {on : Text} {place seed state : Nat}

theorem Stored.system_held (stored : Stored s) (standing : s.handle on = .ok (.system place seed state)) :
    Locked s.store seed ∧ Free s.store state :=
  stored.handles _ (List.mem_of_find?_eq_some (handle_find standing))

/-- A state is on no other system's tape. -/
theorem Stored.own (stored : Stored s) (standing : s.handle on = .ok (.system place seed state)) :
    ∀ named ∈ s.handles, stateAt named.2 = some state → named.1 = on :=
  fun named member here => stored.apart named member _ (List.mem_of_find?_eq_some (handle_find standing)) state here rfl

theorem Stored.fresh (stored : Stored s) {named : Text × Handle} (member : named ∈ s.handles) {place : Nat}
    (here : stateAt named.2 = some place) : place < s.store.size := by
  have held := stored.handles named member
  obtain ⟨name, h⟩ := named
  cases h with
  | table => cases here
  | system =>
    cases here
    exact held.2.inside

/-- A state that stands behind all tapes is no other name's. -/
theorem Stored.unshared (stored : Stored s) {h : Handle} (behind : ∀ place, stateAt h = some place → s.store.size ≤ place) (name : Text) :
    ∀ named ∈ s.handles, ∀ place, stateAt h = some place → stateAt named.2 = some place → named.1 = name :=
  fun _ member place here there => absurd (stored.fresh member there) (Nat.not_lt_of_le (behind place here))

/-- A handle that is not the written system's reads what it read. -/
theorem Stored.overwrite_held (stored : Stored s) (standing : s.handle on = .ok (.system place seed state)) (symbols : Sequence)
    {named : Text × Handle} (member : named ∈ s.handles) : Held (overwrite s.store state symbols) named.2 ∧
      named.2.entry (overwrite s.store state symbols) =
        if named.1 = on then .system place (s.store.symbols seed) symbols else named.2.entry s.store := by
  obtain ⟨seedLocked, free⟩ := stored.system_held standing
  obtain ⟨name, h⟩ := named
  have holds := stored.handles _ member
  by_cases this : name = on
  · have same : h = .system place seed state := by
      have found := List.mem_of_find?_eq_some (handle_find standing)
      exact (Prod.mk.inj (List.inj_on_of_nodup_map stored.distinct member found this)).2
    obtain ⟨still, reads⟩ := overwrite_locked free seedLocked symbols
    rw [if_pos this, same, Handle.entry, reads, symbols_read (overwrite_here free symbols)]
    exact ⟨⟨still, symbols, overwrite_here free symbols⟩, rfl⟩
  · rw [if_neg this]
    cases h with
    | table => exact ⟨trivial, rfl⟩
    | system other start current =>
      have apart : current ≠ state := fun same => this (stored.own standing _ member (congrArg some same))
      obtain ⟨startLocked, row, read⟩ := holds
      obtain ⟨still, reads⟩ := overwrite_locked free startLocked symbols
      have here := (overwrite_elsewhere apart symbols).trans read
      rw [Handle.entry, Handle.entry, reads, symbols_read here, symbols_read read]
      exact ⟨⟨still, row, here⟩, rfl⟩

/-- Writing to the state of a system changes this state alone. -/
theorem Stored.write (stored : Stored s) (standing : s.handle on = .ok (.system place seed state)) (symbols : Sequence) :
    Stored { s with store := overwrite s.store state symbols } ∧
      Session.ledger { s with store := overwrite s.store state symbols } =
        s.ledger.putSystem on place ⟨s.ledger.tableAt place, s.store.symbols seed, symbols⟩ := by
  have free := (stored.system_held standing).2
  have held {named : Text × Handle} (member : named ∈ s.handles) := stored.overwrite_held standing symbols member
  constructor
  · exact { stored with
      sheets := fun sheet member => (overwrite_table free (stored.sheets sheet member) symbols).1
      handles := fun named member => (held member).1 }
  · -- Sheets stand on locked tapes, and of the names it is the system's alone that reads the tape.
    have tables : s.sheets.map (·.table (overwrite s.store state symbols)) = s.sheets.map (·.table s.store) :=
      Array.map_congr_left fun sheet member => (overwrite_table free (stored.sheets sheet member) symbols).2
    have keys : (s.handles.map fun named => (named.1, named.2.entry s.store)).map Prod.fst = s.handles.map Prod.fst := by
      rw [List.map_map]
      rfl
    have present : on ∈ s.handles.map Prod.fst := List.mem_map_of_mem (List.mem_of_find?_eq_some (handle_find standing))
    have names : s.handles.map (fun named => (named.1, named.2.entry (overwrite s.store state symbols))) =
        RuleTable.insertRule on (.system place (s.store.symbols seed) symbols)
          (s.handles.map fun named => (named.1, named.2.entry s.store)) := by
      rw [insertRule_present (keys ▸ stored.distinct) (keys ▸ present), List.map_map]
      refine List.map_congr_left fun named member => ?_
      rw [Function.comp_apply, (held member).2]
      by_cases this : named.1 = on
      · rw [if_pos this, if_pos this, this]
      · rw [if_neg this, if_neg this]
    rw [Ledger.putSystem, putTable_same, Session.ledger, tables, names]
    rfl

end

/-! ### Steps -/

/-- What comes of an action, beside what the ledger says. An action that fails leaves the ledger. -/
inductive Refines (s : Session) : Except Failure (Ledger × Answer) → Except Failure Answer × Session → Prop where
  | ok {next : Session} {answer : Answer} (stored : Stored next) : Refines s (.ok (next.ledger, answer)) (.ok answer, next)
  | error {next : Session} {failure : Failure} (stored : Stored next) (same : next.ledger = s.ledger) :
    Refines s (.error failure) (.error failure, next)

theorem Refines.answer {next : Session} {l : Ledger} {answer : Answer} (stored : Stored next) (same : next.ledger = l) :
    Refines s (.ok (l, answer)) (.ok answer, next) := same ▸ .ok stored

theorem reading_run (read : Ledger → Except Failure Answer) (s : Session) : reading read s = (read s.ledger, s) := by
  simp only [reading, run_bind, run_get, run_lift]

/-- What is only read changes nothing. -/
theorem refines_reading (stored : Stored s) (read : Ledger → Except Failure Answer) :
    Refines s (s.ledger.reading read) (reading read s) := by
  rw [reading_run, Ledger.reading]
  cases read s.ledger with
  | error failure => exact .error stored rfl
  | ok answer => exact .ok stored

theorem onStore_run {α : Type} (r : Routine Store α) (s : Session) : onStore r s = ((r s.store).1, { s with store := (r s.store).2 }) := rfl

theorem onSheet_run {α : Type} (place : Nat) (r : Routine (Store × Sheet) α) (s : Session) : onSheet place r s =
    ((r (s.store, s.sheetAt place)).1, { s with
      store := (r (s.store, s.sheetAt place)).2.1, sheets := s.sheets.setIfInBounds place (r (s.store, s.sheetAt place)).2.2 }) := rfl

theorem tableAnswer_run (place : Nat) (s : Session) : tableAnswer place s = (.ok (.table (s.ledger.tableAt place).rules), s) := rfl

theorem symbolsAnswer_run (place : Nat) (s : Session) : symbolsAnswer place s = (.ok (.sequence (s.store.symbols place)), s) := rfl

theorem stateAnswer_run {on : Text} {place : Nat} {found : Derivation} (standing : s.ledger.system on = .ok (place, found)) :
    stateAnswer on s = (.ok (.sequence found.state), s) := by
  rw [stateAnswer, reading_run, standing]
  rfl

section
variable {later : Store} {sheet : Sheet}

theorem Stored.growSheet (stored : Stored s) (grown : Extends s.store later) (kept : Kept later sheet) (place : Nat) :
    Stored { s with store := later, sheets := s.sheets.setIfInBounds place sheet } ∧
      Session.ledger { s with store := later, sheets := s.sheets.setIfInBounds place sheet } =
        s.ledger.putTable place (sheet.table later) := by
  obtain ⟨grows, same⟩ := stored.grow grown
  obtain ⟨puts, table⟩ := grows.putSheet kept place
  exact ⟨puts, table.trans (same ▸ rfl)⟩

/-- Changing a table on its sheet. -/
theorem refines_changeTable (stored : Stored s) (coherent : Coherent s.ledger) (on : Text)
    (change : RuleTable → Except Failure RuleTable) (r : Routine (Store × Sheet) Unit)
    (mirrors : ∀ {sheet : Sheet}, Kept s.store sheet → Mirrors s.store (· = sheet) (change (sheet.table s.store)) (r (s.store, sheet))) :
    Refines s (s.ledger.changeTable on change)
      ((do let place ← (← get).placeOf on; onSheet place r; tableAnswer place : Routine Session Answer) s) := by
  rw [Ledger.changeTable]
  simp only [run_bind, run_get, run_lift, Session.placeOf]
  cases standing : s.ledger.placeOf on with
  | error failure => exact .error stored rfl
  | ok place =>
    dsimp only
    have changes := mirrors (stored.sheetAt_kept place)
    rw [ok_bind, tableAt_sheet, onSheet_run]
    generalize r (s.store, s.sheetAt place) = run at changes ⊢
    generalize change ((s.sheetAt place).table s.store) = result at changes ⊢
    cases changes with
    | @error later next failure grown same =>
      -- The sheet is put back as it was, but its tapes are read in a store that may have grown.
      subst same
      obtain ⟨grows, still⟩ := stored.growSheet grown (grown.kept (stored.sheetAt_kept place)) place
      refine .error grows (still.trans ?_)
      rw [grown.table (stored.sheetAt_kept place), ← tableAt_sheet, putTable_same]
    | @ok later next grown kept =>
      obtain ⟨grows, table⟩ := stored.growSheet grown kept place
      dsimp only
      rw [tableAnswer_run, table, tableAt_putTable, if_pos ⟨rfl, placed_inside coherent standing⟩]
      exact .answer grows table

/-- Producing a sequence by a table on its sheet. -/
theorem refines_produceBy (stored : Stored s) (coherent : Coherent s.ledger) {on : Text} {place : Nat}
    (standing : s.ledger.placeOf on = .ok place) (given : Value) (produce : RuleTable → Sequence → Except Failure (Sequence × RuleTable))
    (r : Nat → Routine (Store × Sheet) Nat) (runs : ∀ {store : Store} {sheet : Sheet} {start : Nat}, Kept store sheet →
      Current (sheet.table store) → Free store start → ∃ later next found, r start (store, sheet) = (.ok found, (later, next)) ∧
        Rewritten 0 store later next found ∧ produce (sheet.table store) (store.symbols start) = .ok (later.symbols found, next.table later)) :
    Refines s (s.ledger.produceBy on fun t => do produce t (← Sequence.ofValue given))
      (produceAt place given r s) := by
  rw [Ledger.produceBy, standing, ok_bind]
  simp only [produceAt, run_bind, run_lift]
  cases Sequence.ofValue given with
  | error failure => exact .error stored rfl
  | ok sequence =>
    have pushed := extends_push s.store ⟨sequence, false⟩
    have kept := stored.sheetAt_kept place
    have current : Current ((s.sheetAt place).table s.store) := tableAt_sheet s place ▸ tableAt_current coherent place
    obtain ⟨later, next, found, ran, rewritten, produced⟩ := runs (pushed.kept kept) ((pushed.table kept).symm ▸ current)
      ⟨_, push_read s.store _⟩
    rw [pushed.table kept, symbols_read (push_read s.store _)] at produced
    obtain ⟨grows, table⟩ := stored.growSheet (pushed.trans rewritten.grown) rewritten.kept place
    have sheetAt : Session.sheetAt { s with store := s.store.push ⟨sequence, false⟩ } place = s.sheetAt place := rfl
    dsimp only
    simp only [onStore_run, allot_run, onSheet_run, sheetAt, ran, symbolsAnswer_run, tableAt_sheet, ok_bind, produced]
    exact .answer grows table

/-- A new sheet under a new name. -/
theorem Stored.addSheet (stored : Stored s) (grown : Extends s.store later) (kept : Kept later sheet) (id : Text) (h : Handle)
    (held : Held later h) (own : ∀ place, stateAt h = some place → s.store.size ≤ place) :
    Stored ⟨later, s.sheets.push sheet, RuleTable.insertRule id h s.handles⟩ ∧
      Session.ledger ⟨later, s.sheets.push sheet, RuleTable.insertRule id h s.handles⟩ =
        (s.ledger.addTable (sheet.table later)).1.bind id (h.entry later) := by
  obtain ⟨grows, same⟩ := stored.grow grown
  obtain ⟨adds, added⟩ := grows.pushSheet kept
  obtain ⟨binds, bound⟩ := adds.bindHandle id h held (stored.unshared own id)
  exact ⟨binds, bound.trans (by rw [added, same])⟩

end

/-! ### New tables and systems -/

section
variable {later : Store} {sheet : Sheet}

theorem build_run (r : Routine (Store × Sheet) Unit) (s : Session) : build r s =
    ((r (s.store, .blank)).1.map fun _ => (r (s.store, .blank)).2.2, { s with store := (r (s.store, .blank)).2.1 }) := by
  rw [build, run_within, run_bind]
  rcases r (s.store, Sheet.blank) with ⟨failure | _, _⟩
  · rfl
  · rfl

theorem ofValue_fill (rules : Value) (store : Store) :
    (∃ failure, RuleTable.rulesIn rules = .error failure ∧ RuleTable.ofValue rules = .error failure) ∨
      ∃ given, RuleTable.rulesIn rules = .ok given ∧
        Mirrors store (fun _ => True) (RuleTable.ofValue rules) (Sheet.fill given (store, .blank)) := by
  rw [RuleTable.ofValue]
  cases RuleTable.rulesIn rules with
  | error failure => exact .inl ⟨failure, rfl, rfl⟩
  | ok given => exact .inr ⟨given, rfl, fill_mirrors (blank_kept store) given⟩

theorem addSheet_run (sheet : Sheet) (s : Session) : addSheet sheet s = (.ok s.sheets.size, { s with sheets := s.sheets.push sheet }) := rfl

theorem bind_run (id : Text) (h : Handle) (s : Session) :
    Session.bind id h s = (.ok (), { s with handles := RuleTable.insertRule id h s.handles }) := rfl

theorem sheets_size (s : Session) : s.ledger.tables.size = s.sheets.size := Array.size_map

theorem nameTable_refines (stored : Stored s) (grown : Extends s.store later) (kept : Kept later sheet) (id : Text) :
    Refines s (.ok (((s.ledger.addTable (sheet.table later)).1.bind id (.table s.ledger.tables.size)), .table (sheet.table later).rules))
      (nameTable id sheet { s with store := later }) := by
  obtain ⟨adds, same⟩ := stored.addSheet grown kept id (.table s.sheets.size) trivial (fun _ here => nomatch here)
  have answer := tableAt_added s.ledger (sheet.table later) id (.table s.ledger.tables.size)
  rw [sheets_size] at answer ⊢
  simp only [nameTable, run_bind, addSheet_run, bind_run, tableAnswer_run, same, Handle.entry, answer]
  exact .answer adds same

theorem refines_newTable (stored : Stored s) (id : Text) (rules : Value) :
    Refines s (s.ledger.perform (.newTable id rules)) (perform (.newTable id rules) s) := by
  rw [Ledger.perform, perform, run_bind, run_lift]
  rcases ofValue_fill rules s.store with ⟨failure, none_, failed⟩ | ⟨given, listed, mirrors⟩
  · rw [none_, failed]
    exact .error stored rfl
  · rw [listed]
    dsimp only
    rw [run_bind, build_run]
    generalize Sheet.fill given (s.store, .blank) = run at mirrors ⊢
    generalize RuleTable.ofValue rules = result at mirrors ⊢
    cases mirrors with
    | error failure grown =>
      obtain ⟨grows, same⟩ := stored.grow grown
      exact .error grows same
    | ok grown kept => exact nameTable_refines stored grown kept id

theorem refines_copyTable (stored : Stored s) (on id : Text) :
    Refines s (s.ledger.perform (.copyTable on id)) (perform (.copyTable on id) s) := by
  rw [Ledger.perform]
  simp only [perform, run_bind, run_get, run_lift, Session.ownPlaceOf]
  cases s.ledger.ownPlaceOf on with
  | error failure => exact .error stored rfl
  | ok former =>
    obtain ⟨later, next, ran, grown, kept, table⟩ := copyAll_run (blank_kept s.store) (stored.sheetAt_kept former)
    have copied : next.table later = (s.ledger.tableAt former).copy := by
      rw [table, tableAt_sheet]
      rfl
    rw [ok_bind, ← copied]
    simp only [build_run, ran]
    exact nameTable_refines stored grown kept id

theorem nameSystem_refines {l : Ledger} (stored : Stored s) (same : s.ledger = l) (id : Text) (place : Nat) (sequence : Sequence) :
    ∃ next, nameSystem id place sequence s = (.ok (.sequence sequence), next) ∧ Stored next ∧
      next.ledger = l.bind id (.system place sequence sequence) := by
  obtain ⟨later, ran, grown, seed, state⟩ := plant_run sequence s.store
  obtain ⟨grows, still⟩ := stored.grow grown
  have behind (other : Nat) (here : stateAt (.system place s.store.size (s.store.size + 1)) = some other) : s.store.size ≤ other := by
    cases here
    exact Nat.le_succ _
  obtain ⟨binds, bound⟩ := grows.bindHandle id (.system place s.store.size (s.store.size + 1)) ⟨⟨_, seed⟩, ⟨_, state⟩⟩
    (stored.unshared behind id)
  rw [Handle.entry, symbols_read seed, symbols_read state, still, same] at bound
  have standing := system_bind l id place sequence sequence
  rw [← bound] at standing
  refine ⟨_, ?_, binds, bound⟩
  simp only [nameSystem, run_bind, onStore_run, ran, bind_run, stateAnswer_run standing]

theorem refines_newSystem (stored : Stored s) (id : Text) (seed rules : Value) :
    Refines s (s.ledger.perform (.newSystem id seed rules)) (perform (.newSystem id seed rules) s) := by
  rw [Ledger.perform, Derivation.ofValues, perform, run_bind, run_lift]
  rcases ofValue_fill rules s.store with ⟨failure, none_, failed⟩ | ⟨given, listed, mirrors⟩
  · rw [none_, failed]
    exact .error stored rfl
  · rw [listed]
    dsimp only
    rw [run_bind, build_run]
    generalize Sheet.fill given (s.store, .blank) = run at mirrors ⊢
    generalize RuleTable.ofValue rules = result at mirrors ⊢
    cases mirrors with
    | error failure grown =>
      obtain ⟨grows, same⟩ := stored.grow grown
      exact .error grows same
    | @ok later next grown kept =>
      obtain ⟨grows, same⟩ := stored.grow grown
      simp only [Except.map, run_bind, run_lift, ok_bind]
      cases Sequence.ofValue seed with
      | error failure => exact .error grows same
      | ok sequence =>
        obtain ⟨adds, added⟩ := grows.pushSheet kept
        obtain ⟨after, ran, names, named⟩ := nameSystem_refines adds added id s.sheets.size sequence
        simp only [addSheet_run, ran]
        refine .answer names (named.trans ?_)
        rw [same, ← sheets_size]
        rfl

theorem refines_newSystemOn (stored : Stored s) (id on : Text) (seed : Value) :
    Refines s (s.ledger.perform (.newSystemOn id on seed)) (perform (.newSystemOn id on seed) s) := by
  rw [Ledger.perform]
  simp only [perform, run_bind, run_get, run_lift, Session.ownPlaceOf]
  cases s.ledger.ownPlaceOf on with
  | error failure => exact .error stored rfl
  | ok place =>
    cases Sequence.ofValue seed with
    | error failure => exact .error stored rfl
    | ok sequence =>
      obtain ⟨after, ran, names, named⟩ := nameSystem_refines stored rfl id place sequence
      simp only [ran]
      exact .answer names named

end

/-! ### Systems -/

section
variable {on : Text} {place seed state : Nat}

theorem onMachine_run {α : Type} (standing : s.handle on = .ok (.system place seed state)) {r : Routine (Store × Machine) α}
    {result : Except Failure α} {later : Store} {m : Machine} (ran : r (s.store, ⟨s.sheetAt place, seed, state⟩) = (result, (later, m))) :
    onMachine on r s = (result, ⟨later, s.sheets.setIfInBounds place m.sheet,
      RuleTable.insertRule on (.system place m.seed m.state) s.handles⟩) := by
  simp only [onMachine, run_bind, run_get, run_lift, standing, run_within, ran]

/-- A routine that leaves the machine may still have changed the store. -/
theorem onMachine_same {α : Type} (standing : s.handle on = .ok (.system place seed state)) {r : Routine (Store × Machine) α}
    {result : Except Failure α} {later : Store}
    (ran : r (s.store, ⟨s.sheetAt place, seed, state⟩) = (result, (later, ⟨s.sheetAt place, seed, state⟩))) :
    onMachine on r s = (result, { s with store := later }) := by
  have sheets : s.sheets.setIfInBounds place (s.sheetAt place) = s.sheets := setIfInBounds_getD s.sheets place .blank
  have handles : RuleTable.insertRule on (.system place seed state) s.handles = s.handles := insertRule_found (handle_find standing)
  rw [onMachine_run standing ran, sheets, handles]

theorem Stored.carry (stored : Stored s) {later : Store} {m : Machine} (grown : Extends s.store later)
    (kept : Kept later m.sheet) (held : Locked later m.seed ∧ Free later m.state) (fresh : s.store.size ≤ m.state) (on : Text) (place : Nat) :
    Stored ⟨later, s.sheets.setIfInBounds place m.sheet, RuleTable.insertRule on (.system place m.seed m.state) s.handles⟩ ∧
      Session.ledger ⟨later, s.sheets.setIfInBounds place m.sheet, RuleTable.insertRule on (.system place m.seed m.state) s.handles⟩ =
        s.ledger.putSystem on place (m.system later) := by
  obtain ⟨grows, same⟩ := stored.growSheet grown kept place
  have behind (other : Nat) (here : stateAt (.system place m.seed m.state) = some other) : s.store.size ≤ other := by
    cases here
    exact fresh
  obtain ⟨binds, bound⟩ := grows.bindHandle on (.system place m.seed m.state) held (stored.unshared behind on)
  exact ⟨binds, bound.trans (by rw [same]; rfl)⟩

theorem onMachine_none {α : Type} (r : Routine (Store × Machine) α) {failure : Failure} (none_ : s.ledger.system on = .error failure) :
    onMachine on r s = (.error failure, s) := by
  rw [Ledger.system, entry_handle] at none_
  cases standing : s.handle on with
  | error other =>
    rw [standing] at none_
    cases none_
    simp only [onMachine, run_bind, run_get, run_lift, standing]
  | ok h =>
    rw [standing] at none_
    cases h with
    | table =>
      cases none_
      simp only [onMachine, run_bind, run_get, run_lift, standing, run_throw]
    | system => cases none_

theorem system_handle {found : Derivation} (standing : s.ledger.system on = .ok (place, found)) : ∃ seed state,
    s.handle on = .ok (.system place seed state) ∧ found = Machine.system ⟨s.sheetAt place, seed, state⟩ s.store := by
  have named := standing
  rw [Ledger.system, entry_handle] at standing
  cases handled : s.handle on with
  | error failure =>
    rw [handled] at standing
    cases standing
  | ok h =>
    rw [handled] at standing
    cases h with
    | table => cases standing
    | system other seed state =>
      obtain ⟨rfl, rfl⟩ := Prod.mk.inj (Except.ok.inj ((handle_system handled).symm.trans named))
      exact ⟨seed, state, rfl, rfl⟩

/-- Changing a system on its tapes. -/
theorem refines_changeSystem (stored : Stored s) (on : Text) (change : Derivation → Except Failure Derivation)
    (r : Routine (Store × Machine) Unit) (follows : ∀ {place seed state}, s.handle on = .ok (.system place seed state) →
      Follows s.store ⟨s.sheetAt place, seed, state⟩ (change (Machine.system ⟨s.sheetAt place, seed, state⟩ s.store))
        (r (s.store, ⟨s.sheetAt place, seed, state⟩))) :
    Refines s (s.ledger.changeSystem on change) ((do onMachine on r; stateAnswer on : Routine Session Answer) s) := by
  rw [Ledger.changeSystem, run_bind]
  cases standing : s.ledger.system on with
  | error failure =>
    rw [onMachine_none r standing]
    exact .error stored rfl
  | ok named =>
    obtain ⟨place, found⟩ := named
    obtain ⟨seed, state, handled, rfl⟩ := system_handle standing
    have changes := follows handled
    rw [ok_bind]
    dsimp only
    generalize running : r (s.store, ⟨s.sheetAt place, seed, state⟩) = run at changes
    generalize change (Machine.system ⟨s.sheetAt place, seed, state⟩ s.store) = result at changes ⊢
    cases changes with
    | error =>
      rw [onMachine_same handled running]
      exact .error stored rfl
    | @ok later next grown kept seedLocked stateFree fresh =>
      obtain ⟨carries, put⟩ := stored.carry grown kept ⟨seedLocked, stateFree⟩ fresh on place
      have stands := putSystem_system s.ledger on place (next.system later)
      rw [← put] at stands
      rw [onMachine_run handled running]
      dsimp only
      rw [stateAnswer_run stands]
      exact .answer carries put

theorem refines_writeState (stored : Stored s) (on : Text) (index symbol : Int) :
    Refines s (s.ledger.perform (.writeState on index symbol)) (perform (.writeState on index symbol) s) := by
  rw [Ledger.perform, Ledger.changeSystem, perform, run_bind]
  cases standing : s.ledger.system on with
  | error failure =>
    rw [onMachine_none _ standing]
    exact .error stored rfl
  | ok named =>
    obtain ⟨place, found⟩ := named
    obtain ⟨seed, state, handled, rfl⟩ := system_handle standing
    have ran := writeState_run (m := ⟨s.sheetAt place, seed, state⟩) (stored.system_held handled).2 index symbol
    rw [ok_bind]
    dsimp only [Machine.system] at ran ⊢
    cases written : Store.written (s.store.symbols state) index symbol with
    | error failure =>
      rw [written] at ran
      rw [onMachine_same handled ran]
      exact .error stored rfl
    | ok symbols =>
      rw [written] at ran
      obtain ⟨writes, same⟩ := stored.write handled symbols
      have stands := putSystem_system s.ledger on place ⟨s.ledger.tableAt place, s.store.symbols seed, symbols⟩
      rw [← same] at stands
      rw [onMachine_same handled ran]
      dsimp only
      rw [stateAnswer_run stands, ← tableAt_sheet]
      exact .answer writes same

theorem refines_writeSeed (stored : Stored s) (on : Text) (index symbol : Int) :
    Refines s (s.ledger.perform (.writeSeed on index symbol)) (perform (.writeSeed on index symbol) s) := by
  rw [Ledger.perform, perform, run_bind]
  cases standing : s.ledger.system on with
  | error failure =>
    rw [onMachine_none _ standing]
    exact .error stored rfl
  | ok named =>
    obtain ⟨place, found⟩ := named
    obtain ⟨seed, state, handled, rfl⟩ := system_handle standing
    have ran : Machine.write Machine.seed index symbol (s.store, ⟨s.sheetAt place, seed, state⟩) =
        (.error .readOnly, (s.store, ⟨s.sheetAt place, seed, state⟩)) := by
      simp only [Machine.write, run_bind, run_get, run_beside, write_locked (stored.system_held handled).1]
    rw [onMachine_same handled ran]
    exact .error stored rfl

theorem refines_writeRule (stored : Stored s) (on : Text) (key : Value) (index symbol : Int) :
    Refines s (s.ledger.perform (.writeRule on key index symbol)) (perform (.writeRule on key index symbol) s) := by
  rw [Ledger.perform, Ledger.table]
  simp only [perform, run_bind, run_get, run_lift, Session.placeOf]
  cases s.ledger.placeOf on with
  | error failure => exact .error stored rfl
  | ok place =>
    rw [ok_bind, tableAt_sheet]
    dsimp only [pure, Except.pure]
    rw [ok_bind]
    rcases place_locked (stored.sheetAt_kept place) key with ⟨failure, unplaced, missing⟩ | ⟨there, placed, locked, got⟩
    · rw [unplaced, missing]
      exact .error stored rfl
    · rw [placed, got]
      simp only [onStore_run, write_locked locked]
      exact .error stored rfl

end

/-! ### Main statements -/

theorem perform_refines (stored : Stored s) (coherent : Coherent s.ledger) (action : Session.Action) :
    Refines s (s.ledger.perform action) (perform action s) := by
  cases action with
  | newTable id rules => exact refines_newTable stored id rules
  | copyTable on id => exact refines_copyTable stored on id
  | newSystem id seed rules => exact refines_newSystem stored id seed rules
  | newSystemOn id on seed => exact refines_newSystemOn stored id on seed
  | set on key replacement =>
    rw [Ledger.perform]
    exact refines_changeTable stored coherent on _ (Sheet.set key replacement) fun kept => set_mirrors kept key replacement
  | erase on key =>
    rw [Ledger.perform]
    exact refines_changeTable stored coherent on _ (Sheet.erase key) fun kept => erase_mirrors kept key
  | apply on sequence =>
    rw [Ledger.perform, perform]
    simp only [run_bind, run_get, run_lift, Session.placeOf]
    cases standing : s.ledger.placeOf on with
    | error failure =>
      rw [Ledger.produceBy, standing]
      exact .error stored rfl
    | ok place =>
      exact refines_produceBy stored coherent standing sequence RuleTable.apply Sheet.apply fun kept current _ =>
        apply_rewrites kept current (Nat.zero_le _) _
  | expand on sequence generations =>
    rw [Ledger.perform, perform, run_bind, run_lift]
    cases generationCount generations with
    | error failure => exact .error stored rfl
    | ok n =>
      simp only [run_bind, run_get, run_lift, Session.ownPlaceOf]
      cases own : s.ledger.ownPlaceOf on with
      | error failure => exact .error stored rfl
      | ok place =>
        have standing : s.ledger.placeOf on = .ok place := bind_ok.mpr ⟨_, ownPlaceOf_entry own, rfl⟩
        exact refines_produceBy stored coherent standing sequence (fun t => t.expand n) (Sheet.expand n) fun kept current free =>
          expand_run kept current free (Nat.zero_le _) (Nat.zero_le _) n
  | evaluate on generations =>
    rw [Ledger.perform]
    refine refines_changeSystem stored on _ (Machine.evaluate generations) fun {place seed state} handled => ?_
    exact evaluate_follows (stored.sheetAt_kept place) (stored.system_held handled).1
      (tableAt_sheet s place ▸ tableAt_current coherent place) generations
  | reset on =>
    rw [Ledger.perform]
    refine refines_changeSystem stored on _ Machine.reset fun {place seed state} handled => ?_
    exact reset_follows (stored.sheetAt_kept place) (stored.system_held handled).1
  | writeState on index symbol => exact refines_writeState stored on index symbol
  | writeSeed on index symbol => exact refines_writeSeed stored on index symbol
  | writeRule on key index symbol => exact refines_writeRule stored on key index symbol
  | get | contains | keys | rules | expandedLength | size | shown | state | seed | stateText =>
    rw [Ledger.perform, perform]
    exact refines_reading stored _

/-- A session as steps leave it: what it holds stands where it should, and its tables remember no index but theirs. -/
structure Sound (s : Session) : Prop where
  stored : Stored s
  coherent : Coherent s.ledger

theorem empty_ledger : Session.empty.ledger = Ledger.empty := by
  rw [Session.ledger, Session.empty, Array.map_empty]
  rfl

theorem empty_sound : Sound Session.empty where
  stored := {
    sheets := fun _ member => nomatch member
    handles := List.forall_mem_nil _
    distinct := List.nodup_nil
    apart := List.forall_mem_nil _ }
  coherent := empty_ledger ▸ empty_coherent

/-- A step leaves what the ledger leaves, and answers what the ledger answers. -/
theorem step_refines (sound : Sound s) (action : Session.Action) :
    Sound (s.step action).1 ∧ ((s.step action).1.ledger, (s.step action).2) = s.ledger.step action := by
  have refines := perform_refines sound.stored sound.coherent action
  have coherent := step_coherent sound.coherent action
  rw [Ledger.step] at coherent ⊢
  rw [Session.step]
  generalize perform action s = run at refines ⊢
  generalize s.ledger.perform action = result at refines coherent ⊢
  cases refines with
  | ok stored => exact ⟨⟨stored, coherent⟩, rfl⟩
  | error stored same => exact ⟨⟨stored, same ▸ coherent⟩, by rw [same]⟩

theorem step_sound (sound : Sound s) (action : Session.Action) : Sound (s.step action).1 := (step_refines sound action).1

theorem step_ledger (sound : Sound s) (action : Session.Action) : (s.step action).1.ledger = (s.ledger.step action).1 :=
  congrArg Prod.fst (step_refines sound action).2

theorem step_answer (sound : Sound s) (action : Session.Action) : (s.step action).2 = (s.ledger.step action).2 :=
  congrArg Prod.snd (step_refines sound action).2

theorem withSystem_refines {α : Type} (sound : Sound s) (on : Text) (process : Derivation → Derivation × Except Failure α)
    (current : ∀ found, Current found.rules → Current (process found).1.rules) :
    Sound (s.withSystem on process).1 ∧
      ((s.withSystem on process).1.ledger, (s.withSystem on process).2) = s.ledger.withSystem on process := by
  rw [Session.withSystem, Session.system, Ledger.withSystem]
  cases standing : s.ledger.system on with
  | error failure => exact ⟨sound, rfl⟩
  | ok named =>
    obtain ⟨place, found⟩ := named
    obtain ⟨seed, state, handled, rfl⟩ := system_handle standing
    have former := tableAt_current sound.coherent place
    rw [tableAt_sheet] at former
    have keeps := current (Machine.system ⟨s.sheetAt place, seed, state⟩ s.store) former
    dsimp only
    generalize process (Machine.system ⟨s.sheetAt place, seed, state⟩ s.store) = processed at keeps ⊢
    obtain ⟨later, m, ran, grown, kept, held, fresh, became⟩ := become_run ⟨s.sheetAt place, seed, state⟩ processed.1 s.store
    obtain ⟨carries, put⟩ := sound.stored.carry grown kept held fresh on place
    rw [became] at put
    rw [onMachine_run handled ran]
    exact ⟨⟨carries, put ▸ putSystem_coherent sound.coherent standing keeps⟩, by rw [put]⟩

end Lindenmayer.Storing
