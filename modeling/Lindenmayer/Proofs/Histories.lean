import Lindenmayer.Proofs.Displays
import Lindenmayer.Proofs.Events

/-!
Tables as ordered maps. A chronicle follows what is done in a session by the actions alone, without tables: it says
which names stand for which tables, and gives each table a history, from the rules that it was made of through the
edits that were addressed to it since (`Chronicle`). The tables that the session has are those of the chronicle
(`chronicle_tells`). So no symbol is in a table twice, the symbols stand in the order in which they were put, and
however a table is read, by its keys, its rules or what is shown of it, it is one map (`tables_ordered`). A number
that is no symbol is not there, but to ask for one that has too many digits fails (`long_number_fails`).
-/
namespace Lindenmayer.Histories
open Outcomes Conversion Keys Displays Ledgers Storing Effects Events RuleTable Index

/-! ### Chronicles -/

/-- What a name stands for: a table by itself, or a system with its table. -/
inductive Standing where
  | table (place : Nat)
  | system (place : Nat)
deriving DecidableEq

/-- The place of the table that a name stands for. -/
def Standing.place : Standing → Nat
  | .table place | .system place => place

/-- What was done in a session: the history of each table that was made, and what the names stand for. -/
structure Chronicle where
  histories : List (List Event)
  names : Text → Option Standing

namespace Chronicle

/-- The chronicle of a session in which nothing was done. -/
def empty : Chronicle := ⟨[], fun _ => none⟩

/-- The history of the table at a place. -/
def history (c : Chronicle) (place : Nat) : List Event := c.histories.getD place []

/-- The place of the table that a name stands for by itself. -/
def own (c : Chronicle) (on : Text) : Option Nat :=
  match c.names on with
  | some (.table place) => some place
  | _ => none

/-- A name is given. -/
def give (c : Chronicle) (id : Text) (standing : Standing) : Chronicle :=
  { c with names := fun name => if id = name then some standing else c.names name }

/-- A table is made and has a history from the start. -/
def make (c : Chronicle) (history : List Event) : Chronicle := { c with histories := c.histories ++ [history] }

/-- An edit befalls the table that a name stands for, if it is an event. -/
def befall (c : Chronicle) (on : Text) (event : Option Event) : Chronicle :=
  match c.names on with
  | some standing => { c with histories := c.histories.modify standing.place (· ++ event.toList) }
  | none => c

/-- What an action adds. Where a value gives no rules or no sequence, or a name does not stand for what it should,
    the action fails and adds nothing. A copy has the history of what it is copied from. -/
def act (c : Chronicle) (action : Session.Action) : Chronicle :=
  match action with
  | .newTable id rules =>
    match given rules with
    | some events => (c.make events).give id (.table c.histories.length)
    | none => c
  | .copyTable on id =>
    match c.own on with
    | some place => (c.make (c.history place)).give id (.table c.histories.length)
    | none => c
  | .newSystem id seed rules =>
    match given rules, (Sequence.ofValue seed).toOption with
    | some events, some _ => (c.make events).give id (.system c.histories.length)
    | _, _ => c
  | .newSystemOn id on seed =>
    match c.own on, (Sequence.ofValue seed).toOption with
    | some place, some _ => c.give id (.system place)
    | _, _ => c
  | action =>
    match editOf action with
    | some (on, edit) => c.befall on (Event.ofEdit edit)
    | none => c

end Chronicle

/-- What an entry is as a standing. -/
def standing : Session.Entry → Standing
  | .table place => .table place
  | .system place _ _ => .system place

/-- A chronicle tells what is in a ledger: its tables with their rules, and what its names stand for. -/
structure Tells (c : Chronicle) (l : Ledger) : Prop where
  size : l.tables.size = c.histories.length
  names : ∀ name, (l.entry name).toOption.map standing = c.names name
  contents : ∀ place, (l.tableAt place).rules = (c.history place).foldl Event.on []

/-! ### What a step tells -/

section
variable {c : Chronicle} {l next : Ledger}

theorem empty_tells : Tells .empty Ledger.empty where
  size := rfl
  names _ := rfl
  contents _ := rfl

theorem Tells.placed (tells : Tells c l) {on : Text} {place : Nat} (found : l.placeOf on = .ok place) :
    ∃ stands, c.names on = some stands ∧ stands.place = place := by
  obtain ⟨e, entered, same⟩ := placeOf_entry found
  refine ⟨standing e, ?_, ?_⟩
  · rw [← tells.names, entered]
    rfl
  · rw [← same]
    cases e with
    | table | system => rfl

theorem Tells.unplaced (tells : Tells c l) {on : Text} {failure : Failure} (unknown : l.placeOf on = .error failure) :
    c.names on = none := by
  rw [← tells.names]
  rcases bind_error.mp unknown with missing | ⟨e, _, impossible⟩
  · rw [missing]
    rfl
  · cases e with
    | table | system => cases impossible

theorem Tells.own (tells : Tells c l) (on : Text) : (l.ownPlaceOf on).toOption = c.own on := by
  rw [Chronicle.own, ← tells.names, Ledger.ownPlaceOf]
  cases l.entry on with
  | error failure => rfl
  | ok e =>
    cases e with
    | table | system => rfl

theorem history_make (c : Chronicle) (events : List Event) (place : Nat) :
    (c.make events).history place = if place = c.histories.length then events else c.history place := by
  rw [Chronicle.history, Chronicle.make, Chronicle.history, List.getD_eq_getElem?_getD, List.getD_eq_getElem?_getD,
    List.getElem?_append]
  by_cases inside : place < c.histories.length
  · rw [if_pos inside, if_neg (Nat.ne_of_lt inside)]
  · rw [if_neg inside, List.getElem?_eq_none (Nat.le_of_not_lt inside)]
    by_cases last : place = c.histories.length
    · simp [last]
    · have further : place - c.histories.length ≠ 0 := by omega
      simp [last, further]

theorem Tells.make (tells : Tells c l) {t : RuleTable} {events : List Event} (same : t.rules = events.foldl Event.on []) :
    Tells (c.make events) (l.addTable t).1 where
  size := by
    rw [Ledger.addTable, Array.size_push, tells.size, Chronicle.make, List.length_append]
    rfl
  names := tells.names
  contents place := by
    rw [history_make, ← tells.size]
    rw [tableAt_addTable]
    by_cases last : place = l.tables.size
    · rw [if_pos last, if_pos last, same]
    · rw [if_neg last, if_neg last, tells.contents]

theorem Tells.give (tells : Tells c l) (id : Text) (e : Session.Entry) : Tells (c.give id (standing e)) (l.bind id e) where
  size := tells.size
  names name := by
    rw [entry_bind, Chronicle.give]
    dsimp only
    by_cases here : id = name
    · rw [if_pos here, if_pos here]
      rfl
    · rw [if_neg here, if_neg here]
      exact tells.names name
  contents := tells.contents

theorem history_modify (c : Chronicle) (place other : Nat) (more : List Event) :
    Chronicle.history { c with histories := c.histories.modify place (· ++ more) } other =
      if place = other ∧ place < c.histories.length then c.history other ++ more else c.history other := by
  rw [Chronicle.history, Chronicle.history, List.getD_eq_getElem?_getD, List.getD_eq_getElem?_getD, List.getElem?_modify]
  by_cases here : place = other
  · subst here
    by_cases inside : place < c.histories.length
    · simp [inside]
    · simp [inside]
  · simp [here]

/-- Whether an edit fails or not, the table that it addresses has the rules that its event leaves, and the others have
    theirs. -/
theorem edit_left {action : Session.Action} {on : Text} {edit : Edit} {place : Nat} (edits : editOf action = some (on, edit))
    (found : l.placeOf on = .ok place) (inside : place < l.tables.size) (other : Nat) :
    ((l.step action).1.tableAt other).rules =
      if place = other then (Event.ofEdit edit).toList.foldl Event.on (l.tableAt other).rules else (l.tableAt other).rules := by
  have replayed := replay_event (l.tableAt place).rules edit
  rw [replay, change_rules] at replayed
  rw [step_edit edits found]
  cases changed : edit.change (l.tableAt place) with
  | ok t =>
    rw [changed] at replayed
    dsimp only at replayed ⊢
    rw [tableAt_putTable]
    by_cases here : place = other
    · rw [if_pos ⟨here, inside⟩, if_pos here, ← here, replayed]
    · rw [if_neg (fun both => here both.1), if_neg here]
  | error failure =>
    rw [changed] at replayed
    dsimp only at replayed ⊢
    by_cases here : place = other
    · rw [if_pos here, ← here, ← replayed]
    · rw [if_neg here]

theorem edit_kept {action : Session.Action} {on : Text} {edit : Edit} {place : Nat} (edits : editOf action = some (on, edit))
    (found : l.placeOf on = .ok place) :
    (l.step action).1.tables.size = l.tables.size ∧ (l.step action).1.names = l.names := by
  rw [step_edit edits found]
  cases edit.change (l.tableAt place) with
  | ok t => exact ⟨Array.size_setIfInBounds .., rfl⟩
  | error failure => exact ⟨rfl, rfl⟩

/-- An edit befalls the table that it addresses. Where its name stands for nothing it fails. -/
theorem Tells.edit (tells : Tells c l) (coherent : Coherent l) {action : Session.Action} {on : Text} {edit : Edit}
    (edits : editOf action = some (on, edit)) : Tells (c.befall on (Event.ofEdit edit)) (l.step action).1 := by
  rw [Chronicle.befall]
  cases found : l.placeOf on with
  | error failure =>
    have failed : l.perform action = .error failure := by
      rw [perform_edit edits, Ledger.changeTable, found]
      rfl
    rw [step_error failed, tells.unplaced found]
    exact tells
  | ok place =>
    obtain ⟨stands, named, rfl⟩ := tells.placed found
    have inside := placed_inside coherent found
    obtain ⟨size, names⟩ := edit_kept edits found
    rw [named]
    exact {
      size := by rw [size, tells.size, List.length_modify]
      names := fun name => by
        rw [Ledger.entry, names]
        exact tells.names name
      contents := fun other => by
        rw [edit_left edits found inside, history_modify, ← tells.size, tells.contents]
        by_cases here : stands.place = other
        · rw [if_pos here, if_pos ⟨here, inside⟩, List.foldl_append]
        · rw [if_neg here, if_neg (fun both => here both.1)] }

theorem move_size {action : Session.Action} (move : Move l action next) (unnamed : givenName action = none) :
    next.tables.size = l.tables.size := by
  cases move with
  | stay | share => rfl
  | name given =>
    rw [unnamed] at given
    cases given
  | change | rewrite | go => exact Array.size_setIfInBounds ..

theorem lasting_standing {former later : Except Failure Session.Entry} (same : lasting <$> later = lasting <$> former) :
    later.toOption.map standing = former.toOption.map standing := by
  have through (e : Session.Entry) : standing e = ((lasting e).2.elim Standing.table fun _ => Standing.system) (lasting e).1 := by
    cases e with
    | table | system => rfl
  cases former with
  | error failure =>
    cases later with
    | error other => rfl
    | ok e => cases same
  | ok e =>
    cases later with
    | error other => cases same
    | ok e' =>
      have same : lasting e' = lasting e := Except.ok.inj same
      change some (standing e') = some (standing e)
      rw [through, through, same]

theorem tableAt_beyond {place : Nat} (beyond : l.tables.size ≤ place) : l.tableAt place = .empty := by
  rw [Ledger.tableAt, Array.getD_eq_getD_getElem?, Array.getElem?_eq_none beyond]
  rfl

/-- What gives no name and makes no edit tells nothing. -/
theorem Tells.stay (tells : Tells c l) {action : Session.Action} (unnamed : givenName action = none)
    (unedited : editOf action = none) (move : Move l action next) : Tells c next where
  size := (move_size move unnamed).trans tells.size
  names name := by
    have former : footprint action ≠ .name name := fun given => by
      rw [footprint_name given] at unnamed
      cases unnamed
    rw [← tells.names]
    rcases move_entry move former with same | ⟨_, same⟩
    · rw [same]
    · exact lasting_standing same
  contents place := by
    rw [← tells.contents]
    by_cases inside : place < l.tables.size
    · refine (move_contents move inside).resolve_right ?_
      rintro ⟨on, key, _, ⟨replacement, rfl⟩ | rfl⟩
      · cases unedited
      · cases unedited
    · have beyond : l.tables.size ≤ place := Nat.le_of_not_lt inside
      rw [tableAt_beyond beyond, tableAt_beyond (move_size move unnamed ▸ beyond)]

theorem Tells.newTable (tells : Tells c l) (id : Text) (rules : Value) :
    Tells (c.act (.newTable id rules)) (l.step (.newTable id rules)).1 := by
  have made := ofValue_given rules
  rw [Chronicle.act]
  cases built : RuleTable.ofValue rules with
  | error failure =>
    have failed : l.perform (.newTable id rules) = .error failure := by
      rw [Ledger.perform, built]
      rfl
    rw [built] at made
    rw [step_error failed, Option.map_eq_none_iff.mp made.symm]
    exact tells
  | ok t =>
    rw [built] at made
    obtain ⟨events, gives, same⟩ := Option.map_eq_some_iff.mp made.symm
    have performed : l.perform (.newTable id rules) =
        .ok ((l.addTable t).1.bind id (.table l.tables.size), .table t.rules) := bind_ok.mpr ⟨t, built, rfl⟩
    rw [step_ok performed, gives, ← tells.size]
    exact (tells.make same.symm).give id (.table l.tables.size)

theorem Tells.copyTable (tells : Tells c l) (on id : Text) :
    Tells (c.act (.copyTable on id)) (l.step (.copyTable on id)).1 := by
  have own := tells.own on
  rw [Chronicle.act]
  cases found : l.ownPlaceOf on with
  | error failure =>
    have failed : l.perform (.copyTable on id) = .error failure := by
      rw [Ledger.perform, found]
      rfl
    rw [found] at own
    rw [step_error failed, ← own]
    exact tells
  | ok place =>
    -- A copy takes the rules one by one, and keeps them all because no symbol has two.
    have distinct := (left_recorded (c.history place)).distinct
    rw [← tells.contents] at distinct
    have copies : (l.tableAt place).copy = ⟨(l.tableAt place).rules, none⟩ := ofRules_distinct distinct
    have performed : l.perform (.copyTable on id) =
        .ok ((l.addTable (l.tableAt place).copy).1.bind id (.table l.tables.size), .table (l.tableAt place).copy.rules) :=
      bind_ok.mpr ⟨place, found, rfl⟩
    rw [found] at own
    have made : Tells (c.make (c.history place)) (l.addTable ⟨(l.tableAt place).rules, none⟩).1 := tells.make (tells.contents place)
    rw [step_ok performed, ← own, ← tells.size, copies]
    exact made.give id (.table l.tables.size)

theorem Tells.newSystem (tells : Tells c l) (id : Text) (seed rules : Value) :
    Tells (c.act (.newSystem id seed rules)) (l.step (.newSystem id seed rules)).1 := by
  have made := ofValue_given rules
  rw [Chronicle.act]
  cases built : RuleTable.ofValue rules with
  | error failure =>
    have failed : l.perform (.newSystem id seed rules) = .error failure := by
      rw [Ledger.perform, Derivation.ofValues, built]
      rfl
    rw [built] at made
    rw [step_error failed, Option.map_eq_none_iff.mp made.symm]
    exact tells
  | ok t =>
    rw [built] at made
    obtain ⟨events, gives, same⟩ := Option.map_eq_some_iff.mp made.symm
    cases read : Sequence.ofValue seed with
    | error failure =>
      have failed : l.perform (.newSystem id seed rules) = .error failure := by
        rw [Ledger.perform, Derivation.ofValues, built, read]
        rfl
      rw [step_error failed, gives]
      exact tells
    | ok sequence =>
      have performed : l.perform (.newSystem id seed rules) =
          .ok ((l.addTable t).1.bind id (.system l.tables.size sequence sequence), .sequence sequence) :=
        bind_ok.mpr ⟨.start t sequence, bind_ok.mpr ⟨t, built, bind_ok.mpr ⟨sequence, read, rfl⟩⟩, rfl⟩
      rw [step_ok performed, gives, ← tells.size]
      exact (tells.make same.symm).give id (.system l.tables.size sequence sequence)

theorem Tells.newSystemOn (tells : Tells c l) (id on : Text) (seed : Value) :
    Tells (c.act (.newSystemOn id on seed)) (l.step (.newSystemOn id on seed)).1 := by
  have own := tells.own on
  rw [Chronicle.act]
  cases found : l.ownPlaceOf on with
  | error failure =>
    have failed : l.perform (.newSystemOn id on seed) = .error failure := by
      rw [Ledger.perform, found]
      rfl
    rw [found] at own
    rw [step_error failed, ← own]
    exact tells
  | ok place =>
    rw [found] at own
    cases read : Sequence.ofValue seed with
    | error failure =>
      have failed : l.perform (.newSystemOn id on seed) = .error failure := by
        rw [Ledger.perform, found, read]
        rfl
      rw [step_error failed, ← own]
      exact tells
    | ok sequence =>
      have performed : l.perform (.newSystemOn id on seed) = .ok (l.bind id (.system place sequence sequence), .sequence sequence) :=
        bind_ok.mpr ⟨place, found, bind_ok.mpr ⟨sequence, read, rfl⟩⟩
      rw [step_ok performed, ← own]
      exact tells.give id (.system place sequence sequence)

/-- A step adds to the chronicle of a ledger what its action says. -/
theorem step_tells (coherent : Coherent l) (tells : Tells c l) (action : Session.Action) : Tells (c.act action) (l.step action).1 := by
  cases action with
  | newTable id rules => exact tells.newTable id rules
  | copyTable on id => exact tells.copyTable on id
  | newSystem id seed rules => exact tells.newSystem id seed rules
  | newSystemOn id on seed => exact tells.newSystemOn id on seed
  | set | erase => exact tells.edit coherent rfl
  | _ => exact tells.stay rfl rfl (step_move coherent _)

end

/-! ### Sessions -/

section
variable {K : Type} [Scalar K]

/-- What a deed adds. Tracing a system changes its state alone. -/
def Chronicle.note (c : Chronicle) : Deed K → Chronicle
  | .act action => c.act action
  | .trace _ _ => c

/-- The chronicle of deeds, one after the other. -/
def chronicle (deeds : List (Deed K)) : Chronicle := deeds.foldl Chronicle.note .empty

theorem did_tells {s : Session} {c : Chronicle} (sound : Sound s) (tells : Tells c s.ledger) (deed : Deed K) :
    Tells (c.note deed) (did s deed).ledger := by
  cases deed with
  | act action =>
    rw [did, step_ledger sound]
    exact step_tells sound.coherent tells action
  | trace on o =>
    have ledger : (did s (.trace on o)).ledger = (s.ledger.withSystem on (·.trace o)).1 := congrArg Prod.fst (trace_refines sound on o).2
    rw [ledger]
    exact tells.stay rfl rfl (trace_move sound.coherent on o)

/-- What deeds leave in a session is what their chronicle tells. -/
theorem chronicle_tells (deeds : List (Deed K)) : Tells (chronicle deeds) (after Session.empty deeds).ledger := by
  induction deeds using List.reverseRecOn with
  | nil => exact empty_ledger ▸ empty_tells
  | append_singleton before deed ih =>
    rw [chronicle, after, List.foldl_append, List.foldl_append]
    exact did_tells (after_sound empty_sound before) ih deed

theorem chronicle_recorded (deeds : List (Deed K)) (place : Nat) :
    Recorded ((chronicle deeds).history place) ((after Session.empty deeds).tableAt place).rules := by
  rw [Session.tableAt, (chronicle_tells deeds).contents]
  exact left_recorded _

end

/-! ### Main statements -/

/-- However a table is read, it is one map: its keys are all different, what is counted, iterated and shown is what
    they are looked up to be, and no two of them are shown as the same key. -/
structure Listed (t : RuleTable) : Prop where
  distinct : t.keys.Nodup
  size : t.size = t.keys.length
  rules : t.rules = t.keys.filterMap fun s => (t.get? s).map fun replacement => (s, replacement)
  shown : t.display = t.keys.filterMap fun s => (t.get? s).map fun replacement => (s.display, replacement.display)
  apart : dictionary t.display = t.display

/-- How keys are looked up: a symbol is the same key however it is named, a key is there just if it has a
    replacement, and what names no symbol is not there, unless messages cannot show it, where asking for it fails. -/
structure Looked (t : RuleTable) : Prop where
  alike : ∀ key other s, Names key s → Names other s → t.get key = t.get other ∧ t.contains key = t.contains other ∧
    t.erase key = t.erase other ∧ ∀ given, t.set key given = t.set other given
  held : ∀ key replacement, t.get key = .ok replacement ↔ ∃ s, Names key s ∧ (s, replacement) ∈ t.rules
  found : ∀ key, t.contains key = .ok true ↔ ∃ replacement, t.get key = .ok replacement
  texts : ∀ key text, key.plain = .text text → text.length ≠ 1 → t.contains key = .ok false
  flags : ∀ key b, key.plain = .bool b → t.contains key = .ok false
  numbers : ∀ key n, key.plain = .int n → n < 0 ∨ 0xFFFFFFFF < n →
    t.contains key = if n.natAbs < Nat.pow 10 Text.digitLimit then .ok false else .error .tooManyDigits
  fails : ∀ key failure, t.contains key = .error failure ↔
    failure = .tooManyDigits ∧ (∀ s, ¬ Names key s) ∧ key.showable = false

/-- What comes of the edits of a table: a new key goes to the end and a key that is there keeps its place, and the
    replacement of this key alone is another; an erased key is gone, and goes to the end when it is set again. -/
structure Changed (t : RuleTable) : Prop where
  sets : ∀ key given after, t.set key given = .ok after ↔
    ∃ s replacement, Names key s ∧ Spells given replacement ∧ after = t.insert s replacement
  erases : ∀ key after, t.erase key = .ok after ↔ ∃ s ∈ t.keys, Names key s ∧ after = t.remove s
  kept : ∀ s replacement, s ∈ t.keys → (t.insert s replacement).keys = t.keys
  added : ∀ s replacement, s ∉ t.keys → (t.insert s replacement).keys = t.keys ++ [s]
  inserted : ∀ s replacement k, (t.insert s replacement).get? k = if s = k then some replacement else t.get? k
  removed : ∀ s k, (t.remove s).get? k = if s = k then none else t.get? k
  left : ∀ s, (t.remove s).keys = t.keys.filter (· != s)
  again : ∀ s replacement, ((t.remove s).insert s replacement).keys = t.keys.filter (· != s) ++ [s]

theorem rules_listed {rules : List (Symbol × Sequence)} (distinct : (rules.map Prod.fst).Nodup) :
    rules = (rules.map Prod.fst).filterMap fun s => (replacement? rules s).map fun replacement => (s, replacement) := by
  have each : ∀ rule ∈ rules, (replacement? rules rule.1).map (fun replacement => (rule.1, replacement)) = some rule :=
    fun rule member => by rw [(replacement?_mem distinct).mpr member, Option.map_some]
  rw [List.filterMap_map]
  exact ((List.filterMap_congr each).trans List.filterMap_some).symm

theorem table_listed {t : RuleTable} (distinct : t.keys.Nodup) : Listed t where
  distinct := distinct
  size := (List.length_map Prod.fst).symm
  rules := rules_listed distinct
  shown := by
    rw [display, rules_listed distinct, List.map_filterMap]
    refine List.filterMap_congr fun s _ => ?_
    rw [Option.map_map]
    rfl
  apart := dictionary_display distinct

theorem contains_hidden {t : RuleTable} {key : Value} {failure : Failure} : t.contains key = .error failure ↔
    failure = .tooManyDigits ∧ (∀ s, ¬ Names key s) ∧ key.showable = false := by
  constructor
  · intro failed
    have unnamed (s : Symbol) : ¬ Names key s := fun names => by
      rw [contains, symbol_names.mpr names] at failed
      cases failed
    rw [contains_unnamed unnamed] at failed
    cases shown : key.showable with
    | true =>
      rw [shown] at failed
      cases failed
    | false =>
      rw [shown] at failed
      exact ⟨(Except.error.inj failed).symm, unnamed, rfl⟩
  · rintro ⟨rfl, unnamed, hidden⟩
    rw [contains_unnamed unnamed, hidden]
    rfl

theorem table_looked {t : RuleTable} (distinct : t.keys.Nodup) : Looked t where
  alike key other s names also := by
    have first := symbol_names.mpr names
    have second := symbol_names.mpr also
    refine ⟨?_, ?_, ?_, fun given => ?_⟩
    · rw [RuleTable.get, RuleTable.get, first, second]
    · rw [contains, contains, first, second]
    · rw [erase, erase, first, second]
    · rw [RuleTable.set, RuleTable.set, first, second]
  held key replacement := by
    have found (s : Symbol) : t.get? s = some replacement ↔ (s, replacement) ∈ t.rules := replacement?_mem distinct
    simp only [get_ok, found]
  found key := contains_got
  texts key text is notSingle := by
    have unnamed (s : Symbol) : ¬ Names key s := fun names => by
      cases names with
      | character single =>
        cases is.symm.trans single
        exact notSingle rfl
      | number integer => cases is.symm.trans integer
    rw [contains_unnamed unnamed, ← plain_showable, is]
    rfl
  flags key b is := by
    have unnamed (s : Symbol) : ¬ Names key s := fun names => by
      cases names with
      | character single => cases is.symm.trans single
      | number integer => cases is.symm.trans integer
    rw [contains_unnamed unnamed, ← plain_showable, is]
    rfl
  numbers key n is outside := by
    have unnamed (s : Symbol) : ¬ Names key s := fun names => by
      cases names with
      | character single => cases is.symm.trans single
      | number integer =>
        cases is.symm.trans integer
        have below := s.toNat_lt
        omega
    rw [contains_unnamed unnamed, ← plain_showable, is, Value.showable]
    simp only [decide_eq_true_eq]
  fails key failure := contains_hidden

theorem table_changed (t : RuleTable) : Changed t where
  sets key given after := by simp only [set_ok, symbol_names, ofValue_spells]
  erases key after := by simp only [erase_ok, symbol_names]
  kept s replacement member := (keys_insertRule s replacement t.rules).trans (if_pos member)
  added s replacement absent := (keys_insertRule s replacement t.rules).trans (if_neg absent)
  inserted s replacement k := replacement?_insertRule s replacement t.rules k
  removed s k := replacement?_without s t.rules k
  left s := keys_without s t.rules
  again s replacement := by
    have left : (t.remove s).keys = t.keys.filter (· != s) := keys_without s t.rules
    have gone : s ∉ (t.remove s).keys := by simp [left]
    rw [← left]
    exact (keys_insertRule s replacement _).trans (if_neg gone)

/-- A table is an ordered map of the history that it has had, and reads and changes as one. -/
structure Ordered (history : List Event) (t : RuleTable) : Prop where
  recorded : Recorded history t.rules
  listed : Listed t
  looked : Looked t
  changed : Changed t

/-- What deeds leave in a session: the tables that their chronicle says were made, each an ordered map of its history,
    under the names that they were given. -/
structure Told (c : Chronicle) (s : Session) : Prop where
  size : s.tables.size = c.histories.length
  names : ∀ name, (s.entry name).toOption.map standing = c.names name
  ordered : ∀ place, Ordered (c.history place) (s.tableAt place)

/-- Every table that deeds leave in a session, whatever they made it of and however they edited it, with steps that
    fail among them, is the ordered map of its history, and there are no other tables. -/
theorem tables_ordered (K : Type) [Scalar K] (deeds : List (Deed K)) : Told (chronicle deeds) (after Session.empty deeds) where
  size := (chronicle_tells deeds).size
  names := (chronicle_tells deeds).names
  ordered place :=
    have recorded := chronicle_recorded deeds place
    { recorded := recorded
      listed := table_listed recorded.distinct
      looked := table_looked recorded.distinct
      changed := table_changed _ }

/-- A table of three rules, the second in the place of the first, that was copied before it was edited: one rule is set
    anew, one is dropped and put again, and two edits fail. -/
theorem copied_table_ordered :
    let rules : Value := .list [.list [.text [65], .text [66]], .list [.int 65, .text [67]], .list [.text [66], .text []]]
    let deeds : List (Deed Float) := [.act (.newTable [116] rules), .act (.newTable [116] (.list [.text [65]])),
      .act (.copyTable [116] [117]), .act (.erase [116] (.int 65)), .act (.set [116] (.text [66, 66]) (.text [])),
      .act (.set [116] (.text [66]) (.text [65])), .act (.erase [116] (.text [67])), .act (.set [116] (.text [65]) (.list [.int 66]))]
    (after Session.empty deeds).tableAt 0 = ⟨[(66, [65]), (65, [66])], none⟩ ∧
      (after Session.empty deeds).tableAt 1 = ⟨[(65, [67]), (66, [])], none⟩ ∧
      Ordered [.put 65 [66], .put 65 [67], .put 66 [], .drop 65, .put 66 [65], .drop 67, .put 65 [66]]
        ⟨[(66, [65]), (65, [66])], none⟩ ∧
      Ordered [.put 65 [66], .put 65 [67], .put 66 []] ⟨[(65, [67]), (66, [])], none⟩ := by
  intro rules deeds
  have first : (after Session.empty deeds).tableAt 0 = ⟨[(66, [65]), (65, [66])], none⟩ := by decide +kernel
  have second : (after Session.empty deeds).tableAt 1 = ⟨[(65, [67]), (66, [])], none⟩ := by decide +kernel
  have told := tables_ordered Float deeds
  exact ⟨first, second, first ▸ told.ordered 0, second ▸ told.ordered 1⟩

/-- A number that is out of range is not looked up to be absent where it has too many digits. -/
theorem long_number_fails :
    ¬ ∀ (t : RuleTable) (n : Int), n < 0 ∨ 0xFFFFFFFF < n → t.contains (.int n) = .ok false := by
  intro claimed
  have absent := claimed .empty (Nat.pow 10 4300) (.inr (by decide +kernel))
  have looked : Looked .empty := table_looked List.nodup_nil
  have long : ¬ (Nat.pow 10 4300 : Int).natAbs < Nat.pow 10 Text.digitLimit := by decide +kernel
  rw [looked.numbers _ _ rfl (.inr (by decide +kernel)), if_neg long] at absent
  cases absent

end Lindenmayer.Histories
