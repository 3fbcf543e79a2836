import Lindenmayer.Proofs.Keys
import Lindenmayer.Proofs.Rewriting
import Lindenmayer.Session

/-!
Sessions in values. A ledger takes the steps of a session without tapes: tables, seeds and states are values, each step
gives the ledger after it or fails, and one that fails leaves the ledger as it was. The tables remember no index but
that of their rules, and every name stands for a table that is there (`Coherent`); each step keeps this
(`step_coherent`). What a step can do to a ledger is one of a few moves (`Move`, `step_move`), from which follow what
the tables hold after it (`move_contents`) and the seeds that systems keep (`move_seed`); and applying, expanding
and evaluating answer what the rules of the addressed table say (`apply_answer`, `expand_answer`,
`evaluate_answer`).
-/
namespace Lindenmayer

namespace Ledger

/-- The ledger without names. -/
def empty : Ledger := ⟨#[], []⟩

/-- The ledger with a name for an entry. -/
def bind (l : Ledger) (name : Text) (e : Session.Entry) : Ledger :=
  { l with names := RuleTable.insertRule name e l.names }

/-- The ledger with one table more, and the place of it. -/
def addTable (l : Ledger) (t : RuleTable) : Ledger × Nat :=
  ({ l with tables := l.tables.push t }, l.tables.size)

/-- The ledger with another table at a place. -/
def putTable (l : Ledger) (place : Nat) (t : RuleTable) : Ledger :=
  { l with tables := l.tables.setIfInBounds place t }

/-- The ledger with a system, its table at the place, under a name. -/
def putSystem (l : Ledger) (name : Text) (place : Nat) (found : Derivation) : Ledger :=
  (l.putTable place found.rules).bind name (.system place found.seed found.state)

/-- Changes the table that a name stands for and answers it. -/
def changeTable (l : Ledger) (on : Text) (change : RuleTable → Except Failure RuleTable) :
    Except Failure (Ledger × Session.Answer) := do
  let place ← l.placeOf on
  let t ← change (l.tableAt place)
  return (l.putTable place t, .table t.rules)

/-- Produces a sequence by the table that a name stands for and answers it. -/
def produceBy (l : Ledger) (on : Text)
    (produce : RuleTable → Except Failure (Sequence × RuleTable)) :
    Except Failure (Ledger × Session.Answer) := do
  let place ← l.placeOf on
  let (sequence, t) ← produce (l.tableAt place)
  return (l.putTable place t, .sequence sequence)

/-- Changes a system and answers its state. -/
def changeSystem (l : Ledger) (on : Text) (change : Derivation → Except Failure Derivation) :
    Except Failure (Ledger × Session.Answer) := do
  let (place, found) ← l.system on
  let next ← change found
  return (l.putSystem on place next, .sequence next.state)

/-- Answers what is read of a ledger. -/
def reading (l : Ledger) (read : Ledger → Except Failure Session.Answer) : Except Failure (Ledger × Session.Answer) := do
  return (l, ← read l)

/-- What an action does when it does not fail. -/
def perform (l : Ledger) : Session.Action → Except Failure (Ledger × Session.Answer)
  | .newTable id rules => do
    let t ← RuleTable.ofValue rules
    let (l, place) := l.addTable t
    return (l.bind id (.table place), .table t.rules)
  | .copyTable on id => do
    let t := (l.tableAt (← l.ownPlaceOf on)).copy
    let (l, place) := l.addTable t
    return (l.bind id (.table place), .table t.rules)
  | .newSystem id seed rules => do
    let found ← Derivation.ofValues rules seed
    let (l, place) := l.addTable found.rules
    return (l.bind id (.system place found.seed found.state), .sequence found.state)
  | .newSystemOn id on seed => do
    let place ← l.ownPlaceOf on
    let sequence ← Sequence.ofValue seed
    return (l.bind id (.system place sequence sequence), .sequence sequence)
  | .set on key replacement => l.changeTable on (·.set key replacement)
  | .erase on key => l.changeTable on (·.erase key)
  | .get on key => l.reading fun l => do return .sequence (← (← l.table on).get key)
  | .contains on key => l.reading fun l => do return .flag (← (← l.table on).contains key)
  | .keys on => l.reading fun l => do return .symbols (← l.table on).keys
  | .rules on => l.reading fun l => do return .table (← l.table on).rules
  | .apply on sequence => l.produceBy on fun t => do t.apply (← Sequence.ofValue sequence)
  | .expand on sequence generations => do
    let n ← generationCount generations
    let _ ← l.ownPlaceOf on
    l.produceBy on fun t => do t.expand n (← Sequence.ofValue sequence)
  | .expandedLength on sequence generations => l.reading fun l => do
    let n ← generationCount generations
    let t := l.tableAt (← l.ownPlaceOf on)
    return .count (← writable (t.expandedLength n (← Sequence.ofValue sequence)))
  | .size on => l.reading fun l => do
    match ← l.entry on with
    | .table place => return .count (l.tableAt place).size
    | .system _ _ state => return .count state.length
  | .shown on => l.reading fun l => do
    match ← l.entry on with
    | .table place => return .shown (l.tableAt place).shown
    | .system place seed state => return .shown (Derivation.mk (l.tableAt place) seed state).shown
  | .evaluate on generations => l.changeSystem on (·.evaluate generations)
  | .reset on => l.changeSystem on fun found => .ok found.reset
  | .state on => l.reading fun l => do return .sequence (← l.system on).2.state
  | .seed on => l.reading fun l => do return .sequence (← l.system on).2.seed
  | .stateText on => l.reading fun l => do return .text (← (← l.system on).2.stateText)
  | .writeState on index symbol => l.changeSystem on fun found => do
    return { found with state := ← Store.written found.state index symbol }
  | .writeSeed on _ _ => do
    let _ ← l.system on
    .error .readOnly
  | .writeRule on key _ _ => do
    let _ ← (← l.table on).get key
    .error .readOnly

/-- Runs one step: the ledger after it and its answer. One that fails leaves the ledger as it was. -/
def step (l : Ledger) (action : Session.Action) : Ledger × Except Failure Session.Answer :=
  match l.perform action with
  | .ok (next, answer) => (next, .ok answer)
  | .error failure => (l, .error failure)

/-- Gives a named system to a process that may change it whatever comes of it. -/
def withSystem {α : Type} (l : Ledger) (on : Text) (process : Derivation → Derivation × Except Failure α) :
    Ledger × Except Failure α :=
  match l.system on with
  | .error failure => (l, .error failure)
  | .ok (place, found) =>
    let (next, result) := process found
    (l.putSystem on place next, result)

end Ledger

namespace Ledgers
open Outcomes Rewriting Ledger
open Session (Entry Answer)

/-- The place of the table that an entry stands for. -/
def placeIn : Entry → Nat
  | .table place => place
  | .system place _ _ => place

/-- Tables remember no index but their own, and names stand for tables that are there. -/
structure Coherent (l : Ledger) : Prop where
  current : ∀ t ∈ l.tables, Current t
  placed : ∀ named ∈ l.names, placeIn named.2 < l.tables.size

/-! ### Parts of a step -/

theorem empty_coherent : Coherent Ledger.empty := by
  constructor
  · intro t member
    simp [Ledger.empty] at member
  · intro named member
    simp [Ledger.empty] at member

theorem tableAt_current {l : Ledger} (coherent : Coherent l) (place : Nat) : Current (l.tableAt place) := by
  rw [tableAt, Array.getD_eq_getD_getElem?]
  cases found : l.tables[place]? with
  | none => exact current_fresh []
  | some t => exact coherent.current t (Array.mem_of_getElem? found)

theorem addTable_coherent {l : Ledger} {t : RuleTable} (coherent : Coherent l) (current : Current t) :
    Coherent (l.addTable t).1 := by
  constructor
  · intro u member
    rcases Array.mem_push.mp member with former | new
    · exact coherent.current u former
    · exact new ▸ current
  · intro named member
    have inside := coherent.placed named member
    rw [addTable, Array.size_push]
    omega

theorem putTable_coherent {l : Ledger} {t : RuleTable} (coherent : Coherent l) (current : Current t) (place : Nat) :
    Coherent (l.putTable place t) := by
  constructor
  · intro u member
    rcases Array.mem_or_eq_of_mem_setIfInBounds member with former | new
    · exact coherent.current u former
    · exact new ▸ current
  · intro named member
    have inside := coherent.placed named member
    rwa [putTable, Array.size_setIfInBounds]

theorem bind_coherent {l : Ledger} {e : Entry} (coherent : Coherent l) (inside : placeIn e < l.tables.size) (name : Text) :
    Coherent (l.bind name e) := by
  constructor
  · exact coherent.current
  · intro named member
    rcases Keys.mem_insertRule member with new | former
    · exact new ▸ inside
    · exact coherent.placed named former

theorem entry_placed {l : Ledger} {name : Text} {e : Entry} (coherent : Coherent l) (found : l.entry name = .ok e) :
    placeIn e < l.tables.size := by
  rw [entry] at found
  cases standing : l.names.find? (·.1 == name) with
  | none =>
    rw [standing] at found
    cases found
  | some named =>
    rw [standing] at found
    cases found
    exact coherent.placed named (List.mem_of_find?_eq_some standing)

theorem ownPlaceOf_entry {l : Ledger} {on : Text} {place : Nat} (found : l.ownPlaceOf on = .ok place) :
    l.entry on = .ok (.table place) := by
  obtain ⟨e, standing, done⟩ := bind_ok.mp found
  cases e with
  | table other =>
    cases done
    exact standing
  | system => cases done

theorem placeOf_entry {l : Ledger} {on : Text} {place : Nat} (found : l.placeOf on = .ok place) :
    ∃ e, l.entry on = .ok e ∧ placeIn e = place := by
  obtain ⟨e, standing, done⟩ := bind_ok.mp found
  refine ⟨e, standing, ?_⟩
  cases e with
  | table => exact Except.ok.inj done
  | system => exact Except.ok.inj done

theorem placed_inside {l : Ledger} {on : Text} {place : Nat} (coherent : Coherent l) (standing : l.placeOf on = .ok place) :
    place < l.tables.size := by
  obtain ⟨e, entered, same⟩ := placeOf_entry standing
  exact same ▸ entry_placed coherent entered

theorem system_entry {l : Ledger} {on : Text} {place : Nat} {found : Derivation} (standing : l.system on = .ok (place, found)) :
    l.entry on = .ok (.system place found.seed found.state) ∧ found.rules = l.tableAt place := by
  obtain ⟨e, named, done⟩ := bind_ok.mp standing
  cases e with
  | table => cases done
  | system other seed state =>
    cases done
    exact ⟨named, rfl⟩

/-! ### What a step can do -/

/-- The name that an action gives to a new table or system. -/
def givenName : Session.Action → Option Text
  | .newTable id _ | .copyTable _ id | .newSystem id _ _ | .newSystemOn id _ _ => some id
  | _ => none

/-- The name of the system whose state an action changes. -/
def movedName : Session.Action → Option Text
  | .evaluate on _ | .reset on | .writeState on _ _ => some on
  | _ => none

/-- An action changes the rules of the table at a place. -/
def Changes (l : Ledger) (action : Session.Action) (place : Nat) : Prop :=
  ∃ on key, l.placeOf on = .ok place ∧ ((∃ replacement, action = .set on key replacement) ∨ action = .erase on key)

/-- What a step can do to a session. Tables that it puts into place have a current index. -/
inductive Move (l : Ledger) (action : Session.Action) : Ledger → Prop where
  | stay : Move l action l
  | name {id : Text} {t : RuleTable} {e : Entry} (given : givenName action = some id) (current : Current t)
      (own : placeIn e = l.tables.size) : Move l action ((l.addTable t).1.bind id e)
  | share {id on : Text} {place : Nat} (seed : Sequence) (given : givenName action = some id)
      (standing : l.entry on = .ok (.table place)) : Move l action (l.bind id (.system place seed seed))
  | change {place : Nat} {t : RuleTable} (changes : Changes l action place) (current : Current t) :
      Move l action (l.putTable place t)
  | rewrite {place : Nat} {t : RuleTable} (same : t.rules = (l.tableAt place).rules) (current : Current t) :
      Move l action (l.putTable place t)
  | go {on : Text} {place : Nat} {found after : Derivation} (moved : movedName action = some on)
      (standing : l.system on = .ok (place, found)) (same : after.rules.rules = found.rules.rules)
      (seed : after.seed = found.seed) (current : Current after.rules) :
      Move l action (l.putSystem on place after)

private theorem changeTable_move {l next : Ledger} {action : Session.Action} {on : Text} {change : RuleTable → Except Failure RuleTable}
    {answer : Answer} (changes : ∀ place, l.placeOf on = .ok place → Changes l action place)
    (current : ∀ t after, change t = .ok after → Current after)
    (done : l.changeTable on change = .ok (next, answer)) : Move l action next := by
  obtain ⟨place, standing, done⟩ := bind_ok.mp done
  obtain ⟨t, changed, done⟩ := bind_ok.mp done
  cases done
  exact .change (changes place standing) (current _ _ changed)

private theorem produceBy_move {l next : Ledger} {action : Session.Action} {on : Text} {answer : Answer}
    {produce : RuleTable → Except Failure (Sequence × RuleTable)} (coherent : Coherent l)
    (produced : ∀ t sequence after, Current t → produce t = .ok (sequence, after) → after.rules = t.rules ∧ Current after)
    (done : l.produceBy on produce = .ok (next, answer)) : Move l action next := by
  obtain ⟨place, _, done⟩ := bind_ok.mp done
  obtain ⟨⟨sequence, t⟩, produces, done⟩ := bind_ok.mp done
  cases done
  obtain ⟨same, current⟩ := produced _ _ _ (tableAt_current coherent place) produces
  exact .rewrite same current

private theorem changeSystem_move {l next : Ledger} {action : Session.Action} {on : Text} {answer : Answer}
    {change : Derivation → Except Failure Derivation} (coherent : Coherent l) (moved : movedName action = some on)
    (changed : ∀ found after, Current found.rules → change found = .ok after →
      after.rules.rules = found.rules.rules ∧ after.seed = found.seed ∧ Current after.rules)
    (done : l.changeSystem on change = .ok (next, answer)) : Move l action next := by
  obtain ⟨⟨place, found⟩, standing, done⟩ := bind_ok.mp done
  obtain ⟨after, changes, done⟩ := bind_ok.mp done
  cases done
  have current : Current found.rules := (system_entry standing).2 ▸ tableAt_current coherent place
  obtain ⟨same, seed, currentAfter⟩ := changed _ _ current changes
  exact .go moved standing same seed currentAfter

theorem perform_move {l next : Ledger} {action : Session.Action} {answer : Answer} (coherent : Coherent l)
    (done : l.perform action = .ok (next, answer)) : Move l action next := by
  cases action with
  | newTable id rules =>
    obtain ⟨t, built, done⟩ := bind_ok.mp done
    cases done
    exact .name rfl (ofValue_current built) rfl
  | copyTable on id =>
    obtain ⟨place, _, done⟩ := bind_ok.mp done
    cases done
    exact .name rfl (ofRules_current _) rfl
  | newSystem id seed rules =>
    obtain ⟨found, built, done⟩ := bind_ok.mp done
    cases done
    obtain ⟨t, made, built⟩ := bind_ok.mp built
    obtain ⟨sequence, _, built⟩ := bind_ok.mp built
    cases built
    exact .name rfl (ofValue_current made) rfl
  | newSystemOn id on seed =>
    obtain ⟨place, standing, done⟩ := bind_ok.mp done
    obtain ⟨sequence, _, done⟩ := bind_ok.mp done
    cases done
    exact .share sequence rfl (ownPlaceOf_entry standing)
  | set on key replacement =>
    rw [perform] at done
    exact changeTable_move (fun _ standing => ⟨on, key, standing, .inl ⟨replacement, rfl⟩⟩) (fun _ _ => set_current) done
  | erase on key =>
    rw [perform] at done
    exact changeTable_move (fun _ standing => ⟨on, key, standing, .inr rfl⟩) (fun _ _ => erase_current) done
  | apply on given =>
    rw [perform] at done
    refine produceBy_move coherent (fun t sequence after current produces => ?_) done
    obtain ⟨start, _, produces⟩ := bind_ok.mp produces
    obtain ⟨kept, applied, same, currentKept⟩ := apply_total_correct current start
    rw [applied] at produces
    cases produces
    exact ⟨same, currentKept⟩
  | expand on given generations =>
    obtain ⟨n, _, done⟩ := bind_ok.mp done
    obtain ⟨_, _, done⟩ := bind_ok.mp done
    refine produceBy_move coherent (fun t sequence after current produces => ?_) done
    obtain ⟨start, _, produces⟩ := bind_ok.mp produces
    obtain ⟨kept, expanded, same, currentKept⟩ := expand_total_correct current n start
    rw [expanded] at produces
    cases produces
    exact ⟨same, currentKept⟩
  | evaluate on generations =>
    rw [perform] at done
    refine changeSystem_move coherent rfl (fun found after current changes => ?_) done
    obtain ⟨n, _, changes⟩ := bind_ok.mp changes
    obtain ⟨kept, expanded, same, currentKept⟩ := expand_total_correct current n found.state
    rw [Derivation.advance, expanded] at changes
    cases changes
    exact ⟨same, rfl, currentKept⟩
  | reset on =>
    rw [perform] at done
    refine changeSystem_move coherent rfl (fun found after current changes => ?_) done
    cases changes
    exact ⟨rfl, rfl, current⟩
  | writeState on index symbol =>
    rw [perform] at done
    refine changeSystem_move coherent rfl (fun found after current changes => ?_) done
    obtain ⟨state, _, changes⟩ := bind_ok.mp changes
    cases changes
    exact ⟨rfl, rfl, current⟩
  | get | contains | keys | rules | expandedLength | size | shown | state | seed | stateText =>
    obtain ⟨_, _, done⟩ := bind_ok.mp done
    cases done
    exact .stay
  | writeSeed on _ _ =>
    obtain ⟨_, _, done⟩ := bind_ok.mp done
    cases done
  | writeRule on _ _ _ =>
    obtain ⟨_, _, done⟩ := bind_ok.mp done
    obtain ⟨_, _, done⟩ := bind_ok.mp done
    cases done

/-- A step that succeeds is one of the moves, and one that fails stays. -/
theorem step_move {l : Ledger} (coherent : Coherent l) (action : Session.Action) : Move l action (l.step action).1 := by
  rw [step]
  cases performed : l.perform action with
  | error failure => exact .stay
  | ok done => exact perform_move coherent performed

theorem step_ok {l next : Ledger} {action : Session.Action} {answer : Answer} (performed : l.perform action = .ok (next, answer)) :
    l.step action = (next, .ok answer) := by
  rw [step, performed]

theorem step_error {l : Ledger} {action : Session.Action} {failure : Failure} (performed : l.perform action = .error failure) :
    l.step action = (l, .error failure) := by
  rw [step, performed]

theorem step_answered {l next : Ledger} {action : Session.Action} {answer : Answer} (stepped : l.step action = (next, .ok answer)) :
    l.perform action = .ok (next, answer) := by
  cases performed : l.perform action with
  | error failure =>
    rw [step_error performed] at stepped
    cases stepped
  | ok done =>
    rw [step_ok performed] at stepped
    cases stepped
    rfl

theorem step_fails {l : Ledger} {action : Session.Action} {failure : Failure} (failed : (l.step action).2 = .error failure) :
    (l.step action).1 = l := by
  cases performed : l.perform action with
  | error other => rw [step_error performed]
  | ok done =>
    rw [step_ok performed] at failed
    cases failed

/-! ### What steps keep -/

theorem putSystem_coherent {l : Ledger} (coherent : Coherent l) {on : Text} {place : Nat} {found after : Derivation}
    (standing : l.system on = .ok (place, found)) (current : Current after.rules) : Coherent (l.putSystem on place after) := by
  have inside : place < l.tables.size := entry_placed coherent (system_entry standing).1
  refine bind_coherent (putTable_coherent coherent current place) ?_ on
  rwa [putTable, Array.size_setIfInBounds]

theorem move_coherent {l next : Ledger} {action : Session.Action} (coherent : Coherent l) (move : Move l action next) : Coherent next := by
  cases move with
  | stay => exact coherent
  | name given current own =>
    refine bind_coherent (addTable_coherent coherent current) ?_ _
    rw [own, addTable, Array.size_push]
    exact Nat.lt_succ_self _
  | @share _ _ place seed given standing =>
    have inside : place < l.tables.size := entry_placed coherent standing
    exact bind_coherent (e := .system place seed seed) coherent inside _
  | change changes current => exact putTable_coherent coherent current _
  | rewrite same current => exact putTable_coherent coherent current _
  | go moved standing same seed current => exact putSystem_coherent coherent standing current

theorem step_coherent {l : Ledger} (coherent : Coherent l) (action : Session.Action) : Coherent (l.step action).1 :=
  move_coherent coherent (step_move coherent action)

theorem setIfInBounds_getD {α : Type} (xs : Array α) (i : Nat) (d : α) : xs.setIfInBounds i (xs.getD i d) = xs := by
  rw [Array.setIfInBounds, Array.getD]
  by_cases inside : i < xs.size
  · rw [dif_pos inside, dif_pos inside]
    exact Array.set_getElem_self inside
  · rw [dif_neg inside]

theorem putTable_same (l : Ledger) (place : Nat) : l.putTable place (l.tableAt place) = l :=
  congrArg (Ledger.mk · l.names) (setIfInBounds_getD l.tables place .empty)

theorem tableAt_putTable (l : Ledger) (place : Nat) (t : RuleTable) (other : Nat) :
    (l.putTable place t).tableAt other = if place = other ∧ place < l.tables.size then t else l.tableAt other := by
  rw [tableAt, tableAt, putTable, Array.getD_eq_getD_getElem?, Array.getD_eq_getD_getElem?, Array.getElem?_setIfInBounds]
  by_cases same : place = other
  · subst same
    by_cases inside : place < l.tables.size
    · simp [inside]
    · simp [inside]
  · simp [same]

theorem entry_bind (l : Ledger) (id : Text) (e : Entry) (name : Text) :
    (l.bind id e).entry name = if id = name then .ok e else l.entry name := by
  rw [entry, Ledger.bind, Keys.find?_insertRule]
  by_cases same : id = name
  · rw [if_pos same, if_pos same]
  · rw [if_neg same, if_neg same]
    rfl

/-- A table that is added stands behind the others. -/
theorem tableAt_addTable (l : Ledger) (t : RuleTable) (place : Nat) :
    (l.addTable t).1.tableAt place = if place = l.tables.size then t else l.tableAt place := by
  rw [tableAt, tableAt, addTable, Array.getD_eq_getD_getElem?, Array.getD_eq_getD_getElem?, Array.getElem?_push]
  by_cases last : place = l.tables.size
  · rw [if_pos last, if_pos last]
    rfl
  · rw [if_neg last, if_neg last]

theorem tableAt_added (l : Ledger) (t : RuleTable) (id : Text) (e : Entry) :
    ((l.addTable t).1.bind id e).tableAt l.tables.size = t :=
  (tableAt_addTable l t l.tables.size).trans (if_pos rfl)

theorem system_bind (l : Ledger) (id : Text) (place : Nat) (seed state : Sequence) :
    (l.bind id (.system place seed state)).system id = .ok (place, ⟨l.tableAt place, seed, state⟩) :=
  bind_ok.mpr ⟨_, (entry_bind ..).trans (if_pos rfl), rfl⟩

/-- Only setting and erasing rules change the contents of a table. -/
theorem move_contents {l next : Ledger} {action : Session.Action} (move : Move l action next) {place : Nat}
    (inside : place < l.tables.size) : (next.tableAt place).rules = (l.tableAt place).rules ∨ Changes l action place := by
  cases move with
  | stay => exact .inl rfl
  | @name _ t _ given current own =>
    have kept := (tableAt_addTable l t place).trans (if_neg (Nat.ne_of_lt inside))
    exact .inl (congrArg RuleTable.rules kept)
  | share => exact .inl rfl
  | @change other t changes current =>
    rw [tableAt_putTable]
    by_cases here : other = place ∧ other < l.tables.size
    · exact .inr (here.1 ▸ changes)
    · rw [if_neg here]
      exact .inl rfl
  | @rewrite other t same current =>
    rw [tableAt_putTable]
    by_cases here : other = place ∧ other < l.tables.size
    · rw [if_pos here, same, here.1]
      exact .inl rfl
    · rw [if_neg here]
      exact .inl rfl
  | @go on other found after moved standing same seed current =>
    refine .inl ?_
    change ((l.putTable other after.rules).tableAt place).rules = _
    rw [tableAt_putTable]
    by_cases here : other = place ∧ other < l.tables.size
    · rw [if_pos here, same, (system_entry standing).2, here.1]
    · rw [if_neg here]

/-- A system keeps its seed and the place of its table until its name is given anew. -/
theorem move_seed {l next : Ledger} {action : Session.Action} (move : Move l action next) {name : Text} {place : Nat}
    {seed state : Sequence} (standing : l.entry name = .ok (.system place seed state)) :
    (∃ state, next.entry name = .ok (.system place seed state)) ∨ givenName action = some name := by
  cases move with
  | stay => exact .inl ⟨state, standing⟩
  | @name id t e given current own =>
    rw [entry_bind]
    by_cases same : id = name
    · exact .inr (same ▸ given)
    · rw [if_neg same]
      exact .inl ⟨state, standing⟩
  | @share id on shared start given found =>
    rw [entry_bind]
    by_cases same : id = name
    · exact .inr (same ▸ given)
    · rw [if_neg same]
      exact .inl ⟨state, standing⟩
  | change => exact .inl ⟨state, standing⟩
  | rewrite => exact .inl ⟨state, standing⟩
  | @go on other found after moved former same kept current =>
    rw [putSystem, entry_bind]
    by_cases here : on = name
    · obtain ⟨entered, _⟩ := system_entry former
      rw [here, standing] at entered
      cases entered
      rw [if_pos here, kept]
      exact .inl ⟨after.state, rfl⟩
    · rw [if_neg here]
      exact .inl ⟨state, standing⟩

/-! ### Answers -/

/-- Applying answers one round of the rules that the table has at that moment. -/
theorem apply_answer {l : Ledger} (coherent : Coherent l) (on : Text) (given : Value) :
    (l.step (.apply on given)).2 = do
      let t ← l.table on
      let start ← Sequence.ofValue given
      return .sequence (t.produce start) := by
  cases standing : l.placeOf on with
  | error failure =>
    have failed : l.perform (.apply on given) = .error failure := by
      rw [perform, produceBy, standing]
      rfl
    rw [step_error failed, table, standing]
    rfl
  | ok place =>
    cases read : Sequence.ofValue given with
    | error failure =>
      have failed : l.perform (.apply on given) = .error failure := by
        rw [perform, produceBy, standing, read]
        rfl
      rw [step_error failed, table, standing]
      rfl
    | ok start =>
      obtain ⟨after, applied, _⟩ := apply_total_correct (tableAt_current coherent place) start
      have performed : l.perform (.apply on given) = .ok (l.putTable place after, .sequence ((l.tableAt place).produce start)) :=
        bind_ok.mpr ⟨place, standing, bind_ok.mpr ⟨_, bind_ok.mpr ⟨start, read, applied⟩, rfl⟩⟩
      rw [step_ok performed, table, standing]
      rfl

/-- Expanding answers as many rounds as are asked for. -/
theorem expand_answer {l : Ledger} (coherent : Coherent l) (on : Text) (given generations : Value) :
    (l.step (.expand on given generations)).2 = do
      let n ← generationCount generations
      let place ← l.ownPlaceOf on
      let start ← Sequence.ofValue given
      return .sequence ((l.tableAt place).generation n start) := by
  cases counted : generationCount generations with
  | error failure =>
    have failed : l.perform (.expand on given generations) = .error failure := by
      rw [perform, counted]
      rfl
    rw [step_error failed]
    rfl
  | ok n =>
    cases own : l.ownPlaceOf on with
    | error failure =>
      have failed : l.perform (.expand on given generations) = .error failure := by
        rw [perform, counted, own]
        rfl
      rw [step_error failed]
      rfl
    | ok place =>
      have standing : l.placeOf on = .ok place := bind_ok.mpr ⟨_, ownPlaceOf_entry own, rfl⟩
      cases read : Sequence.ofValue given with
      | error failure =>
        have unread : l.produceBy on (fun t => do t.expand n (← Sequence.ofValue given)) = .error failure := by
          rw [produceBy, standing, read]
          rfl
        have failed : l.perform (.expand on given generations) = .error failure := by
          rw [perform, counted, own]
          exact unread
        rw [step_error failed]
        rfl
      | ok start =>
        obtain ⟨after, expanded, _⟩ := expand_total_correct (tableAt_current coherent place) n start
        have performed : l.perform (.expand on given generations) =
            .ok (l.putTable place after, .sequence ((l.tableAt place).generation n start)) :=
          bind_ok.mpr ⟨n, counted, bind_ok.mpr ⟨place, own,
            bind_ok.mpr ⟨place, standing, bind_ok.mpr ⟨_, bind_ok.mpr ⟨start, read, expanded⟩, rfl⟩⟩⟩⟩
        rw [step_ok performed]
        rfl

/-- A system that is put back is found under its name again. -/
theorem putSystem_system (l : Ledger) (on : Text) (place : Nat) (found : Derivation) :
    (l.putSystem on place found).system on =
      .ok (place, ⟨(l.putTable place found.rules).tableAt place, found.seed, found.state⟩) := by
  refine bind_ok.mpr ⟨.system place found.seed found.state, ?_, rfl⟩
  rw [putSystem, entry_bind, if_pos rfl]

/-- Evaluating goes as many rounds on from the system's state and leaves the system in what it answers. -/
theorem evaluate_step {l : Ledger} (coherent : Coherent l) {on : Text} {generations : Value} {place n : Nat} {found : Derivation}
    (standing : l.system on = .ok (place, found)) (counted : generationCount generations = .ok n) :
    ∃ next t, l.step (.evaluate on generations) = (next, .ok (.sequence (found.rules.generation n found.state))) ∧
      next.system on = .ok (place, ⟨t, found.seed, found.rules.generation n found.state⟩) := by
  have current : Current found.rules := (system_entry standing).2 ▸ tableAt_current coherent place
  obtain ⟨after, expanded, _⟩ := expand_total_correct current n found.state
  have advanced : found.advance n = .ok ⟨after, found.seed, found.rules.generation n found.state⟩ :=
    bind_ok.mpr ⟨_, expanded, rfl⟩
  have performed : l.perform (.evaluate on generations) =
      .ok (l.putSystem on place ⟨after, found.seed, found.rules.generation n found.state⟩,
        .sequence (found.rules.generation n found.state)) :=
    bind_ok.mpr ⟨_, standing, bind_ok.mpr ⟨_, bind_ok.mpr ⟨n, counted, advanced⟩, rfl⟩⟩
  exact ⟨_, _, step_ok performed, putSystem_system l on place _⟩

/-- Evaluating answers the rounds from the system's state. -/
theorem evaluate_answer {l : Ledger} (coherent : Coherent l) (on : Text) (generations : Value) :
    (l.step (.evaluate on generations)).2 = do
      let (_, found) ← l.system on
      let n ← generationCount generations
      return .sequence (found.rules.generation n found.state) := by
  cases standing : l.system on with
  | error failure =>
    have failed : l.perform (.evaluate on generations) = .error failure := by
      rw [perform, changeSystem, standing]
      rfl
    rw [step_error failed]
    rfl
  | ok named =>
    obtain ⟨place, found⟩ := named
    cases counted : generationCount generations with
    | error failure =>
      have failed : l.perform (.evaluate on generations) = .error failure := by
        rw [perform, changeSystem, standing]
        simp only [Derivation.evaluate, counted]
        rfl
      rw [step_error failed]
      rfl
    | ok n =>
      obtain ⟨next, t, stepped, _⟩ := evaluate_step coherent standing counted
      rw [stepped]
      rfl

/-- Resetting makes the state of a system its seed. -/
theorem reset_step {l : Ledger} {on : Text} {place : Nat} {found : Derivation} (standing : l.system on = .ok (place, found)) :
    ∃ next, l.step (.reset on) = (next, .ok (.sequence found.seed)) ∧
      next.system on = .ok (place, ⟨found.rules, found.seed, found.seed⟩) := by
  have performed : l.perform (.reset on) = .ok (l.putSystem on place found.reset, .sequence found.seed) :=
    bind_ok.mpr ⟨_, standing, rfl⟩
  refine ⟨_, step_ok performed, ?_⟩
  have same : (l.putTable place found.rules).tableAt place = found.rules := by
    rw [tableAt_putTable, (system_entry standing).2, ite_self]
  rw [putSystem_system]
  simp only [Derivation.reset, same]

/-- Changing a table through one name changes it for every name that shares it. -/
theorem changeTable_shared {l : Ledger} (coherent : Coherent l) {on other : Text} {place : Nat}
    (change : RuleTable → Except Failure RuleTable) {t : RuleTable} (standing : l.placeOf on = .ok place)
    (shared : l.placeOf other = .ok place) (changed : change (l.tableAt place) = .ok t) :
    ∃ next, l.changeTable on change = .ok (next, .table t.rules) ∧ next.table other = .ok t := by
  refine ⟨_, bind_ok.mpr ⟨place, standing, bind_ok.mpr ⟨t, changed, rfl⟩⟩, ?_⟩
  refine bind_ok.mpr ⟨place, shared, ?_⟩
  rw [tableAt_putTable, if_pos ⟨rfl, placed_inside coherent standing⟩]
  rfl

/-- A new system stands under its name in the state of the seed that was given. -/
theorem constructed_seed {l next : Ledger} {id : Text} {seed : Value} {action : Session.Action} {answer : Answer}
    (constructs : (∃ rules, action = .newSystem id seed rules) ∨ ∃ on, action = .newSystemOn id on seed)
    (stepped : l.step action = (next, .ok answer)) :
    ∃ place sequence, Sequence.ofValue seed = .ok sequence ∧ next.entry id = .ok (.system place sequence sequence) := by
  have performed := step_answered stepped
  rcases constructs with ⟨rules, rfl⟩ | ⟨on, rfl⟩
  · obtain ⟨found, built, done⟩ := bind_ok.mp performed
    cases done
    obtain ⟨t, _, built⟩ := bind_ok.mp built
    obtain ⟨sequence, read, built⟩ := bind_ok.mp built
    cases built
    exact ⟨_, sequence, read, by rw [entry_bind, if_pos rfl]; rfl⟩
  · obtain ⟨place, _, done⟩ := bind_ok.mp performed
    obtain ⟨sequence, read, done⟩ := bind_ok.mp done
    cases done
    exact ⟨_, sequence, read, by rw [entry_bind, if_pos rfl]⟩

end Ledgers

end Lindenmayer
