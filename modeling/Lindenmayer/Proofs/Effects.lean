import Lindenmayer.Drawing.Trace
import Lindenmayer.Proofs.Sessions

/-!
What the steps of a session touch. Each names a footprint: the rules of a table, the state of a system, a
name that is given to something new, or nothing; everything else is the same after it (`step_within`,
`trace_within`), and all of it where the step fails. What a table holds is what the edits addressed to it, in
their order, make of what it held (`after_contents`), so tables that stand at different places have no
influence on each other, a copy and its original among them (`steps_framed`).
-/
namespace Lindenmayer.Effects
open Outcomes Rewriting Session Ledgers Storing Sessions

/-- The rules of the table at a place, in their order. -/
def contents (s : Session) (place : Nat) : List (Symbol × Sequence) := (s.tableAt place).rules

/-- What lasts of a system while its state goes on, its table's place and its seed; of a table its place. -/
def lasting : Entry → Nat × Option Sequence
  | .table place => (place, none)
  | .system place seed _ => (place, some seed)

/-! ### Edits -/

/-- A change of one rule of a table. -/
inductive Edit where
  | set (key replacement : Value)
  | erase (key : Value)

/-- The table after an edit, unless the edit fails. -/
def Edit.change : Edit → RuleTable → Except Failure RuleTable
  | .set key replacement, t => t.set key replacement
  | .erase key, t => t.erase key

/-- The edit that an action makes, with the name that it addresses. -/
def editOf : Session.Action → Option (Text × Edit)
  | .set on key replacement => some (on, .set key replacement)
  | .erase on key => some (on, .erase key)
  | _ => none

/-- Rules after an edit. One that fails leaves them as they are. -/
def replay (rules : List (Symbol × Sequence)) (edit : Edit) : List (Symbol × Sequence) :=
  match edit.change ⟨rules, none⟩ with
  | .ok t => t.rules
  | .error _ => rules

/-- What an edit does depends on the rules alone, not on a remembered index. -/
theorem change_rules (edit : Edit) (t : RuleTable) : edit.change ⟨t.rules, none⟩ = edit.change t := by
  cases edit with
  | set => rfl
  | erase => rfl

theorem perform_edit {action : Session.Action} {on : Text} {edit : Edit} (edits : editOf action = some (on, edit)) (l : Ledger) :
    l.perform action = l.changeTable on edit.change := by
  cases action with
  | set | erase =>
    cases edits
    rfl
  | _ => cases edits

/-! ### Footprints -/

/-- What a step names as its to change. -/
inductive Footprint where
  | nothing
  /-- The rules of the table that a name stands for. -/
  | rules (on : Text)
  /-- The state of a system. -/
  | state (on : Text)
  /-- What a name stands for. -/
  | name (id : Text)

def footprint : Session.Action → Footprint
  | .newTable id _ | .copyTable _ id | .newSystem id _ _ | .newSystemOn id _ _ => .name id
  | .set on _ _ | .erase on _ => .rules on
  | .evaluate on _ | .reset on | .writeState on _ _ => .state on
  | _ => .nothing

theorem footprint_given {action : Session.Action} {id : Text} (given : givenName action = some id) : footprint action = .name id := by
  cases action with
  | newTable | copyTable | newSystem | newSystemOn =>
    cases given
    rfl
  | _ => cases given

theorem footprint_name {action : Session.Action} {id : Text} (names : footprint action = .name id) : givenName action = some id := by
  cases action with
  | newTable | copyTable | newSystem | newSystemOn =>
    cases names
    rfl
  | _ => cases names

theorem footprint_moved {action : Session.Action} {on : Text} (moved : movedName action = some on) : footprint action = .state on := by
  cases action with
  | evaluate | reset | writeState =>
    cases moved
    rfl
  | _ => cases moved

theorem footprint_changes {l : Ledger} {action : Session.Action} {place : Nat} (changes : Changes l action place) :
    ∃ on, footprint action = .rules on ∧ l.placeOf on = .ok place := by
  obtain ⟨on, key, standing, ⟨replacement, rfl⟩ | rfl⟩ := changes
  · exact ⟨on, rfl, standing⟩
  · exact ⟨on, rfl, standing⟩

theorem footprint_edit {action : Session.Action} {on : Text} (edits : footprint action = .rules on) :
    ∃ edit, editOf action = some (on, edit) := by
  cases action with
  | set | erase =>
    cases edits
    exact ⟨_, rfl⟩
  | _ => cases edits

/-- Two sessions differ in a footprint at most. -/
structure Within (touched : Footprint) (s next : Session) : Prop where
  grown : s.tables.size ≤ next.tables.size
  /-- A table that is not touched keeps its rules and their order. -/
  tables : ∀ place < s.tables.size, (∀ on, touched = .rules on → s.placeOf on ≠ .ok place) →
    contents next place = contents s place
  /-- A name that is not touched stands for what it stood for, seed and state included. -/
  names : ∀ name, touched ≠ .name name → touched ≠ .state name → next.entry name = s.entry name
  /-- A name that is not given anew keeps its table and its seed. -/
  lasts : ∀ name, touched ≠ .name name → lasting <$> next.entry name = lasting <$> s.entry name

theorem move_grown {l next : Ledger} {action : Session.Action} (move : Move l action next) :
    l.tables.size ≤ next.tables.size := by
  cases move with
  | stay | share => exact Nat.le_refl _
  | @name id t =>
    change l.tables.size ≤ (l.tables.push t).size
    rw [Array.size_push]
    exact Nat.le_succ _
  | change | rewrite | go => exact Nat.le_of_eq (Array.size_setIfInBounds ..).symm

/-- A name that a move does not give anew stands for what it stood for, but for the state of a system. -/
theorem move_entry {l next : Ledger} {action : Session.Action} (move : Move l action next) {name : Text}
    (former : footprint action ≠ .name name) : next.entry name = l.entry name ∨
      footprint action = .state name ∧ lasting <$> next.entry name = lasting <$> l.entry name := by
  cases move with
  | stay | change | rewrite => exact .inl rfl
  | @name id _ _ given =>
    have other : id ≠ name := fun same => former (same ▸ footprint_given given)
    rw [entry_bind, if_neg other]
    exact .inl rfl
  | @share id _ _ _ given =>
    have other : id ≠ name := fun same => former (same ▸ footprint_given given)
    rw [entry_bind, if_neg other]
    exact .inl rfl
  | @go on place found after moved standing same seed =>
    rw [Ledger.putSystem, entry_bind]
    by_cases here : on = name
    · refine .inr ⟨here ▸ footprint_moved moved, ?_⟩
      rw [if_pos here, ← here, (system_entry standing).1, seed]
      rfl
    · rw [if_neg here]
      exact .inl rfl

theorem move_within {s next : Session} {action : Session.Action} (move : Move s.ledger action next.ledger) :
    Within (footprint action) s next where
  grown := move_grown move
  tables place inside untouched := by
    refine (move_contents move inside).resolve_right fun changes => ?_
    obtain ⟨on, edits, standing⟩ := footprint_changes changes
    exact untouched on edits standing
  names name former still := (move_entry move former).resolve_right fun moved => still moved.1
  lasts name former := by
    rcases move_entry move former with same | ⟨_, same⟩
    · exact congrArg _ same
    · exact same

theorem step_within {s : Session} (sound : Sound s) (action : Session.Action) : Within (footprint action) s (s.step action).1 := by
  refine move_within ?_
  rw [step_ledger sound]
  exact step_move sound.coherent action

/-! ### Sessions with traces -/

section
variable {K : Type} [Scalar K]

/-- What is done in a session: a step, or a system is traced. -/
inductive Deed (K : Type) where
  | act (action : Session.Action)
  | trace (on : Text) (options : TraceOptions K)

def did (s : Session) : Deed K → Session
  | .act action => (s.step action).1
  | .trace on o => (s.withSystem on (·.trace o)).1

/-- The session after deeds, one after the other. -/
def after (s : Session) (deeds : List (Deed K)) : Session := deeds.foldl did s

/-- Tracing keeps the seed and the rules, and their index if one is remembered. -/
theorem trace_kept {found : Derivation} (current : Current found.rules) (o : TraceOptions K) :
    (found.trace o).1.rules.rules = found.rules.rules ∧ (found.trace o).1.seed = found.seed ∧ Current (found.trace o).1.rules := by
  rw [Derivation.trace]
  cases evaluated : found.reset.evaluate o.iterations with
  | error failure => exact ⟨rfl, rfl, current⟩
  | ok went =>
    obtain ⟨n, _, advanced⟩ := bind_ok.mp evaluated
    obtain ⟨kept, expanded, same, currentKept⟩ := expand_total_correct current n found.seed
    rw [Derivation.advance, Derivation.reset, expanded] at advanced
    cases advanced
    exact ⟨same, rfl, currentKept⟩

/-- Tracing a system moves it as evaluating does; where the generations are rejected it is reset. -/
theorem trace_move {l : Ledger} (coherent : Coherent l) (on : Text) (o : TraceOptions K) :
    Move l (.evaluate on o.iterations) (l.withSystem on (·.trace o)).1 := by
  rw [Ledger.withSystem]
  cases standing : l.system on with
  | error failure => exact .stay
  | ok named =>
    obtain ⟨place, found⟩ := named
    have current : Current found.rules := (system_entry standing).2 ▸ tableAt_current coherent place
    obtain ⟨same, seed, currentKept⟩ := trace_kept current o
    exact .go rfl standing same seed currentKept

theorem trace_refines {s : Session} (sound : Sound s) (on : Text) (o : TraceOptions K) :
    Sound (s.withSystem on (·.trace o)).1 ∧
      ((s.withSystem on (·.trace o)).1.ledger, (s.withSystem on (·.trace o)).2) = s.ledger.withSystem on (·.trace o) :=
  withSystem_refines sound on _ fun _ current => (trace_kept current o).2.2

theorem trace_within {s : Session} (sound : Sound s) (on : Text) (o : TraceOptions K) :
    Within (.state on) s (did s (.trace on o)) := by
  have ledger : (did s (.trace on o)).ledger = (s.ledger.withSystem on (·.trace o)).1 := congrArg Prod.fst (trace_refines sound on o).2
  have move := trace_move sound.coherent on o
  rw [← ledger] at move
  exact move_within move

theorem did_sound {s : Session} (sound : Sound s) (deed : Deed K) : Sound (did s deed) := by
  cases deed with
  | act action => exact step_sound sound action
  | trace on o => exact (trace_refines sound on o).1

theorem after_sound {s : Session} (sound : Sound s) (deeds : List (Deed K)) : Sound (after s deeds) := by
  induction deeds generalizing s with
  | nil => exact sound
  | cons deed rest ih => exact ih (did_sound sound deed)

/-! ### What a table holds -/

/-- The edit that a deed addresses to the table at a place. -/
def editAt (s : Session) (place : Nat) : Deed K → Option Edit
  | .act action =>
    match editOf action with
    | some (on, edit) => if (s.placeOf on).toOption = some place then some edit else none
    | none => none
  | .trace _ _ => none

/-- The edits that deeds address to the table at a place, in their order. -/
def edits (place : Nat) : Session → List (Deed K) → List Edit
  | _, [] => []
  | s, deed :: rest => (editAt s place deed).toList ++ edits place (did s deed) rest

/-- A step that edits a table puts the edited table into its place, or fails and changes nothing. -/
theorem step_edit {l : Ledger} {action : Session.Action} {on : Text} {edit : Edit} {place : Nat}
    (edits : editOf action = some (on, edit)) (standing : l.placeOf on = .ok place) :
    (l.step action).1 = match edit.change (l.tableAt place) with
      | .ok t => l.putTable place t
      | .error _ => l := by
  have performed := perform_edit edits l
  rw [Ledger.changeTable, standing] at performed
  cases changed : edit.change (l.tableAt place) with
  | ok t =>
    have done : l.perform action = .ok (l.putTable place t, .table t.rules) :=
      performed.trans (bind_ok.mpr ⟨place, rfl, bind_ok.mpr ⟨t, changed, rfl⟩⟩)
    rw [step_ok done]
  | error failure =>
    have failed : l.perform action = .error failure := by
      rw [performed]
      change (edit.change (l.tableAt place)).bind _ = _
      rw [changed]
      rfl
    rw [step_error failed]

/-- A deed makes of a table's rules what the edit that it addresses to them makes of them. -/
theorem did_contents {s : Session} (sound : Sound s) {place : Nat} (inside : place < s.tables.size) (deed : Deed K) :
    contents (did s deed) place = (editAt s place deed).toList.foldl replay (contents s place) := by
  cases deed with
  | trace on o => exact (trace_within sound on o).tables place inside (by rintro _ ⟨⟩)
  | act action =>
    -- The footprint settles every step but an edit of this very table.
    have elsewhere := (step_within sound action).tables place inside
    rw [editAt, did]
    cases edits : editOf action with
    | none =>
      refine elsewhere fun on touched => ?_
      obtain ⟨edit, found⟩ := footprint_edit touched
      rw [edits] at found
      cases found
    | some addressed =>
      obtain ⟨on, edit⟩ := addressed
      by_cases here : (s.placeOf on).toOption = some place
      · have standing : s.ledger.placeOf on = .ok place := toOption_ok.mp here
        simp only [here, ↓reduceIte, Option.toList_some, List.foldl_cons, List.foldl_nil]
        rw [contents, Session.tableAt, step_ledger sound, step_edit edits standing, replay, contents, change_rules, Session.tableAt]
        cases edit.change (s.ledger.tableAt place) with
        | ok t =>
          dsimp only
          rw [tableAt_putTable, if_pos ⟨rfl, inside⟩]
        | error failure => rfl
      · simp only [here, ↓reduceIte, Option.toList_none, List.foldl_nil]
        refine elsewhere fun other touched standing => here ?_
        obtain ⟨_, found⟩ := footprint_edit touched
        rw [edits] at found
        cases found
        exact toOption_ok.mpr standing

theorem did_grown {s : Session} (sound : Sound s) (deed : Deed K) : s.tables.size ≤ (did s deed).tables.size := by
  cases deed with
  | act action => exact (step_within sound action).grown
  | trace on o => exact (trace_within sound on o).grown

/-- The rules of a table after deeds are its rules before them with the edits replayed that were addressed
    to it meanwhile. -/
theorem after_contents {s : Session} (sound : Sound s) {place : Nat} (inside : place < s.tables.size) (deeds : List (Deed K)) :
    contents (after s deeds) place = (edits place s deeds).foldl replay (contents s place) := by
  induction deeds generalizing s with
  | nil => rfl
  | cons deed rest ih =>
    rw [edits, List.foldl_append, ← did_contents sound inside deed]
    exact ih (did_sound sound deed) (Nat.lt_of_lt_of_le inside (did_grown sound deed))

end

/-! ### Main statements -/

/-- An edit that succeeds is seen by every name of the table that it addresses, and by no other. -/
def Seen (s next : Session) (on : Text) (edit : Edit) : Prop :=
  ∃ place t, s.placeOf on = .ok place ∧ edit.change (s.tableAt place) = .ok t ∧
    ∀ other, (s.placeOf other = .ok place → next.table other = .ok t) ∧
      (s.placeOf other ≠ .ok place → next.table other = s.table other)

/-- A copy of a table stands at a place of its own, and from then on each of the two tables is what the
    edits that are addressed to it make of it. -/
def Apart (K : Type) [Scalar K] (s next : Session) (on id : Text) : Prop :=
  ∃ place copy, s.entry on = .ok (.table place) ∧ next.entry id = .ok (.table copy) ∧ place ≠ copy ∧
    next.tableAt copy = (s.tableAt place).copy ∧ ∀ later : List (Deed K),
      contents (after next later) place = (edits place next later).foldl replay (contents s place) ∧
      contents (after next later) copy = (edits copy next later).foldl replay (contents next copy)

/-- What the steps of a session change and what they leave. -/
structure Framed (K : Type) [Scalar K] (s : Session) : Prop where
  /-- A step that fails leaves all tables, their order, seeds and states, and all later steps go on as without it. -/
  fails : ∀ action failure, (s.step action).2 = .error failure →
    (s.step action).1.ledger = s.ledger ∧ ∀ later, ((s.step action).1.run later).2 = (s.run later).2
  steps : ∀ action, Within (footprint action) s (s.step action).1
  /-- Seeds and replacements cannot be written to. -/
  locked : ∀ on key index symbol, (∃ failure, (s.step (.writeSeed on index symbol)).2 = .error failure) ∧
    ∃ failure, (s.step (.writeRule on key index symbol)).2 = .error failure
  /-- Tracing a system changes its state alone, also where it fails. -/
  traces : ∀ on (o : TraceOptions K), Within (.state on) s (s.withSystem on (·.trace o)).1
  edited : ∀ action on edit next answer, editOf action = some (on, edit) → s.step action = (next, .ok answer) →
    Seen s next on edit
  copied : ∀ on id next answer, s.step (.copyTable on id) = (next, .ok answer) → Apart K s next on id

theorem perform_locked (l : Ledger) (on : Text) (key : Value) (index symbol : Int) :
    (∃ failure, l.perform (.writeSeed on index symbol) = .error failure) ∧
      ∃ failure, l.perform (.writeRule on key index symbol) = .error failure := by
  constructor
  · cases performed : l.perform (.writeSeed on index symbol) with
    | error failure => exact ⟨failure, rfl⟩
    | ok done =>
      obtain ⟨_, _, impossible⟩ := bind_ok.mp performed
      cases impossible
  · cases performed : l.perform (.writeRule on key index symbol) with
    | error failure => exact ⟨failure, rfl⟩
    | ok done =>
      obtain ⟨_, _, performed⟩ := bind_ok.mp performed
      obtain ⟨_, _, impossible⟩ := bind_ok.mp performed
      cases impossible

theorem step_locked {s : Session} (sound : Sound s) (on : Text) (key : Value) (index symbol : Int) :
    (∃ failure, (s.step (.writeSeed on index symbol)).2 = .error failure) ∧
      ∃ failure, (s.step (.writeRule on key index symbol)).2 = .error failure := by
  obtain ⟨⟨first, seed⟩, second, rule⟩ := perform_locked s.ledger on key index symbol
  rw [step_answer sound, step_answer sound, step_error seed, step_error rule]
  exact ⟨⟨first, rfl⟩, second, rfl⟩

theorem step_seen {s next : Session} (sound : Sound s) {action : Session.Action} {on : Text} {edit : Edit} {answer : Answer}
    (edits : editOf action = some (on, edit)) (stepped : s.step action = (next, .ok answer)) : Seen s next on edit := by
  have ledger := (step_refines sound action).2
  rw [stepped] at ledger
  have performed := (perform_edit edits s.ledger).symm.trans (step_answered ledger.symm)
  obtain ⟨place, standing, performed⟩ := bind_ok.mp performed
  obtain ⟨t, changed, performed⟩ := bind_ok.mp performed
  have put : next.ledger = s.ledger.putTable place t := (Prod.mk.inj (Except.ok.inj performed)).1.symm
  -- Names stay as they are, so who shares the table before the step shares it after it.
  have inside := placed_inside sound.coherent standing
  refine ⟨place, t, standing, changed, fun other => ⟨fun shared => ?_, fun apart => ?_⟩⟩
  · rw [Session.table, put]
    refine bind_ok.mpr ⟨place, shared, ?_⟩
    rw [tableAt_putTable, if_pos ⟨rfl, inside⟩]
    rfl
  · have still : (s.ledger.putTable place t).placeOf other = s.ledger.placeOf other := rfl
    rw [Session.table, Session.table, put, Ledger.table, Ledger.table, still]
    cases found : s.ledger.placeOf other with
    | error failure => rfl
    | ok elsewhere =>
      have distinct : ¬ (place = elsewhere ∧ place < s.ledger.tables.size) := fun here => apart (here.1 ▸ found)
      change Except.ok ((s.ledger.putTable place t).tableAt elsewhere) = _
      rw [tableAt_putTable, if_neg distinct]
      rfl

theorem step_apart (K : Type) [Scalar K] {s next : Session} (sound : Sound s) {on id : Text} {answer : Answer}
    (stepped : s.step (.copyTable on id) = (next, .ok answer)) : Apart K s next on id := by
  have soundNext := step_sound sound (.copyTable on id)
  have within := step_within sound (.copyTable on id)
  have ledger := (step_refines sound (.copyTable on id)).2
  rw [stepped] at soundNext within ledger
  obtain ⟨place, own, performed⟩ := bind_ok.mp (step_answered ledger.symm)
  have standing := ownPlaceOf_entry own
  have named : next.ledger = (s.ledger.addTable (s.ledger.tableAt place).copy).1.bind id (.table s.ledger.tables.size) :=
    (Prod.mk.inj (Except.ok.inj performed)).1.symm
  have inside : place < s.ledger.tables.size := entry_placed sound.coherent standing
  have pushed : s.ledger.tables.size < next.ledger.tables.size := by
    rw [named]
    change _ < (s.ledger.tables.push _).size
    rw [Array.size_push]
    exact Nat.lt_succ_self _
  have kept := within.tables place inside (by rintro _ ⟨⟩)
  -- The copy stands behind all tables that there are, the original among them.
  refine ⟨place, s.ledger.tables.size, standing, ?_, Nat.ne_of_lt inside, ?_, fun later => ⟨?_, ?_⟩⟩
  · rw [Session.entry, named, entry_bind, if_pos rfl]
  · rw [Session.tableAt, named]
    exact tableAt_added ..
  · rw [← kept]
    exact after_contents soundNext (Nat.lt_of_lt_of_le inside within.grown) later
  · exact after_contents soundNext pushed later

/-- Whatever was done in a session, traces and failing steps included, every step changes its footprint
    alone, and nothing if it fails; an edited table changes for all that share it; and a copy and its
    original go their own ways. -/
theorem steps_framed (K : Type) [Scalar K] (deeds : List (Deed K)) : Framed K (after Session.empty deeds) := by
  have sound := after_sound empty_sound deeds
  exact {
    fails := fun action failure failed =>
      have left := step_fails sound failed
      ⟨left, fun later => (run_alike (step_sound sound action) sound left later).1⟩
    steps := step_within sound
    locked := step_locked sound
    traces := trace_within sound
    edited := fun _ _ _ _ _ => step_seen sound
    copied := fun _ _ _ _ => step_apart K sound }

end Lindenmayer.Effects
