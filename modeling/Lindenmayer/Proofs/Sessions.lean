import Lindenmayer.Proofs.Storing

/-!
What holds in a session whatever its steps were. A step that fails leaves what the session holds, and from then on all is
answered as if it had not been taken (`step_fails`). The tables remember no index but that of their rules, so what a
session answers to applying, expanding and evaluating is what the rules of the addressed table say at that
moment, and a system keeps the seed that it was constructed with (`session_rewrites`).
-/
namespace Lindenmayer.Sessions
open Outcomes Rewriting Ledgers Storing Session

theorem run_sound {s : Session} (sound : Sound s) (actions : List Session.Action) : Sound (s.run actions).1 := by
  induction actions generalizing s with
  | nil => exact sound
  | cons action rest ih => exact ih (step_sound sound action)

/-- What a session answers depends on what it holds, not on which tapes. -/
theorem run_alike {s t : Session} (sound : Sound s) (others : Sound t) (same : s.ledger = t.ledger) (actions : List Session.Action) :
    (s.run actions).2 = (t.run actions).2 ∧ (s.run actions).1.ledger = (t.run actions).1.ledger := by
  induction actions generalizing s t with
  | nil => exact ⟨rfl, same⟩
  | cons action rest ih =>
    have next : (s.step action).1.ledger = (t.step action).1.ledger := by
      rw [step_ledger sound, step_ledger others, same]
    have answer : (s.step action).2 = (t.step action).2 := by
      rw [step_answer sound, step_answer others, same]
    obtain ⟨answers, left⟩ := ih (step_sound sound action) (step_sound others action) next
    exact ⟨congrArg₂ List.cons answer answers, left⟩

theorem step_fails {s : Session} (sound : Sound s) {action : Session.Action} {failure : Failure} (failed : (s.step action).2 = .error failure) :
    (s.step action).1.ledger = s.ledger := by
  rw [step_answer sound] at failed
  rw [step_ledger sound]
  exact Ledgers.step_fails failed

/-! ### Seeds -/

/-- Some step of a run gives a name to a new table or system. -/
def Renames (s : Session) (actions : List Session.Action) (name : Text) : Prop :=
  ∃ before action after answer, actions = before ++ action :: after ∧ givenName action = some name ∧
    ((s.run before).1.step action).2 = .ok answer

theorem run_seed {s : Session} (sound : Sound s) {actions : List Session.Action} {name : Text} {place : Nat}
    {seed state : Sequence} (standing : s.entry name = .ok (.system place seed state)) (kept : ¬ Renames s actions name) :
    ∃ state, (s.run actions).1.entry name = .ok (.system place seed state) := by
  induction actions generalizing s state with
  | nil => exact ⟨state, standing⟩
  | cons action rest ih =>
    have first : ∃ state, (s.step action).1.entry name = .ok (.system place seed state) := by
      cases answered : (s.step action).2 with
      | error failure =>
        rw [Session.entry, step_fails sound answered]
        exact ⟨state, standing⟩
      | ok answer =>
        rw [Session.entry, step_ledger sound]
        refine (move_seed (step_move sound.coherent action) standing).resolve_right fun given => kept ?_
        exact ⟨[], action, rest, answer, rfl, given, answered⟩
    obtain ⟨_, standingNext⟩ := first
    refine ih (step_sound sound action) standingNext ?_
    rintro ⟨before, later, after, answer, rfl, given, answered⟩
    exact kept ⟨action :: before, later, after, answer, rfl, given, answered⟩

/-! ### Main statements -/

/-- What is true of a session whatever led to it. -/
structure Faithful (s : Session) : Prop where
  /-- The index that a table remembers is absent or made from its current rules. -/
  indexes : ∀ t ∈ s.tables, t.index = none ∨ t.index = some (Index.ofRules t.rules)
  /-- Tables with the same mapping rewrite alike. -/
  alike : ∀ t ∈ s.tables, ∀ u ∈ s.tables, (∀ symbol, t.get? symbol = u.get? symbol) →
    ∀ n sequence, Prod.fst <$> t.expand n sequence = Prod.fst <$> u.expand n sequence
  /-- Applying answers one round of the rules. -/
  applies : ∀ on given, (s.step (.apply on given)).2 = do
    let t ← s.table on
    let start ← Sequence.ofValue given
    return .sequence (t.produce start)
  /-- Expanding answers rounds of the rules. -/
  expands : ∀ on given generations, (s.step (.expand on given generations)).2 = do
    let n ← generationCount generations
    let place ← s.ownPlaceOf on
    let start ← Sequence.ofValue given
    return .sequence ((s.tableAt place).generation n start)
  /-- Evaluating answers rounds of the rules from the state of the system. -/
  evaluates : ∀ on generations, (s.step (.evaluate on generations)).2 = do
    let (_, found) ← s.system on
    let n ← generationCount generations
    return .sequence (found.rules.generation n found.state)
  /-- The state after evaluating is what was answered. -/
  evaluated : ∀ on generations place found n, s.system on = .ok (place, found) → generationCount generations = .ok n →
    ∃ t, (s.step (.evaluate on generations)).1.system on = .ok (place, ⟨t, found.seed, found.rules.generation n found.state⟩)
  /-- Resetting makes the state the seed. -/
  resets : ∀ on place found, s.system on = .ok (place, found) →
    (s.step (.reset on)).1.system on = .ok (place, ⟨found.rules, found.seed, found.seed⟩)
  /-- A rule that is set through one name is set for every name of the same table. -/
  sets : ∀ on other place key replacement t, s.placeOf on = .ok place → s.placeOf other = .ok place →
    (s.tableAt place).set key replacement = .ok t → (s.step (.set on key replacement)).1.table other = .ok t
  /-- A rule that is erased through one name is erased for every name of the same table. -/
  erases : ∀ on other place key t, s.placeOf on = .ok place → s.placeOf other = .ok place →
    (s.tableAt place).erase key = .ok t → (s.step (.erase on key)).1.table other = .ok t
  /-- Nothing else changes the contents of a table. -/
  contents : ∀ action place, place < s.tables.size →
    ((s.step action).1.tableAt place).rules = (s.tableAt place).rules ∨ Changes s.ledger action place

theorem sound_faithful {s : Session} (sound : Sound s) : Faithful s where
  indexes t member := by
    cases known : t.index with
    | none => exact .inl rfl
    | some index => exact .inr (congrArg some (sound.coherent.current t member index known))
  alike t first u second same n sequence :=
    rewrite_alike (sound.coherent.current t first) (sound.coherent.current u second) same n sequence
  applies on given := (step_answer sound _).trans (apply_answer sound.coherent on given)
  expands on given generations := (step_answer sound _).trans (expand_answer sound.coherent on given generations)
  evaluates on generations := (step_answer sound _).trans (evaluate_answer sound.coherent on generations)
  evaluated on generations place found n standing counted := by
    obtain ⟨next, t, stepped, after⟩ := evaluate_step sound.coherent standing counted
    refine ⟨t, ?_⟩
    rw [Session.system, step_ledger sound, stepped]
    exact after
  resets on place found standing := by
    obtain ⟨next, stepped, after⟩ := reset_step standing
    rw [Session.system, step_ledger sound, stepped]
    exact after
  sets on other place key replacement t standing shared changed := by
    obtain ⟨next, performed, after⟩ := changeTable_shared sound.coherent (·.set key replacement) standing shared changed
    have stepped : s.ledger.step (.set on key replacement) = (next, _) := step_ok performed
    rw [Session.table, step_ledger sound, stepped]
    exact after
  erases on other place key t standing shared changed := by
    obtain ⟨next, performed, after⟩ := changeTable_shared sound.coherent (·.erase key) standing shared changed
    have stepped : s.ledger.step (.erase on key) = (next, _) := step_ok performed
    rw [Session.table, step_ledger sound, stepped]
    exact after
  contents action place inside := by
    rw [Session.tableAt, step_ledger sound]
    exact move_contents (step_move sound.coherent action) inside

/-- After any steps, failing ones included, a session rewrites by what its tables say at that moment, and a
    system that is constructed then keeps its seed through any later steps that do not give its name anew. -/
theorem session_rewrites (actions : List Session.Action) :
    Faithful (Session.empty.run actions).1 ∧
      ∀ id seed action next answer,
        ((∃ rules, action = .newSystem id seed rules) ∨ ∃ on, action = .newSystemOn id on seed) →
        (Session.empty.run actions).1.step action = (next, .ok answer) →
        ∃ place sequence, Sequence.ofValue seed = .ok sequence ∧
          ∀ later, ¬ Renames next later id → ∃ state, (next.run later).1.entry id = .ok (.system place sequence state) := by
  have sound := run_sound empty_sound actions
  refine ⟨sound_faithful sound, fun id seed action next answer constructs stepped => ?_⟩
  have soundNext := step_sound sound action
  have ledger := (step_refines sound action).2
  rw [stepped] at soundNext ledger
  obtain ⟨place, sequence, read, standing⟩ := constructed_seed constructs ledger.symm
  exact ⟨place, sequence, read, fun later kept => run_seed soundNext standing kept⟩

end Lindenmayer.Sessions
