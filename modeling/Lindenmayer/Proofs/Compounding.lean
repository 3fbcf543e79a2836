import Lindenmayer.Proofs.Limits
import Lindenmayer.Proofs.Tracing

/-!
Rewriting splits anywhere. It acts on each part of a sequence without regard to what stands beside it
(`generation_append`), and generations add up (`generation_add`). So a sequence may be expanded part by part
and in two goes (`inParts_total_correct`). A system that nothing disturbs is as many generations from its seed
as it was evaluated by since it was last reset (`after_stands`), however its evaluations were divided
(`generations_compound`).
-/
namespace Lindenmayer.Compounding
open Outcomes Rewriting Ledgers Storing Session Sessions Effects Tracing

theorem produce_append (t : RuleTable) (left right : Sequence) : t.produce (left ++ right) = t.produce left ++ t.produce right :=
  List.flatMap_append

theorem generation_append (t : RuleTable) (n : Nat) (left right : Sequence) :
    t.generation n (left ++ right) = t.generation n left ++ t.generation n right := by
  induction n generalizing left right with
  | zero => rfl
  | succ n ih => rw [RuleTable.generation, produce_append, ih, RuleTable.generation, RuleTable.generation]

theorem generation_add (t : RuleTable) (m n : Nat) (sequence : Sequence) :
    t.generation (m + n) sequence = t.generation n (t.generation m sequence) := by
  rw [generation_iterate, generation_iterate, generation_iterate, Nat.add_comm, Function.iterate_add_apply]

/-- A sequence expanded in two goes, the second with the table as the first left it. -/
def inGoes (t : RuleTable) (m n : Nat) (sequence : Sequence) : Except Failure (Sequence × RuleTable) := do
  let (middle, t) ← t.expand m sequence
  t.expand n middle

/-- Two parts expanded one after the other, each in two goes, and joined. -/
def inParts (t : RuleTable) (m n : Nat) (left right : Sequence) : Except Failure (Sequence × RuleTable) := do
  let (first, t) ← inGoes t m n left
  let (second, t) ← inGoes t m n right
  return (first ++ second, t)

theorem inGoes_total_correct {t : RuleTable} (current : Current t) (m n : Nat) (sequence : Sequence) :
    ∃ after, inGoes t m n sequence = .ok (t.generation (m + n) sequence, after) ∧ after.rules = t.rules ∧ Current after := by
  obtain ⟨between, went, sameFirst, currentFirst⟩ := expand_total_correct current m sequence
  obtain ⟨after, goes, sameSecond, currentSecond⟩ := expand_total_correct currentFirst n (t.generation m sequence)
  refine ⟨after, ?_, sameSecond.trans sameFirst, currentSecond⟩
  rw [generation_same sameFirst, ← generation_add] at goes
  exact bind_ok.mpr ⟨_, went, goes⟩

theorem inParts_total_correct {t : RuleTable} (current : Current t) (m n : Nat) (left right : Sequence) :
    ∃ after, inParts t m n left right = .ok (t.generation (m + n) (left ++ right), after) := by
  obtain ⟨between, first, same, currentBetween⟩ := inGoes_total_correct current m n left
  obtain ⟨after, second, _⟩ := inGoes_total_correct currentBetween m n right
  rw [generation_same same] at second
  rw [generation_append]
  exact ⟨after, bind_ok.mpr ⟨_, first, bind_ok.mpr ⟨_, second, rfl⟩⟩⟩

/-! ### Systems that only evaluate -/

section
variable {K : Type} [Scalar K]

/-- The generations that a value stands for, none if it is rejected. -/
def counted (given : Value) : Nat := (generationCount given).toOption.getD 0

/-- How far a system is from its seed after a deed. Evaluating adds its generations, resetting takes the system
    back, and tracing does both. -/
def far (on : Text) (n : Nat) : Deed K → Nat
  | .act (.evaluate name given) => if name = on then n + counted given else n
  | .act (.reset name) => if name = on then 0 else n
  | .act _ => n
  | .trace name o => if name = on then counted o.iterations else n

/-- A deed comes between a system and its evaluations: it gives the system's name to something new, writes into
    its state, or changes the rules of its table. -/
inductive Disturbs (s : Session) (on : Text) (place : Nat) : Deed K → Prop where
  | named {action : Session.Action} {answer : Answer} (given : givenName action = some on)
      (done : (s.step action).2 = .ok answer) : Disturbs s on place (.act action)
  | written {index symbol : Int} {answer : Answer} (done : (s.step (.writeState on index symbol)).2 = .ok answer) :
      Disturbs s on place (.act (.writeState on index symbol))
  | changed {deed : Deed K} (other : contents (did s deed) place ≠ contents s place) : Disturbs s on place deed

/-- None of some deeds disturbs a system. -/
def Undisturbed (on : Text) (place : Nat) : Session → List (Deed K) → Prop
  | _, [] => True
  | s, deed :: rest => ¬ Disturbs s on place deed ∧ Undisturbed on place (did s deed) rest

/-- Under a name stands a system that is so many generations of a table from its seed, and its own table has the
    same rules. -/
structure Stands (s : Session) (on : Text) (place : Nat) (seed : Sequence) (t : RuleTable) (n : Nat) : Prop where
  sound : Sound s
  entered : s.entry on = .ok (.system place seed (t.generation n seed))
  rules : contents s place = t.rules

variable {s : Session} {on : Text} {place : Nat} {seed : Sequence} {t : RuleTable} {n : Nat}

theorem Stands.system (stands : Stands s on place seed t n) : s.system on = .ok (place, ⟨s.tableAt place, seed, t.generation n seed⟩) :=
  bind_ok.mpr ⟨_, stands.entered, rfl⟩

theorem footprint_state {action : Session.Action} (moves : footprint action = .state on) :
    (∃ given, action = .evaluate on given) ∨ action = .reset on ∨ ∃ index symbol, action = .writeState on index symbol := by
  cases action with
  | evaluate _ given =>
    cases moves
    exact .inl ⟨given, rfl⟩
  | reset =>
    cases moves
    exact .inr (.inl rfl)
  | writeState _ index symbol =>
    cases moves
    exact .inr (.inr ⟨index, symbol, rfl⟩)
  | _ => cases moves

omit [Scalar K] in
/-- Only what touches the state of a system takes it farther or back. -/
theorem far_still {action : Session.Action} (still : footprint action ≠ .state on) : far on n (Deed.act action : Deed K) = n := by
  cases action with
  | evaluate name | reset name =>
    have other : name ≠ on := fun same => still (by rw [same]; rfl)
    rw [far, if_neg other]
  | _ => rfl

theorem evaluate_entry (stands : Stands s on place seed t n) (given : Value) :
    (s.step (.evaluate on given)).1.entry on = .ok (.system place seed (t.generation (n + counted given) seed)) := by
  cases count : generationCount given with
  | error failure =>
    have failed : (s.step (.evaluate on given)).2 = .error failure := by
      rw [step_answer stands.sound, evaluate_answer stands.sound.coherent]
      change (s.system on).bind _ = _
      rw [stands.system]
      change (generationCount given).bind _ = _
      rw [count]
      rfl
    rw [Session.entry, step_fails stands.sound failed, counted, count]
    exact stands.entered
  | ok more =>
    obtain ⟨next, table, stepped, after⟩ := evaluate_step stands.sound.coherent stands.system count
    rw [Session.entry, step_ledger stands.sound, stepped, counted, count]
    refine (system_entry after).1.trans ?_
    rw [generation_same stands.rules, generation_add]
    rfl

theorem trace_entry (stands : Stands s on place seed t n) (o : TraceOptions K) :
    (did s (.trace on o)).entry on = .ok (.system place seed (t.generation (counted o.iterations) seed)) := by
  obtain ⟨table, _, _, traces⟩ := trace_traced (system_current stands.sound stands.system) o
  have left := (system_entry (withSystem_system stands.sound (·.trace o) (trace_current o) stands.system traces).1).1
  refine left.trans ?_
  cases count : generationCount o.iterations with
  | error failure =>
    rw [traced, expansion_rejected count, counted, count]
    rfl
  | ok more =>
    have current : Current (s.tableAt place) := tableAt_current stands.sound.coherent place
    obtain ⟨_, _, _, _, expands⟩ := expansion_expand current count seed
    rw [traced, expands, counted, count, generation_same stands.rules]
    rfl

/-- What a deed that does not disturb a system makes of it. -/
theorem did_stands (stands : Stands s on place seed t n) {deed : Deed K} (undisturbed : ¬ Disturbs s on place deed) :
    Stands (did s deed) on place seed t (far on n deed) := by
  refine ⟨did_sound stands.sound deed, ?_, ?_⟩
  · cases deed with
    | trace name o =>
      by_cases here : name = on
      · rw [here, far, if_pos rfl]
        exact trace_entry stands o
      · have elsewhere : Footprint.state name ≠ .state on := fun same => here (Footprint.state.inj same)
        rw [far, if_neg here, (trace_within stands.sound name o).names on (by rintro ⟨⟩) elsewhere]
        exact stands.entered
    | act action =>
      by_cases moves : footprint action = .state on
      · rcases footprint_state moves with ⟨given, rfl⟩ | rfl | ⟨index, symbol, rfl⟩
        · rw [far, if_pos rfl]
          exact evaluate_entry stands given
        · obtain ⟨next, stepped, after⟩ := reset_step stands.system
          rw [far, if_pos rfl, did, Session.entry, step_ledger stands.sound, stepped]
          exact (system_entry after).1
        · cases answered : (s.step (.writeState on index symbol)).2 with
          | ok answer => exact absurd (.written answered) undisturbed
          | error failure =>
            rw [did, Session.entry, step_fails stands.sound answered]
            exact stands.entered
      · rw [far_still moves, did]
        by_cases names : footprint action = .name on
        · cases answered : (s.step action).2 with
          | ok answer => exact absurd (.named (footprint_name names) answered) undisturbed
          | error failure =>
            rw [Session.entry, step_fails stands.sound answered]
            exact stands.entered
        · rw [(step_within stands.sound action).names on names moves]
          exact stands.entered
  · have kept : contents (did s deed) place = contents s place := by
      by_contra other
      exact undisturbed (.changed other)
    exact kept.trans stands.rules

/-- Deeds that do not disturb a system take it as far as its generations since it was last reset. -/
theorem after_stands (stands : Stands s on place seed t n) {deeds : List (Deed K)} (undisturbed : Undisturbed on place s deeds) :
    Stands (after s deeds) on place seed t (deeds.foldl (far on) n) := by
  induction deeds generalizing s n with
  | nil => exact stands
  | cons deed rest ih => exact ih (did_stands stands undisturbed.1) undisturbed.2

/-- Evaluations disturb no system, their own or another's. -/
theorem evaluations_undisturbed (sound : Sound s) (inside : place < s.tables.size) (evaluations : List (Text × Value)) :
    Undisturbed on place s (evaluations.map fun e => (.act (.evaluate e.1 e.2) : Deed K)) := by
  induction evaluations generalizing s with
  | nil => trivial
  | cons e rest ih =>
    have within := step_within sound (.evaluate e.1 e.2)
    refine ⟨fun disturbs => ?_, ih (step_sound sound _) (Nat.lt_of_lt_of_le inside within.grown)⟩
    cases disturbs with
    | named given => cases given
    | changed other => exact other (within.tables place inside (by rintro _ ⟨⟩))

theorem reset_stands {found : Derivation} (sound : Sound s) (standing : s.system on = .ok (place, found)) :
    Stands (did s (.act (.reset on) : Deed K)) on place found.seed found.rules 0 := by
  obtain ⟨next, stepped, after⟩ := reset_step standing
  have ledger : (did s (.act (.reset on) : Deed K)).ledger = next := (step_ledger sound (.reset on)).trans (congrArg Prod.fst stepped)
  obtain ⟨entered, same⟩ := system_entry after
  refine ⟨did_sound sound _, ?_, ?_⟩
  · rw [Session.entry, ledger]
    exact entered
  · rw [contents, Session.tableAt, ledger, ← same]

end

/-! ### Main statements -/

/-- A sequence may be split anywhere and its generations divided: expanding the parts in two goes, with one table
    that may remember its index from one to the next, gives what expanding the whole at once gives. And a system
    that was reset is taken by any later deeds that do not disturb it to its seed's expansion by the sum of the
    generations of the evaluations since it was last reset, which is where one evaluation takes it that is given
    that sum. -/
theorem generations_compound {t : RuleTable} (current : Current t) (m n : Nat) (left right : Sequence) :
    (∃ whole, Prod.fst <$> t.expand (m + n) (left ++ right) = .ok whole ∧ Prod.fst <$> inParts t m n left right = .ok whole) ∧
      ∀ (K : Type) [Scalar K] (deeds later : List (Deed K)) (on : Text) (place : Nat) (found : Derivation),
        (after .empty deeds).system on = .ok (place, found) →
        Undisturbed on place (did (after .empty deeds) (.act (.reset on) : Deed K)) later →
        ∃ state, stateOf (after (did (after .empty deeds) (.act (.reset on) : Deed K)) later) on = .ok state ∧
          Prod.fst <$> found.rules.expand (later.foldl (far on) 0) found.seed = .ok state ∧
          ∀ given, generationCount given = .ok (later.foldl (far on) 0) →
            stateOf (after (did (after .empty deeds) (.act (.reset on) : Deed K)) [(.act (.evaluate on given) : Deed K)]) on =
              .ok state := by
  obtain ⟨_, expanded, _⟩ := expand_total_correct current (m + n) (left ++ right)
  obtain ⟨_, joined⟩ := inParts_total_correct current m n left right
  refine ⟨⟨t.generation (m + n) (left ++ right), by rw [expanded]; rfl, by rw [joined]; rfl⟩, ?_⟩
  intro K _ deeds later on place found standing undisturbed
  have sound := after_sound empty_sound deeds
  have start := reset_stands (K := K) sound standing
  have divided := after_stands start undisturbed
  obtain ⟨_, goes, _⟩ := expand_total_correct (system_current sound standing) (later.foldl (far on) 0) found.seed
  refine ⟨found.rules.generation (later.foldl (far on) 0) found.seed, ?_, by rw [goes]; rfl, fun given count => ?_⟩
  · exact bind_ok.mpr ⟨_, divided.system, rfl⟩
  · have atOnce := evaluate_entry start given
    rw [counted, count, Nat.zero_add] at atOnce
    exact bind_ok.mpr ⟨_, bind_ok.mpr ⟨_, atOnce, rfl⟩, rfl⟩

/-- A system that shares its table, evaluated in three goes of which one is rejected, and another of the same
    table between them. -/
theorem shared_table_compounds :
    let rules : List (Symbol × Sequence) := [(70, [70, 43, 88]), (88, [])]
    let t : RuleTable := ⟨rules, some (Index.ofRules rules)⟩
    let deeds : List (Deed Float) := [.act (.newTable [114] (.object [([70], .text [70, 43, 88]), ([88], .text [])])),
      .act (.newSystemOn [97] [114] (.text [70, 88])), .act (.newSystemOn [98] [114] (.text [88]))]
    let later : List (Deed Float) := [.act (.evaluate [97] (.int 1)), .act (.evaluate [97] (.int (-1))),
      .act (.evaluate [98] (.int 5)), .act (.evaluate [97] (.int 2))]
    let start := did (after .empty deeds) (.act (.reset [97]) : Deed Float)
    Current t ∧ Prod.fst <$> inParts t 1 2 [70] [88, 70] = Prod.fst <$> t.expand 3 [70, 88, 70] ∧
      (after .empty deeds).system [97] = .ok (0, ⟨⟨rules, none⟩, [70, 88], [70, 88]⟩) ∧ Undisturbed [97] 0 start later ∧
      ∃ state, stateOf (after start later) [97] = .ok state ∧
        stateOf (after start [(.act (.evaluate [97] (.int 3)) : Deed Float)]) [97] = .ok state := by
  intro rules t deeds later start
  have current : Current t := current_indexed rules
  have standing : (after .empty deeds).system [97] = .ok (0, ⟨⟨rules, none⟩, [70, 88], [70, 88]⟩) :=
    toOption_ok.mp (by decide +kernel)
  have sound : Sound start := did_sound (after_sound empty_sound deeds) (.act (.reset [97]) : Deed Float)
  have inside : 0 < start.tables.size := by decide +kernel
  have undisturbed : Undisturbed [97] 0 start later :=
    evaluations_undisturbed sound inside [([97], .int 1), ([97], .int (-1)), ([98], .int 5), ([97], .int 2)]
  obtain ⟨⟨whole, atOnce, divided⟩, compounds⟩ := generations_compound current 1 2 [70] [88, 70]
  obtain ⟨state, stands, _, evaluated⟩ := compounds Float deeds later [97] 0 _ standing undisturbed
  have sum : generationCount (.int 3) = .ok (later.foldl (far [97]) 0) := toOption_ok.mp (by decide +kernel)
  exact ⟨current, divided.trans atOnce.symm, standing, undisturbed, state, stands, evaluated (.int 3) sum⟩

end Lindenmayer.Compounding
