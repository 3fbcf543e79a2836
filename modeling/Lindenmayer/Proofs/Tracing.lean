import Lindenmayer.Drawing.Draw
import Lindenmayer.Proofs.Effects
import Lindenmayer.Scalar.Double

/-!
What comes of tracing a system, and the state that it is left in, are functions of its seed, the rules of
its table and the options (`traced`). The state that it is found in has no part in it, nor has an index that
the table remembers (`trace_traced`). So whatever was done in a session, systems of one seed and the same
rules are traced alike, and the next trace or drawing of a system repeats the last (`traces_repeatable`).
-/
namespace Lindenmayer.Tracing
open Effects Outcomes Rewriting Session Ledgers Storing Sessions

variable {K : Type} [Scalar K]

/-- The expansion of a seed by rules, in a table that knows no index yet. -/
def expansion (seed : Sequence) (rules : List (Symbol × Sequence)) (generations : Value) : Except Failure Sequence := do
  let n ← generationCount generations
  Prod.fst <$> (RuleTable.mk rules none).expand n seed

/-- The state that tracing leaves, and what comes of it. -/
def traced (seed : Sequence) (rules : List (Symbol × Sequence)) (o : TraceOptions K) : Sequence × Except Failure (Trace K) :=
  match expansion seed rules o.iterations with
  | .error failure => (seed, .error failure)
  | .ok state => (state, o.walk state)

def drawn (seed : Sequence) (rules : List (Symbol × Sequence)) (d : DrawOptions K) : Except Failure (Drawn K) := do
  let format ← d.chosenFormat
  d.drawn format (← (traced seed rules d.trace).2)

/-! ### One system -/

theorem expansion_rejected {generations : Value} {failure : Failure} (rejected : generationCount generations = .error failure)
    (seed : Sequence) (rules : List (Symbol × Sequence)) : expansion seed rules generations = .error failure := by
  rw [expansion, rejected]
  rfl

theorem expansion_expand {t : RuleTable} (current : Current t) {generations : Value} {n : Nat}
    (counted : generationCount generations = .ok n) (seed : Sequence) :
    ∃ after, t.expand n seed = .ok (t.generation n seed, after) ∧ after.rules = t.rules ∧ Current after ∧
      expansion seed t.rules generations = .ok (t.generation n seed) := by
  obtain ⟨after, expanded, same, currentAfter⟩ := expand_total_correct current n seed
  refine ⟨after, expanded, same, currentAfter, ?_⟩
  -- The index is no part of what a table maps, so a table without it gives the same.
  have forgotten := rewrite_alike (current_fresh t.rules) current (fun _ => rfl) n seed
  rw [expansion, counted]
  exact forgotten.trans (by rw [expanded]; rfl)

/-- Tracing keeps the seed and the rules. Only an index may be remembered that was not before. -/
theorem trace_traced {found : Derivation} (current : Current found.rules) (o : TraceOptions K) :
    ∃ t, t.rules = found.rules.rules ∧ Current t ∧
      found.trace o = (⟨t, found.seed, (traced found.seed found.rules.rules o).1⟩, (traced found.seed found.rules.rules o).2) := by
  rw [Derivation.trace, traced]
  cases counted : generationCount o.iterations with
  | error failure =>
    refine ⟨found.rules, rfl, current, ?_⟩
    rw [expansion_rejected counted, Derivation.evaluate, counted]
    rfl
  | ok n =>
    obtain ⟨after, expanded, same, currentAfter, expands⟩ := expansion_expand current counted found.seed
    have evaluated : found.reset.evaluate o.iterations = .ok ⟨after, found.seed, found.rules.generation n found.seed⟩ :=
      bind_ok.mpr ⟨n, counted, bind_ok.mpr ⟨_, expanded, rfl⟩⟩
    refine ⟨after, same, currentAfter, ?_⟩
    rw [evaluated, expands]

theorem draw_drawn {found : Derivation} (current : Current found.rules) (d : DrawOptions K) :
    ∃ t state, t.rules = found.rules.rules ∧ Current t ∧
      found.draw d = (⟨t, found.seed, state⟩, drawn found.seed found.rules.rules d) := by
  rw [Derivation.draw, drawn]
  cases chosen : d.chosenFormat with
  | error failure => exact ⟨found.rules, found.state, rfl, current, rfl⟩
  | ok format =>
    obtain ⟨t, same, currentNext, traces⟩ := trace_traced current d.trace
    refine ⟨t, (traced found.seed found.rules.rules d.trace).1, same, currentNext, ?_⟩
    dsimp only
    rw [traces]
    rfl

theorem drawn_trace {d : DrawOptions K} {format : Format} {trace : Trace K} {result : Drawn K}
    (done : d.drawn format trace = .ok result) :
    result.commands = trace.commands ∧ Recorder.steps trace.primitives.toList = .ok result.steps := by
  obtain ⟨steps, resolved, done⟩ := bind_ok.mp done
  obtain ⟨image, _, done⟩ := bind_ok.mp done
  cases done
  exact ⟨rfl, resolved⟩

/-! ### Systems in a session -/

theorem system_current {s : Session} (sound : Sound s) {on : Text} {place : Nat} {found : Derivation}
    (standing : s.system on = .ok (place, found)) : Current found.rules :=
  (system_entry standing).2 ▸ tableAt_current sound.coherent place

/-- A process that is given a system decides what stands under the name then. -/
theorem withSystem_system {s : Session} (sound : Sound s) {on : Text} {place : Nat} {found next : Derivation} {α : Type}
    (process : Derivation → Derivation × Except Failure α) (current : ∀ found, Current found.rules → Current (process found).1.rules)
    {result : Except Failure α} (standing : s.system on = .ok (place, found)) (processed : process found = (next, result)) :
    (s.withSystem on process).1.system on = .ok (place, next) ∧ (s.withSystem on process).2 = result := by
  have standing : s.ledger.system on = .ok (place, found) := standing
  have inside : place < s.ledger.tables.size := entry_placed sound.coherent (system_entry standing).1
  have ledger := (withSystem_refines sound on process current).2
  rw [Ledger.withSystem, standing] at ledger
  dsimp only at ledger
  rw [processed] at ledger
  obtain ⟨left, answer⟩ := Prod.mk.inj ledger
  rw [Session.system, left, putSystem_system, tableAt_putTable, if_pos ⟨rfl, inside⟩]
  exact ⟨rfl, answer⟩

theorem draw_current (d : DrawOptions K) (found : Derivation) (current : Current found.rules) : Current (found.draw d).1.rules := by
  obtain ⟨t, state, _, currentNext, drawn⟩ := draw_drawn current d
  rw [drawn]
  exact currentNext

theorem trace_current (o : TraceOptions K) (found : Derivation) (current : Current found.rules) : Current (found.trace o).1.rules :=
  (trace_kept current o).2.2

def stateOf (s : Session) (on : Text) : Except Failure Sequence := do return (← s.system on).2.state

/-- Under a name stands a system with a seed, in whose table there are rules. -/
structure Bears (s : Session) (on : Text) (seed : Sequence) (rules : List (Symbol × Sequence)) : Prop where
  sound : Sound s
  stands : ∃ place found, s.system on = .ok (place, found) ∧ found.seed = seed ∧ found.rules.rules = rules

section
variable {s : Session} {on : Text} {seed : Sequence} {rules : List (Symbol × Sequence)}

theorem Bears.trace (bears : Bears s on seed rules) (o : TraceOptions K) :
    (s.withSystem on (·.trace o)).2 = (traced seed rules o).2 ∧
      stateOf (s.withSystem on (·.trace o)).1 on = .ok (traced seed rules o).1 ∧
      Bears (s.withSystem on (·.trace o)).1 on seed rules := by
  obtain ⟨sound, place, found, standing, rfl, rfl⟩ := bears
  obtain ⟨t, same, _, traces⟩ := trace_traced (system_current sound standing) o
  obtain ⟨stands, result⟩ := withSystem_system sound (·.trace o) (trace_current o) standing traces
  exact ⟨result, bind_ok.mpr ⟨_, stands, rfl⟩, did_sound sound (.trace on o), place, _, stands, rfl, same⟩

theorem Bears.draw (bears : Bears s on seed rules) (d : DrawOptions K) :
    (s.withSystem on (·.draw d)).2 = drawn seed rules d ∧ Bears (s.withSystem on (·.draw d)).1 on seed rules := by
  obtain ⟨sound, place, found, standing, rfl, rfl⟩ := bears
  obtain ⟨t, state, same, _, draws⟩ := draw_drawn (system_current sound standing) d
  obtain ⟨stands, result⟩ := withSystem_system sound (·.draw d) (draw_current d) standing draws
  exact ⟨result, (withSystem_refines sound on _ (draw_current d)).1, place, _, stands, rfl, same⟩

end

/-! ### Main statements -/

/-- What is true of tracing a system, whatever its session went through: what is answered, and the session after it. -/
structure Repeatable (s : Session) (on : Text) (place : Nat) (found : Derivation) (o : TraceOptions K) (next : Session)
    (answer : Except Failure (Trace K)) : Prop where
  result : answer = (traced found.seed found.rules.rules o).2
  /-- The system keeps its seed and the rules of its table. -/
  left : ∃ t, t.rules = found.rules.rules ∧ next.system on = .ok (place, ⟨t, found.seed, (traced found.seed found.rules.rules o).1⟩)
  within : Within (.state on) s next
  rejected : ∀ failure, generationCount o.iterations = .error failure → answer = .error failure ∧ stateOf next on = .ok found.seed
  /-- Whether the walk succeeds or not, it is one over the expansion of the seed. -/
  evaluated : ∀ n, generationCount o.iterations = .ok n → ∃ state t, found.rules.expand n found.seed = .ok (state, t) ∧
    answer = o.walk state ∧ stateOf next on = .ok state
  /-- Another session with a history of its own, and a system there of the same seed and rules. -/
  alike : ∀ (deeds : List (Deed K)) other elsewhere twin, (after .empty deeds).system other = .ok (elsewhere, twin) →
    twin.seed = found.seed → twin.rules.rules = found.rules.rules →
    ((after .empty deeds).withSystem other (·.trace o)).2 = answer ∧
      stateOf ((after .empty deeds).withSystem other (·.trace o)).1 other = stateOf next on
  again : (next.withSystem on (·.trace o)).2 = answer ∧ stateOf (next.withSystem on (·.trace o)).1 on = stateOf next on
  /-- A drawing after the trace has its count, and the steps of its primitives. -/
  draws : ∀ d trace, d.trace = o → answer = .ok trace →
    (next.withSystem on (·.draw d)).2 = (do d.drawn (← d.chosenFormat) trace) ∧
    ∀ format result, d.drawn format trace = .ok result →
      result.commands = trace.commands ∧ Recorder.steps trace.primitives.toList = .ok result.steps
  redraws : ∀ d : DrawOptions K, ((s.withSystem on (·.draw d)).1.withSystem on (·.draw d)).2 = (s.withSystem on (·.draw d)).2

/-- After any deeds, failing ones included, what comes of tracing a system and the state that it is left in are
    those that its seed, its table's rules and the options have in every session: the seed where the generations
    are rejected, and the expansion of the seed otherwise. Tracing or drawing it again repeats them. -/
theorem traces_repeatable (deeds : List (Deed K)) {on : Text} {place : Nat} {found : Derivation}
    (standing : (after .empty deeds).system on = .ok (place, found)) (o : TraceOptions K) :
    Repeatable (after .empty deeds) on place found o ((after .empty deeds).withSystem on (·.trace o)).1
      ((after .empty deeds).withSystem on (·.trace o)).2 := by
  have sound := after_sound empty_sound deeds
  have bears : Bears (after .empty deeds) on found.seed found.rules.rules := ⟨sound, place, found, standing, rfl, rfl⟩
  obtain ⟨result, state, still⟩ := bears.trace o
  exact {
    result
    left := by
      obtain ⟨t, same, _, traces⟩ := trace_traced (system_current sound standing) o
      exact ⟨t, same, (withSystem_system sound (·.trace o) (trace_current o) standing traces).1⟩
    within := trace_within sound on o
    rejected := fun failure rejected => by
      rw [result, state, traced, expansion_rejected rejected]
      exact ⟨rfl, rfl⟩
    evaluated := fun n counted => by
      obtain ⟨t, expanded, _, _, expands⟩ := expansion_expand (system_current sound standing) counted found.seed
      refine ⟨_, t, expanded, ?_⟩
      rw [result, state, traced, expands]
      exact ⟨rfl, rfl⟩
    alike := fun others other elsewhere twin twinStanding seed rules => by
      have twins : Bears (after .empty others) other found.seed found.rules.rules :=
        ⟨after_sound empty_sound others, elsewhere, twin, twinStanding, seed, rules⟩
      obtain ⟨twinResult, twinState, _⟩ := twins.trace o
      exact ⟨twinResult.trans result.symm, twinState.trans state.symm⟩
    again := by
      obtain ⟨resultAgain, stateAgain, _⟩ := still.trace o
      exact ⟨resultAgain.trans result.symm, stateAgain.trans state.symm⟩
    draws := fun d trace same walked => by
      subst same
      refine ⟨(still.draw d).1.trans ?_, fun _ _ => drawn_trace⟩
      rw [drawn, result.symm.trans walked]
      rfl
    redraws := fun d => by
      obtain ⟨drew, stillDrawn⟩ := bears.draw d
      exact (stillDrawn.draw d).1.trans drew.symm }

/-- A history with a trace that is rejected, a state that was written into, and one that went on from it. -/
def worn (on : Text) (o : TraceOptions Float) : List (Deed Float) :=
  [.act (.newSystem on (.text [70]) (.object [([70], .text [70, 43, 70])])), .trace on { o with iterations := .int (-1) },
    .trace on o, .act (.writeState on 0 88), .act (.evaluate on (.int 1))]

theorem worn_repeatable :
    let o : TraceOptions Float :=
      { forward := .real 10.0, turn := .real 90.0, iterations := .int 1, pen := .list [0.5, 0.5, 0.5], startX := .real 0.0,
        startY := .real 0.0, orientation := .real 0.0, hook := none, randomness := .seed (.int 7) }
    let t : RuleTable := ⟨[(70, [70, 43, 70])], some (Index.ofRules [(70, [70, 43, 70])])⟩
    (after .empty (worn [97] o)).system [97] = .ok (0, ⟨t, [70], [88, 43, 70, 43, 70]⟩) ∧
      Repeatable (after .empty (worn [97] o)) [97] 0 ⟨t, [70], [88, 43, 70, 43, 70]⟩ o
        ((after .empty (worn [97] o)).withSystem [97] (·.trace o)).1 ((after .empty (worn [97] o)).withSystem [97] (·.trace o)).2 := by
  intro o t
  have standing : (after .empty (worn [97] o)).system [97] = .ok (0, ⟨t, [70], [88, 43, 70, 43, 70]⟩) :=
    toOption_ok.mp (by decide +kernel)
  exact ⟨standing, traces_repeatable (worn [97] o) standing o⟩

end Lindenmayer.Tracing
