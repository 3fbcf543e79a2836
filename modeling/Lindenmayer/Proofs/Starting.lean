import Lindenmayer.Proofs.Passes

/-!
Passes from the run that they begin with. A pass whose checks succeed sets its stride, starts its generator and
opens (`Start.run`), and from there it is the walk of its sequence (`pass_walk`). The empty sequence is not walked:
its pass does not open and leaves the generator alone. What a pass has come to when it has read the beginning of a
sequence is therefore what the pass over that beginning leaves, but for the opening (`walk_reaches`), and one symbol
more is read from there (`pass_snoc`).
-/
namespace Lindenmayer.Starting
open Outcomes Passes

/-- All that a pass is given, but for its sequence. -/
structure Start (K : Type) where
  hook : Option (Hook K)
  /-- How often the hook was called before. -/
  calls : Nat
  randomness : Randomness
  turtle : Turtle K
  step : Number K
  turnAngle : Number K

variable {K : Type} [Scalar K]

/-- The pass over a sequence. -/
def Start.pass (o : Start K) (sequence : Except Failure Sequence) : Pass K :=
  render o.hook o.calls o.randomness o.turtle o.step o.turnAngle sequence

/-- The run that a sequence is walked from: the stride is set, the generator is started, and the pass has opened. -/
def Start.run (o : Start K) : Except Failure (Run K) := do
  renderChecks o.turtle o.step
  let step ← o.step.toScalar
  let turnAngle ← o.turnAngle.toScalar
  let generator ← o.randomness.start
  return Run.setUp ⟨{ o.turtle with step, turnAngle }, generator, o.calls, #[]⟩

/-- The pass that comes of the walk of so many symbols. -/
def passOf (length : Nat) : Outcome K → Pass K
  | .ok last => .ofRun last (.ok length)
  | .error (failure, left) => .ofRun left (.error failure)

/-- The generator that a pass leaves of its randomness, which an empty pass does not touch. -/
def Start.left (o : Start K) (pass : Pass K) : Except Failure Generator :=
  match pass.generator with
  | some g => .ok g
  | none => o.randomness.start

/-- What the run that a pass begins with is made of. -/
structure Begins (o : Start K) (first : Run K) : Prop where
  checked : renderChecks o.turtle o.step = .ok ()
  step : o.step.toScalar = .ok first.turtle.step
  turnAngle : o.turnAngle.toScalar = .ok first.turtle.turnAngle
  turtle : first.turtle = { o.turtle with step := first.turtle.step, turnAngle := first.turtle.turnAngle }
  generator : o.randomness.start = .ok first.generator
  calls : first.calls = o.calls
  emitted : first.emitted.toList = opening o.turtle

theorem run_begins {o : Start K} {first : Run K} (begun : o.run = .ok first) : Begins o first := by
  obtain ⟨⟨⟩, checked, begun⟩ := bind_ok.mp begun
  obtain ⟨s, strode, begun⟩ := bind_ok.mp begun
  obtain ⟨a, turned, begun⟩ := bind_ok.mp begun
  obtain ⟨g, started, begun⟩ := bind_ok.mp begun
  cases begun
  rw [setUp_opening]
  refine ⟨checked, strode, turned, rfl, started, rfl, ?_⟩
  simp [opening]

theorem begins_run {o : Start K} {s a : K} {g : Generator} (checked : renderChecks o.turtle o.step = .ok ())
    (strode : o.step.toScalar = .ok s) (turned : o.turnAngle.toScalar = .ok a) (started : o.randomness.start = .ok g) :
    ∃ first, o.run = .ok first ∧ first.generator = g := by
  refine ⟨_, bind_ok.mpr ⟨(), checked, bind_ok.mpr ⟨s, strode, bind_ok.mpr ⟨a, turned, bind_ok.mpr ⟨g, started, rfl⟩⟩⟩⟩, ?_⟩
  rw [setUp_opening]

theorem run_checked {o : Start K} {first : Run K} (begun : o.run = .ok first) (s : Sequence) :
    o.pass (.ok s) = renderSequence o.hook o.calls o.randomness first.turtle s := by
  have begins := run_begins begun
  rw [begins.turtle]
  exact render_checked begins.checked begins.step begins.turnAngle o.hook o.calls o.randomness s

/-- A pass over a sequence that is not empty is the walk from its first run. -/
theorem pass_walk {o : Start K} {first : Run K} (begun : o.run = .ok first) {s : Sequence} (some_ : s ≠ []) :
    o.pass (.ok s) = passOf s.length (first.walk o.hook s) := by
  have full : ¬ s.isEmpty = true := by simpa using some_
  have begins := run_begins begun
  have opened : Run.setUp ⟨first.turtle, first.generator, o.calls, #[]⟩ = first := by
    have drawn : (opening first.turtle).foldl Array.push #[] = first.emitted := by
      apply Array.toList_inj.mp
      rw [begins.emitted, begins.turtle]
      simp [opening]
    rw [setUp_opening, drawn, ← begins.calls]
  rw [run_checked begun, renderSequence, if_neg full, begins.generator]
  dsimp only
  rw [opened]
  cases first.walk o.hook s with
  | ok | error => rfl

theorem pass_empty {o : Start K} {first : Run K} (begun : o.run = .ok first) : o.pass (.ok []) = .blank first.turtle o.calls (.ok 0) :=
  run_checked begun []

theorem empty_emits (o : Start K) : (o.pass (.ok [])).emitted = #[] := by
  rw [Start.pass, render]
  cases renderChecks o.turtle o.step with
  | error failure => rfl
  | ok =>
    rw [ok_bind]
    dsimp only
    cases setStride o.turtle o.step o.turnAngle with
    | error | ok => rfl

/-- A pass that completes has begun if its generator starts. -/
theorem started_begins {o : Start K} {s : Sequence} {n : Nat} {g : Generator} (started : o.randomness.start = .ok g)
    (completes : (o.pass (.ok s)).count = .ok n) : ∃ first, o.run = .ok first ∧ first.generator = g := by
  obtain ⟨stride, angle, strode, turned, -⟩ := render_completes completes
  exact begins_run (completes_checked completes) strode turned started

theorem completes_begins {o : Start K} {s : Sequence} {n : Nat} (some_ : s ≠ []) (completes : (o.pass (.ok s)).count = .ok n) :
    ∃ first, o.run = .ok first := by
  obtain ⟨_, _, _, _, rendered⟩ := render_completes completes
  rw [Start.pass, rendered] at completes
  obtain ⟨g, _, started, -⟩ := renderSequence_completes some_ completes
  rw [← rendered] at completes
  obtain ⟨first, begun, -⟩ := started_begins started completes
  exact ⟨first, begun⟩

/-! ### What a pass has come to -/

/-- A pass has read a sequence and come to a run. An empty pass has not opened. -/
structure Reaches (o : Start K) (s : Sequence) (r : Run K) : Prop where
  count : (o.pass (.ok s)).count = .ok s.length
  turtle : (o.pass (.ok s)).turtle = r.turtle
  calls : (o.pass (.ok s)).calls = r.calls
  generator : o.left (o.pass (.ok s)) = .ok r.generator
  emitted : s ≠ [] → (o.pass (.ok s)).emitted = r.emitted

theorem walk_reaches {o : Start K} {first r : Run K} {s : Sequence} (begun : o.run = .ok first)
    (walked : first.walk o.hook s = .ok r) : Reaches o s r := by
  by_cases empty : s = []
  · subst empty
    cases walked
    have pass := pass_empty begun
    have begins := run_begins begun
    refine ⟨by rw [pass]; rfl, by rw [pass]; rfl, ?_, ?_, fun some_ => absurd rfl some_⟩
    · rw [pass]
      exact begins.calls.symm
    · rw [pass]
      exact begins.generator
  · have pass := pass_walk begun empty
    rw [walked] at pass
    exact ⟨by rw [pass]; rfl, by rw [pass]; rfl, by rw [pass]; rfl, by rw [pass]; rfl, fun _ => by rw [pass]; rfl⟩

theorem completes_walks {o : Start K} {first : Run K} {s : Sequence} {n : Nat} (begun : o.run = .ok first)
    (completes : (o.pass (.ok s)).count = .ok n) : ∃ r, first.walk o.hook s = .ok r := by
  by_cases empty : s = []
  · subst empty
    exact ⟨first, rfl⟩
  · rw [pass_walk begun empty] at completes
    cases walked : first.walk o.hook s with
    | ok r => exact ⟨r, rfl⟩
    | error failed =>
      rw [walked] at completes
      cases completes

/-- What comes behind the beginning of a sequence is walked from the run that it came to. -/
theorem pass_onward {o : Start K} {first r : Run K} {s : Sequence} (begun : o.run = .ok first)
    (walked : first.walk o.hook s = .ok r) (rest : Sequence) (some_ : s ++ rest ≠ []) :
    o.pass (.ok (s ++ rest)) = passOf (s ++ rest).length (r.walk o.hook rest) := by
  rw [pass_walk begun some_, walk_joined, walked]
  rfl

/-! ### One symbol more -/

/-- What is left, failed or not. -/
def leaves {α : Type} : Except (Failure × α) α → α
  | .ok r => r
  | .error (_, r) => r

omit [Scalar K] in
theorem passOf_turtle (n : Nat) (outcome : Outcome K) : (passOf n outcome).turtle = (leaves outcome).turtle := by
  cases outcome with
  | ok | error => rfl

omit [Scalar K] in
theorem passOf_emitted (n : Nat) (outcome : Outcome K) : (passOf n outcome).emitted = (leaves outcome).emitted := by
  cases outcome with
  | ok | error => rfl

/-- A pass over one more symbol comes of reading it, or has failed before. -/
theorem pass_snoc {o : Start K} {first : Run K} (begun : o.run = .ok first) (before : Sequence) (s : Symbol) :
    (∃ r, first.walk o.hook before = .ok r ∧ o.pass (.ok (before ++ [s])) = passOf (before ++ [s]).length (r.read o.hook s)) ∨
      (∀ n, (o.pass (.ok before)).count ≠ .ok n) ∧ o.pass (.ok (before ++ [s])) = o.pass (.ok before) := by
  cases walked : first.walk o.hook before with
  | ok r =>
    refine .inl ⟨r, rfl, ?_⟩
    rw [pass_onward begun walked [s] (by simp), Run.walk]
    cases r.read o.hook s with
    | ok | error => rfl
  | error failed =>
    obtain ⟨failure, left⟩ := failed
    have some_ : before ≠ [] := by
      rintro rfl
      cases walked
    have pass := pass_walk begun some_
    rw [walked] at pass
    refine .inr ⟨fun n completes => ?_, ?_⟩
    · rw [pass] at completes
      cases completes
    · rw [pass_walk begun (by simp), walk_joined, walked, pass]
      rfl

end Lindenmayer.Starting
