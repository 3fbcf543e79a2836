import Lindenmayer.Proofs.Starting

/-!
Passes that fail. A pass fails at one of its arguments or at a symbol (`pass_stops`), and what it leaves is told by what
stopped it (`stopped_pass`). Without a hook only a move can fail, and it fails before anything of the turtle has changed
but the heading, as long as the cosine and the sine are defined at the same angles (`read_stopped`).
-/
namespace Lindenmayer.Stopping
open Outcomes Passes Starting

/-- What a pass fails at. -/
inductive Obstacle where
  | step | penWidth | sequence | turnAngle | randomness
  | symbol (before : Sequence)

variable {K : Type} [Scalar K]

/-- What stops a pass over a sequence, with the failure. Each comes up only when there was nothing before it. -/
inductive Stops (o : Start K) : Except Failure Sequence → Obstacle → Failure → Prop where
  | step {sequence} (small : o.step.isPositive = false) : Stops o sequence .step (.stepNotPositive o.step.shown)
  | penWidth {sequence} (positive : o.step.isPositive = true) (small : Scalar.lt Scalar.zero o.turtle.penWidth = false) :
      Stops o sequence .penWidth (.penWidthNotPositive (Number.real o.turtle.penWidth).shown)
  | sequence {failure} (checked : renderChecks o.turtle o.step = .ok ()) : Stops o (.error failure) .sequence failure
  | unconverted {s failure} (checked : renderChecks o.turtle o.step = .ok ()) (large : o.step.toScalar = .error failure) :
      Stops o (.ok s) .step failure
  | turnAngle {s step failure} (checked : renderChecks o.turtle o.step = .ok ()) (strode : o.step.toScalar = .ok step)
      (large : o.turnAngle.toScalar = .error failure) : Stops o (.ok s) .turnAngle failure
  | randomness {s step turnAngle failure} (some_ : s ≠ []) (checked : renderChecks o.turtle o.step = .ok ())
      (strode : o.step.toScalar = .ok step) (turned : o.turnAngle.toScalar = .ok turnAngle)
      (unseeded : o.randomness.start = .error failure) : Stops o (.ok s) .randomness failure
  | symbol {before s after first r left failure} (begun : o.run = .ok first) (arrived : first.walk o.hook before = .ok r)
      (failed : r.read o.hook s = .error (failure, left)) : Stops o (.ok (before ++ s :: after)) (.symbol before) failure

/-- What a pass over the beginning of a sequence has emitted, and before the first symbol what passes open with. -/
def emittedBefore (o : Start K) (before : Sequence) : List (Primitive K) :=
  if before = [] then opening o.turtle else (o.pass (.ok before)).emitted.toList

/-- What a pass leaves that was stopped. At a symbol this is told of passes without a hook. -/
def Leaves (o : Start K) (left : Pass K) : Obstacle → Prop
  | .step | .penWidth | .sequence => left.turtle = o.turtle ∧ left.emitted = #[]
  | .turnAngle => ∃ step, o.step.toScalar = .ok step ∧ left.turtle = { o.turtle with step } ∧ left.emitted = #[]
  | .randomness => ∃ step turnAngle, o.step.toScalar = .ok step ∧ o.turnAngle.toScalar = .ok turnAngle ∧
      left.turtle = { o.turtle with step, turnAngle } ∧ left.emitted = #[]
  | .symbol before => o.hook = none → (o.pass (.ok before)).count = .ok before.length ∧
      left.emitted.toList = emittedBefore o before ∧ ∃ heading, left.turtle = { (o.pass (.ok before)).turtle with heading }

/-! ### Symbols -/

variable (K) in
/-- The cosine and the sine fail for the same angles. -/
def SameDomain : Prop := ∀ angle : K, (Scalar.cosDegrees angle).isOk = (Scalar.sinDegrees angle).isOk

theorem float_sameDomain : SameDomain Float := by
  intro angle
  change (Double.periodic Float.cos angle).isOk = (Double.periodic Float.sin angle).isOk
  rw [Double.periodic, Double.periodic]
  split <;> rfl

theorem advance_stopped (domain : SameDomain K) {t left : Turtle K} {distance : K} {failure : Failure}
    (failed : t.advance distance = .error (failure, left)) : left = t := by
  rw [Turtle.advance] at failed
  have alike := domain t.heading
  cases cosine : Scalar.cosDegrees t.heading with
  | error =>
    rw [cosine] at failed
    cases failed
    rfl
  | ok c =>
    cases sine : Scalar.sinDegrees t.heading with
    | error =>
      rw [cosine, sine] at alike
      cases alike
    | ok s =>
      simp only [cosine, sine] at failed
      cases failed

theorem move_stopped (domain : SameDomain K) {r left : Run K} {distance : K} {failure : Failure}
    (failed : r.move distance = .error (failure, left)) : left = r := by
  rw [Run.move] at failed
  cases advanced : r.turtle.advance distance with
  | error stopped =>
    obtain ⟨f, t⟩ := stopped
    rw [advanced] at failed
    cases failed
    rw [advance_stopped domain advanced]
    rfl
  | ok t =>
    rw [advanced] at failed
    cases failed

omit [Scalar K] in
/-- A run of which only the turtle's heading may differ. -/
def ButHeading (r left : Run K) : Prop := ∃ heading, left = r.withTurtle { r.turtle with heading }

omit [Scalar K] in
theorem butHeading_refl (r : Run K) : ButHeading r r := ⟨r.turtle.heading, rfl⟩

theorem turn_butHeading (r : Run K) (angle : K) : ButHeading r (r.turn angle) := ⟨r.turtle.heading + angle, rfl⟩

/-- Without a hook a command that fails leaves all but the heading as it was. -/
theorem obey_stopped (domain : SameDomain K) {r left : Run K} {command : Command} {failure : Failure}
    (failed : r.obey none command = .error (failure, left)) : ButHeading r left := by
  cases command with
  | forward | halfForward =>
    rw [move_stopped domain failed]
    exact butHeading_refl r
  | backward =>
    rw [Run.obey] at failed
    cases moved : (r.turn (Scalar.ofInt 180)).move r.turtle.step with
    | ok middle =>
      rw [moved] at failed
      cases failed
    | error stopped =>
      obtain ⟨f, l⟩ := stopped
      rw [moved] at failed
      cases failed
      rw [move_stopped domain moved]
      exact turn_butHeading r _
  | halfBackward =>
    rw [move_stopped (r := r.turn (Scalar.ofInt 180)) domain failed]
    exact turn_butHeading r _
  | pop =>
    rw [Run.obey] at failed
    cases popped : r.turtle.pop? with
    | none | some =>
      rw [popped] at failed
      cases failed
  | _ => cases failed

theorem read_stopped (domain : SameDomain K) {r left : Run K} {s : Symbol} {failure : Failure}
    (failed : r.read none s = .error (failure, left)) : ButHeading r left := by
  rw [Run.read] at failed
  cases ordered : Command.ofSymbol? s with
  | none =>
    rw [ordered] at failed
    cases failed
  | some command =>
    rw [ordered] at failed
    exact obey_stopped domain failed

/-- A walk fails at the first symbol that does. -/
theorem walk_error {hook : Option (Hook K)} {r left : Run K} {s : Sequence} {failure : Failure} :
    r.walk hook s = .error (failure, left) ↔
      ∃ before x after middle, s = before ++ x :: after ∧ r.walk hook before = .ok middle ∧
        middle.read hook x = .error (failure, left) := by
  constructor
  · intro failed
    induction s generalizing r with
    | nil => cases failed
    | cons x rest ih =>
      rw [Run.walk] at failed
      cases read : r.read hook x with
      | error stopped =>
        rw [read] at failed
        cases failed
        exact ⟨[], x, rest, r, rfl, rfl, read⟩
      | ok next =>
        rw [read] at failed
        obtain ⟨before, y, after, middle, rfl, arrived, stopped⟩ := ih failed
        refine ⟨x :: before, y, after, middle, rfl, ?_, stopped⟩
        rw [Run.walk, read]
        exact arrived
  · rintro ⟨before, x, after, middle, rfl, arrived, stopped⟩
    rw [walk_joined, arrived]
    simp only [Except.bind, Run.walk, stopped]

/-! ### Passes -/

theorem renderChecks_error {turtle : Turtle K} {step : Number K} {failure : Failure} : renderChecks turtle step = .error failure ↔
    (step.isPositive = false ∧ failure = .stepNotPositive step.shown) ∨
      (step.isPositive = true ∧ Scalar.lt Scalar.zero turtle.penWidth = false ∧
        failure = .penWidthNotPositive (Number.real turtle.penWidth).shown) := by
  rw [renderChecks]
  cases step.isPositive with
  | false =>
    constructor
    · intro failed
      cases failed
      exact .inl ⟨rfl, rfl⟩
    · rintro (⟨-, rfl⟩ | ⟨impossible, -⟩)
      · rfl
      · cases impossible
  | true =>
    cases Scalar.lt Scalar.zero turtle.penWidth with
    | false =>
      constructor
      · intro failed
        cases failed
        exact .inr ⟨rfl, rfl, rfl⟩
      · rintro (⟨impossible, -⟩ | ⟨-, -, rfl⟩)
        · cases impossible
        · rfl
    | true =>
      constructor
      · intro impossible
        cases impossible
      · rintro (⟨impossible, -⟩ | ⟨-, impossible, -⟩) <;> cases impossible

theorem pass_unchecked {o : Start K} {failure : Failure} (unchecked : renderChecks o.turtle o.step = .error failure)
    (sequence : Except Failure Sequence) : o.pass sequence = .blank o.turtle o.calls (.error failure) := by
  rw [Start.pass, render, unchecked]
  rfl

/-- What was stopped fails, and leaves what is told of its obstacle. -/
theorem stopped_pass (domain : SameDomain K) {o : Start K} {sequence : Except Failure Sequence} {obstacle : Obstacle}
    {failure : Failure} (stopped : Stops o sequence obstacle failure) :
    (o.pass sequence).count = .error failure ∧ Leaves o (o.pass sequence) obstacle := by
  cases stopped with
  | step small =>
    rw [pass_unchecked (renderChecks_error.mpr (.inl ⟨small, rfl⟩))]
    exact ⟨rfl, rfl, rfl⟩
  | penWidth positive small =>
    rw [pass_unchecked (renderChecks_error.mpr (.inr ⟨positive, small, rfl⟩))]
    exact ⟨rfl, rfl, rfl⟩
  | sequence checked =>
    rw [Start.pass, render, checked]
    exact ⟨rfl, rfl, rfl⟩
  | unconverted checked large =>
    simp only [Start.pass, render, checked, ok_bind, setStride, large]
    exact ⟨rfl, rfl, rfl⟩
  | turnAngle checked strode large =>
    simp only [Start.pass, render, checked, ok_bind, setStride, strode, large]
    exact ⟨rfl, _, strode, rfl, rfl⟩
  | @randomness s _ _ _ some_ checked strode turned unseeded =>
    have full : ¬ s.isEmpty = true := by simpa using some_
    rw [Start.pass, render_checked checked strode turned, renderSequence, if_neg full, unseeded]
    exact ⟨rfl, _, _, strode, turned, rfl, rfl⟩
  | @symbol before s after first r left _ begun arrived failed =>
    have pass := pass_onward begun arrived (s :: after) (by simp)
    have stops : r.walk o.hook (s :: after) = .error (failure, left) := by rw [Run.walk, failed]
    rw [pass, stops]
    refine ⟨rfl, fun hookless => ?_⟩
    rw [hookless] at failed
    obtain ⟨heading, rfl⟩ := read_stopped domain failed
    have reaches := walk_reaches begun arrived
    refine ⟨reaches.count, ?_, heading, ?_⟩
    · change r.emitted.toList = emittedBefore o before
      by_cases empty : before = []
      · rw [emittedBefore, if_pos empty]
        subst empty
        cases arrived
        exact (run_begins begun).emitted
      · rw [emittedBefore, if_neg empty, reaches.emitted empty]
    · rw [reaches.turtle]
      rfl

/-- Whatever fails has been stopped. -/
theorem pass_stops {o : Start K} {sequence : Except Failure Sequence} {failure : Failure}
    (failed : (o.pass sequence).count = .error failure) : ∃ obstacle, Stops o sequence obstacle failure := by
  cases checked : renderChecks o.turtle o.step with
  | error unchecked =>
    rw [pass_unchecked checked] at failed
    cases failed
    rcases renderChecks_error.mp checked with ⟨small, rfl⟩ | ⟨positive, small, rfl⟩
    · exact ⟨.step, .step small⟩
    · exact ⟨.penWidth, .penWidth positive small⟩
  | ok =>
    cases sequence with
    | error none_ =>
      rw [Start.pass, render, checked] at failed
      cases failed
      exact ⟨.sequence, .sequence checked⟩
    | ok s =>
      cases strode : o.step.toScalar with
      | error large =>
        simp only [Start.pass, render, checked, ok_bind, setStride, strode] at failed
        cases failed
        exact ⟨.step, .unconverted checked strode⟩
      | ok step =>
        cases turned : o.turnAngle.toScalar with
        | error large =>
          simp only [Start.pass, render, checked, ok_bind, setStride, strode, turned] at failed
          cases failed
          exact ⟨.turnAngle, .turnAngle checked strode turned⟩
        | ok turnAngle =>
          by_cases empty : s = []
          · rw [Start.pass, render_checked checked strode turned, empty] at failed
            cases failed
          have full : ¬ s.isEmpty = true := by simpa using empty
          cases started : o.randomness.start with
          | error unseeded =>
            rw [Start.pass, render_checked checked strode turned, renderSequence, if_neg full, started] at failed
            cases failed
            exact ⟨.randomness, .randomness empty checked strode turned started⟩
          | ok g =>
            obtain ⟨first, begun, -⟩ := begins_run checked strode turned started
            rw [pass_walk begun empty] at failed
            cases walked : first.walk o.hook s with
            | ok last =>
              rw [walked] at failed
              cases failed
            | error stopped =>
              obtain ⟨f, left⟩ := stopped
              rw [walked] at failed
              cases failed
              obtain ⟨before, x, after, r, rfl, arrived, read⟩ := walk_error.mp walked
              exact ⟨.symbol before, .symbol begun arrived read⟩

/-- A pass fails just if something stops it. Of the turtle and of what was emitted it leaves what its obstacle lets
    it. -/
theorem failed_pass_leaves (domain : SameDomain K) (o : Start K) (sequence : Except Failure Sequence) (failure : Failure) :
    ((o.pass sequence).count = .error failure ↔ ∃ obstacle, Stops o sequence obstacle failure) ∧
      ∀ obstacle, Stops o sequence obstacle failure → Leaves o (o.pass sequence) obstacle := by
  refine ⟨⟨pass_stops, ?_⟩, fun obstacle stopped => (stopped_pass domain stopped).2⟩
  rintro ⟨obstacle, stopped⟩
  exact (stopped_pass domain stopped).1

/-! ### Infinite headings -/

theorem move_endless {r : Run Float} (endless : (Double.radians r.turtle.heading).isInf = true) (distance : Float) :
    r.move distance = .error (.outsideDomain, r) := by
  have cosine : Scalar.cosDegrees r.turtle.heading = .error .outsideDomain := if_pos endless
  rw [Run.move, Turtle.advance, cosine]
  rfl

/-- A turtle with an infinite heading cannot go on. -/
theorem endless_stops {o : Start Float} {g : Generator} {before : Sequence} {n : Nat} (started : o.randomness.start = .ok g)
    (completes : (o.pass (.ok before)).count = .ok n) (endless : (Double.radians (o.pass (.ok before)).turtle.heading).isInf = true)
    (after : Sequence) : Stops o (.ok (before ++ .ofChar 'F' :: after)) (.symbol before) .outsideDomain := by
  obtain ⟨first, begun, -⟩ := started_begins started completes
  obtain ⟨r, arrived⟩ := completes_walks begun completes
  rw [(walk_reaches begun arrived).turtle] at endless
  exact .symbol begun arrived (move_endless endless r.turtle.step)

/-- The turtle goes on once, turns to an infinite heading and stays. -/
theorem endless_turn_leaves :
    let o : Start Float := ⟨none, 0, .seed .null, Turtle.initial, .real 10.0, .real Double.infinity⟩
    SameDomain Float ∧ Stops o (.ok [70, 43, 70]) (.symbol [70, 43]) .outsideDomain ∧
      (o.pass (.ok [70, 43, 70])).count = .error .outsideDomain ∧ Leaves o (o.pass (.ok [70, 43, 70])) (.symbol [70, 43]) := by
  intro o
  have counted : (o.pass (.ok [70, 43])).count = .ok 2 := toOption_ok.mp (by decide +kernel)
  have stopped : Stops o (.ok [70, 43, 70]) (.symbol [70, 43]) .outsideDomain := endless_stops rfl counted (by decide +kernel) []
  obtain ⟨failed, leaves⟩ := failed_pass_leaves float_sameDomain o (.ok [70, 43, 70]) .outsideDomain
  exact ⟨float_sameDomain, stopped, failed.mpr ⟨_, stopped⟩, leaves _ stopped⟩

/-- Before its first symbol a pass has opened, while the pass over the empty sequence emits nothing. -/
theorem first_symbol_opened :
    let o : Start Float := ⟨none, 0, .seed .null, { Turtle.initial with heading := Double.infinity }, .real 10.0, .real 90.0⟩
    o.hook = none ∧ Stops o (.ok [70]) (.symbol []) .outsideDomain ∧ (o.pass (.ok [70])).count = .error .outsideDomain ∧
      (o.pass (.ok [])).emitted.toList = [] ∧ (o.pass (.ok [70])).emitted.toList = opening o.turtle ∧
      (o.pass (.ok [70])).emitted ≠ (o.pass (.ok [])).emitted := by
  intro o
  have stopped : Stops o (.ok [70]) (.symbol []) .outsideDomain := by
    have counted : (o.pass (.ok [])).count = .ok 0 := toOption_ok.mp (by decide +kernel)
    exact endless_stops rfl counted (by decide +kernel) []
  obtain ⟨failed, leaves⟩ := stopped_pass float_sameDomain stopped
  have nothing : (o.pass (.ok [])).emitted.toList = [] := by decide +kernel
  have opened : (o.pass (.ok [70])).emitted.toList = opening o.turtle := (leaves rfl).2.1
  refine ⟨rfl, stopped, failed, nothing, opened, fun same => ?_⟩
  rw [same, nothing] at opened
  cases opened

end Lindenmayer.Stopping
