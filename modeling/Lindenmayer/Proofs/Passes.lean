import Lindenmayer.Proofs.Pens
import Lindenmayer.Proofs.Sketching

/-!
Whole passes. The turtle of a run goes where the turtle of a walk goes (`obey_orders`), so a pass that
completes leaves the turtle of the walk, and the steps that its primitives resolve to are the strokes of the
walk (`pass_sketch`). What a pass does to the beginning of a sequence is the beginning of what it does to
the whole (`pass_before`).
-/
namespace Lindenmayer.Passes
open Outcomes Comparing Replaying Writing Sketching Pens

variable {K : Type} [Scalar K]

/-- The turtle, the random numbers and the calls of a run. -/
def walker (r : Run K) : Walker K := ⟨r.turtle, r.generator, r.calls⟩

theorem go_ok {t after : Turtle K} {distance : K} (advanced : t.advance distance = .ok after) : go t distance = .ok after := by
  rw [go, advanced]
  rfl

theorem move_go {r next : Run K} {distance : K} (moved : r.move distance = .ok next) :
    ∃ t, go r.turtle distance = .ok t ∧ walker next = { walker r with turtle := t } := by
  obtain ⟨t, advanced, rfl⟩ := move_ok moved
  exact ⟨t, go_ok advanced, rfl⟩

/-- Emitting aside, a run obeys a command as a walk does. -/
theorem obey_orders {hook : Option (Hook K)} {r next : Run K} {command : Command} (obeyed : r.obey hook command = .ok next) :
    (walker r).order hook command = .ok (walker next) := by
  cases command with
  | forward =>
    obtain ⟨t, gone, same⟩ := move_go obeyed
    exact bind_ok.mpr ⟨t, gone, congrArg Except.ok same.symm⟩
  | backward =>
    obtain ⟨middle, moved, rfl⟩ := backward_ok obeyed
    obtain ⟨t, advanced, rfl⟩ := move_ok moved
    exact bind_ok.mpr ⟨t, go_ok advanced, rfl⟩
  | halfForward =>
    obtain ⟨t, gone, same⟩ := move_go obeyed
    exact bind_ok.mpr ⟨t, gone, congrArg Except.ok same.symm⟩
  | halfBackward =>
    obtain ⟨t, advanced, same⟩ := move_ok (r := r.turn (Scalar.ofInt 180)) obeyed
    rw [same]
    exact bind_ok.mpr ⟨t, go_ok advanced, rfl⟩
  | pop =>
    rcases pop_ok obeyed with ⟨nowhere, rfl⟩ | ⟨t, popped, rfl⟩
    · rw [Walker.order, walker, nowhere]
      rfl
    · rw [Walker.order, walker, popped]
      rfl
  | asterisk =>
    cases hook with
    | none =>
      cases obeyed
      rfl
    | some hook =>
      obtain ⟨t, done, rfl⟩ := callHook_ok obeyed
      have ran : (Action.run r.turtle (hook r.calls r.turtle)).mapError Prod.fst = .ok t := by
        rw [done]
        rfl
      exact bind_ok.mpr ⟨t, ran, rfl⟩
  | _ =>
    cases obeyed
    rfl

theorem go_carries {t after : Turtle K} {distance : K} (gone : go t distance = .ok after) : Carries t after := by
  rw [go] at gone
  cases advanced : t.advance distance with
  | error failed =>
    rw [advanced] at gone
    cases gone
  | ok place =>
    rw [advanced] at gone
    cases gone
    exact advance_carries advanced

omit [Scalar K] in
private theorem carries_same (t : Turtle K) : Carries t t := carries_untouched rfl rfl rfl rfl rfl

private theorem turn_carries (t : Turtle K) (angle : K) : Carries t (t.turn angle) := carries_untouched rfl rfl rfl rfl rfl

/-- No command confuses the writes of coordinates. -/
theorem order_carries {hook : Option (Hook K)} {w next : Walker K} {command : Command} (ordered : w.order hook command = .ok next) :
    Carries w.turtle next.turtle := by
  cases command with
  | forward | halfForward =>
    obtain ⟨t, gone, ordered⟩ := bind_ok.mp ordered
    cases ordered
    exact go_carries gone
  | backward =>
    obtain ⟨t, gone, ordered⟩ := bind_ok.mp ordered
    cases ordered
    exact ((turn_carries w.turtle _).trans (go_carries gone)).trans (turn_carries t _)
  | halfBackward =>
    obtain ⟨t, gone, ordered⟩ := bind_ok.mp ordered
    cases ordered
    exact (turn_carries w.turtle _).trans (go_carries gone)
  | push =>
    cases ordered
    exact push_carries w.turtle
  | pop =>
    cases ordered
    cases popped : w.turtle.pop? with
    | none => exact carries_same w.turtle
    | some t => exact pop_carries popped
  | asterisk =>
    cases hook with
    | none =>
      cases ordered
      exact carries_same w.turtle
    | some hook =>
      obtain ⟨t, ran, ordered⟩ := bind_ok.mp ordered
      cases ordered
      cases done : Action.run w.turtle (hook w.calls w.turtle) with
      | error failed =>
        rw [done] at ran
        cases ran
      | ok after =>
        rw [done] at ran
        cases ran
        exact run_carries done
  | _ =>
    cases ordered
    exact carries_untouched rfl rfl rfl rfl rfl

/-! ### Sequences -/

theorem walk_cons {hook : Option (Hook K)} {r last : Run K} {s : Symbol} {rest : Sequence}
    (walked : r.walk hook (s :: rest) = .ok last) : ∃ next, r.read hook s = .ok next ∧ next.walk hook rest = .ok last := by
  rw [Run.walk] at walked
  cases read : r.read hook s with
  | error failed =>
    rw [read] at walked
    cases walked
  | ok next =>
    rw [read] at walked
    exact ⟨next, rfl, walked⟩

theorem read_ok {hook : Option (Hook K)} {r next : Run K} {s : Symbol} (read : r.read hook s = .ok next) :
    (Command.ofSymbol? s = none ∧ next = r) ∨ ∃ command, Command.ofSymbol? s = some command ∧ r.obey hook command = .ok next := by
  rw [Run.read] at read
  cases ordered : Command.ofSymbol? s with
  | none =>
    rw [ordered] at read
    cases read
    exact .inl ⟨rfl, rfl⟩
  | some command =>
    rw [ordered] at read
    exact .inr ⟨command, rfl, read⟩

/-- A run that reads a whole sequence walks it, and emits the strokes of the walk. -/
theorem walk_sketch [LawfulScalar K] {hook : Option (Hook K)} {r last : Run K} {sequence : Sequence} (written : Written r.turtle)
    (walked : r.walk hook sequence = .ok last) :
    ∃ strokes, (walker r).sketch hook sequence = .ok (walker last, strokes) ∧ Emits r last strokes ∧ Written last.turtle := by
  induction sequence generalizing r with
  | nil =>
    cases walked
    exact ⟨[], rfl, emits_nothing rfl (LikeLook.refl _), written⟩
  | cons s rest ih =>
    obtain ⟨next, read, onward⟩ := walk_cons walked
    rcases read_ok read with ⟨unknown, rfl⟩ | ⟨command, ordered, obeyed⟩
    · obtain ⟨strokes, sketched, emits, writtenLast⟩ := ih written onward
      refine ⟨strokes, ?_, emits, writtenLast⟩
      rw [Walker.sketch, unknown]
      exact sketched
    · have done := obey_orders obeyed
      obtain ⟨strokes, sketched, emits, writtenLast⟩ := ih ((order_carries done).written written) onward
      refine ⟨drawn r.turtle next.turtle command ++ strokes, ?_, (obey_emits written obeyed).append emits, writtenLast⟩
      rw [Walker.sketch, ordered]
      exact bind_ok.mpr ⟨walker next, done, bind_ok.mpr ⟨_, sketched, rfl⟩⟩

theorem walk_joined (hook : Option (Hook K)) (r : Run K) (before after : Sequence) :
    r.walk hook (before ++ after) = (r.walk hook before).bind (·.walk hook after) := by
  induction before generalizing r with
  | nil => rfl
  | cons s rest ih =>
    rw [List.cons_append, Run.walk, Run.walk]
    cases r.read hook s with
    | error failed => rfl
    | ok next => exact ih next

theorem walk_append {hook : Option (Hook K)} {r last : Run K} {before after : Sequence}
    (walked : r.walk hook (before ++ after) = .ok last) :
    ∃ middle, r.walk hook before = .ok middle ∧ middle.walk hook after = .ok last := by
  rw [walk_joined] at walked
  exact bind_ok.mp walked

/-! ### Passes -/

/-- A recorder knows what shows of a turtle, and nothing else. -/
def Knows (r : Recorder K) (l : Look K) : Prop :=
  ∃ colour, Pen.colourText l.hue l.saturation l.brightness = .ok colour ∧ r = ⟨l.place, l.width, colour, l.opacity, l.down⟩

/-- What a pass emits before its first symbol. -/
def opening (t : Turtle K) : List (Primitive K) :=
  [.moveTo t.x t.y, .setLineWidth t.penWidth, .setPenColour t.hue t.saturation t.brightness t.opacity] ++
    if t.penDown then [] else [.penUp]

/-- From the beginning of a pass a new recorder learns what shows of the turtle, if the pen has a colour. -/
theorem opening_replay (t : Turtle K) (r : Recorder K) (steps : List (Step K)) :
    replay .initial (opening t) = .ok (r, steps) ↔ Knows r (look t) ∧ steps = [] := by
  rw [opening]
  cases named : Pen.colourText t.hue t.saturation t.brightness with
  | error failure => simp [replay, Recorder.follow, Knows, look, named, bind, Except.bind]
  | ok colour =>
    by_cases down : t.penDown = true
    · simp [replay, Recorder.follow, Recorder.step?, Recorder.shape?, Recorder.initial, Knows, look, named, down, bind, Except.bind, pure,
        Except.pure, eq_comm]
    · simp [replay, Recorder.follow, Recorder.step?, Recorder.shape?, Recorder.initial, Knows, look, named, down, bind, Except.bind, pure,
        Except.pure, eq_comm]

omit [Scalar K] in
theorem setUp_opening (r : Run K) : r.setUp = { r with emitted := (opening r.turtle).foldl Array.push r.emitted } := by
  by_cases down : r.turtle.penDown = true
  · simp [Run.setUp, opening, Run.emitPlace, Run.emitWidth, Run.emitColour, Run.emit, down]
  · simp [Run.setUp, opening, Run.emitPlace, Run.emitWidth, Run.emitColour, Run.emit, down]

/-- What a pass begins with brings the recorder to the turtle, and draws nothing. -/
theorem setUp_agrees {r : Run K} (fresh : r.emitted = #[]) {last : Recorder K} {steps : List (Step K)}
    (replayed : replay .initial r.setUp.emitted.toList = .ok (last, steps)) : Agrees last (look r.turtle) ∧ steps = [] := by
  have emitted : r.setUp.emitted.toList = opening r.turtle := by
    rw [setUp_opening, fresh]
    simp
  rw [emitted] at replayed
  obtain ⟨⟨colour, named, rfl⟩, nothing⟩ := (opening_replay r.turtle last steps).mp replayed
  exact ⟨⟨.refl _, .refl _, ⟨_, _, _, .refl _, .refl _, .refl _, named⟩, .refl _, rfl⟩, nothing⟩

omit [Scalar K] in
theorem setUp_walker (r : Run K) : walker r.setUp = walker r := by
  rw [setUp_opening]
  rfl

omit [Scalar K] in
theorem setUp_turtle (r : Run K) : r.setUp.turtle = r.turtle := congrArg Walker.turtle (setUp_walker r)

/-- A pass whose checks succeed walks its sequence with the stride set. -/
theorem render_checked {turtle : Turtle K} {step turnAngle : Number K} {s a : K} (checked : renderChecks turtle step = .ok ())
    (strode : step.toScalar = .ok s) (turned : turnAngle.toScalar = .ok a) (hook : Option (Hook K)) (calls : Nat)
    (randomness : Randomness) (sequence : Sequence) : render hook calls randomness turtle step turnAngle (.ok sequence) =
      renderSequence hook calls randomness { turtle with step := s, turnAngle := a } sequence := by
  have read : (renderChecks turtle step >>= fun _ => .ok sequence) = (.ok sequence : Except Failure Sequence) := by
    rw [checked]
    rfl
  have stride : setStride turtle step turnAngle = .ok { turtle with step := s, turnAngle := a } := by
    rw [setStride, strode]
    dsimp only
    rw [turned]
  simp only [render, read, stride]

theorem completes_checked {hook : Option (Hook K)} {calls n : Nat} {randomness : Randomness} {turtle : Turtle K}
    {step turnAngle : Number K} {sequence : Sequence}
    (completes : (render hook calls randomness turtle step turnAngle (.ok sequence)).count = .ok n) : renderChecks turtle step = .ok () := by
  cases checks : renderChecks turtle step with
  | error failure =>
    rw [render, checks] at completes
    cases completes
  | ok => rfl

/-- A pass that completes has passed its checks, and any other sequence would be walked by the same turtle. -/
theorem render_completes {hook : Option (Hook K)} {calls n : Nat} {randomness : Randomness} {turtle : Turtle K}
    {step turnAngle : Number K} {sequence : Sequence}
    (completes : (render hook calls randomness turtle step turnAngle (.ok sequence)).count = .ok n) :
    ∃ s a, step.toScalar = .ok s ∧ turnAngle.toScalar = .ok a ∧ ∀ other, render hook calls randomness turtle step turnAngle (.ok other) =
      renderSequence hook calls randomness { turtle with step := s, turnAngle := a } other := by
  have checked := completes_checked completes
  have read : (renderChecks turtle step >>= fun _ => .ok sequence) = (.ok sequence : Except Failure Sequence) := by
    rw [checked]
    rfl
  have strides (failure : Failure) (t : Turtle K) : setStride turtle step turnAngle ≠ .error (failure, t) := by
    intro failed
    simp only [render, read, failed] at completes
    cases completes
  cases strode : step.toScalar with
  | error failure =>
    refine absurd ?_ (strides failure turtle)
    rw [setStride, strode]
  | ok s =>
    cases turned : turnAngle.toScalar with
    | error failure =>
      refine absurd ?_ (strides failure { turtle with step := s })
      rw [setStride, strode]
      dsimp only
      rw [turned]
    | ok a => exact ⟨s, a, rfl, rfl, render_checked checked strode turned hook calls randomness⟩

/-- A walk through a sequence that is not empty begins with a generator and reads all of it. -/
theorem renderSequence_completes {hook : Option (Hook K)} {calls n : Nat} {randomness : Randomness} {t : Turtle K}
    {sequence : Sequence} (some_ : sequence ≠ []) (completes : (renderSequence hook calls randomness t sequence).count = .ok n) :
    ∃ generator last, randomness.start = .ok generator ∧ (Run.setUp ⟨t, generator, calls, #[]⟩).walk hook sequence = .ok last ∧
      renderSequence hook calls randomness t sequence = .ofRun last (.ok sequence.length) := by
  have full : ¬ sequence.isEmpty = true := by simpa using some_
  rw [renderSequence, if_neg full] at completes
  cases started : randomness.start with
  | error failure =>
    rw [started] at completes
    cases completes
  | ok generator =>
    rw [started] at completes
    cases walked : (Run.setUp ⟨t, generator, calls, #[]⟩).walk hook sequence with
    | error failed =>
      simp only [walked] at completes
      cases completes
    | ok last =>
      refine ⟨generator, last, rfl, walked, ?_⟩
      rw [renderSequence, if_neg full, started]
      simp only [walked]

/-- A pass that completes has read each symbol of its sequence. -/
theorem render_count {hook : Option (Hook K)} {calls n : Nat} {randomness : Randomness} {turtle : Turtle K} {step turnAngle : Number K}
    {sequence : Sequence} (completes : (render hook calls randomness turtle step turnAngle (.ok sequence)).count = .ok n) :
    n = sequence.length := by
  obtain ⟨s, a, _, _, rendered⟩ := render_completes completes
  rw [rendered] at completes
  by_cases empty : sequence = []
  · subst empty
    cases completes
    rfl
  · obtain ⟨_, last, _, _, whole⟩ := renderSequence_completes empty completes
    rw [whole] at completes
    exact (Except.ok.inj completes).symm

omit [Scalar K] in
private theorem strode_written {t : Turtle K} (written : Written t) (step turnAngle : K) : Written { t with step, turnAngle } := by
  have carries : Carries t { t with step, turnAngle } := carries_untouched rfl rfl rfl rfl rfl
  exact carries.written written

/-- A pass that completes leaves the turtle of the walk, and where its primitives can be replayed, the steps
    are the strokes of the walk and the recorder agrees with the turtle. -/
theorem pass_sketch [LawfulScalar K] {hook : Option (Hook K)} {calls n : Nat} {randomness : Randomness} {turtle : Turtle K}
    {step turnAngle : Number K} {sequence : Sequence} (written : Written turtle)
    (completes : (render hook calls randomness turtle step turnAngle (.ok sequence)).count = .ok n) :
    ∃ strokes, sketch hook calls randomness turtle step turnAngle sequence =
        .ok ((render hook calls randomness turtle step turnAngle (.ok sequence)).turtle, strokes) ∧
      Written (render hook calls randomness turtle step turnAngle (.ok sequence)).turtle ∧
      ∀ last steps, replay .initial (render hook calls randomness turtle step turnAngle (.ok sequence)).emitted.toList = .ok (last, steps) →
        List.Forall₂ Matches steps strokes ∧
          (sequence ≠ [] → Agrees last (look (render hook calls randomness turtle step turnAngle (.ok sequence)).turtle)) := by
  obtain ⟨s, a, strode, turned, rendered⟩ := render_completes completes
  rw [rendered] at completes ⊢
  have writtenStart := strode_written written s a
  by_cases empty : sequence = []
  · subst empty
    refine ⟨[], bind_ok.mpr ⟨s, strode, bind_ok.mpr ⟨a, turned, rfl⟩⟩, writtenStart, fun last steps replayed => ?_⟩
    cases replayed
    exact ⟨.nil, fun some_ => absurd rfl some_⟩
  · obtain ⟨generator, last, started, walked, whole⟩ := renderSequence_completes empty completes
    rw [whole]
    obtain ⟨strokes, sketched, ⟨ps, emitted, follows⟩, writtenLast⟩ := walk_sketch (by rwa [setUp_turtle]) walked
    refine ⟨strokes, ?_, writtenLast, fun found steps replayed => ?_⟩
    · have full : ¬ sequence.isEmpty = true := by simpa using empty
      rw [setUp_walker] at sketched
      refine bind_ok.mpr ⟨s, strode, bind_ok.mpr ⟨a, turned, ?_⟩⟩
      rw [if_neg full]
      exact bind_ok.mpr ⟨generator, started, bind_ok.mpr ⟨_, sketched, rfl⟩⟩
    · change replay .initial last.emitted.toList = .ok (found, steps) at replayed
      rw [emitted] at replayed
      obtain ⟨middle, before, after, first, second, rfl⟩ := replay_append.mp replayed
      obtain ⟨agrees, rfl⟩ := setUp_agrees rfl first
      rw [setUp_turtle] at follows
      obtain ⟨agreesLast, matched⟩ := follows middle agrees found after second
      exact ⟨matched, fun _ => agreesLast⟩

/-- What a pass that completes does to the beginning of its sequence comes first. -/
theorem pass_before [LawfulScalar K] {hook : Option (Hook K)} {calls n : Nat} {randomness : Randomness} {turtle : Turtle K}
    {step turnAngle : Number K} {before after : Sequence} (written : Written turtle)
    (completes : (render hook calls randomness turtle step turnAngle (.ok (before ++ after))).count = .ok n) :
    (render hook calls randomness turtle step turnAngle (.ok before)).count = .ok before.length ∧
      (render hook calls randomness turtle step turnAngle (.ok before)).emitted.toList <+:
        (render hook calls randomness turtle step turnAngle (.ok (before ++ after))).emitted.toList := by
  obtain ⟨s, a, _, _, rendered⟩ := render_completes completes
  rw [rendered] at completes
  rw [rendered, rendered]
  by_cases empty : before = []
  · subst empty
    exact ⟨rfl, List.nil_prefix⟩
  · have some_ : before ++ after ≠ [] := fun none_ => empty (List.append_eq_nil_iff.mp none_).1
    obtain ⟨generator, last, started, walked, whole⟩ := renderSequence_completes some_ completes
    obtain ⟨middle, first, second⟩ := walk_append walked
    have part : renderSequence hook calls randomness { turtle with step := s, turnAngle := a } before = .ofRun middle (.ok before.length) := by
      have full : ¬ before.isEmpty = true := by simpa using empty
      rw [renderSequence, if_neg full, started]
      simp only [first]
    obtain ⟨_, _, _, writtenMiddle⟩ := walk_sketch (by rw [setUp_turtle]; exact strode_written written s a) first
    obtain ⟨_, _, ⟨ps, emitted, _⟩, _⟩ := walk_sketch writtenMiddle second
    rw [part, whole]
    exact ⟨rfl, ps, emitted.symm⟩

/-- The steps of a pass of doubles that completes are the strokes of the turtle's walk, and after every
    symbol the recorder agrees with the turtle, whatever the hook does. With finite colours there is just one
    thing that resolving them can fail at: a saturation or a brightness that is the zero below zero. Turtles
    from outside are told apart by their writes (`fresh_written`), and so are those that passes leave. -/
theorem completed_pass_steps {hook : Option (Hook Float)} {calls n : Nat} {randomness : Randomness} {turtle : Turtle Float}
    {step turnAngle : Number Float} {sequence : Sequence} (written : Written turtle)
    (completes : (render hook calls randomness turtle step turnAngle (.ok sequence)).count = .ok n) :
    let pass (part : Sequence) := render hook calls randomness turtle step turnAngle (.ok part)
    (FiniteColours (pass sequence).emitted.toList →
        ((∃ steps, Recorder.steps (pass sequence).emitted.toList = .ok steps) ↔ UnsignedColours (pass sequence).emitted.toList)) ∧
      (∃ strokes, sketch hook calls randomness turtle step turnAngle sequence = .ok ((pass sequence).turtle, strokes) ∧
        ∀ steps, Recorder.steps (pass sequence).emitted.toList = .ok steps → List.Forall₂ Matches steps strokes) ∧
      Written (pass sequence).turtle ∧
      ∀ before after, sequence = before ++ after →
        (∃ strokes, sketch hook calls randomness turtle step turnAngle before = .ok ((pass before).turtle, strokes)) ∧
          (pass before).emitted.toList <+: (pass sequence).emitted.toList ∧
          (before ≠ [] → (∃ steps, Recorder.steps (pass sequence).emitted.toList = .ok steps) →
            ∃ r steps, replay .initial (pass before).emitted.toList = .ok (r, steps) ∧ Agrees r (look (pass before).turtle)) := by
  intro pass
  obtain ⟨strokes, sketched, writtenAfter, replays⟩ := pass_sketch written completes
  refine ⟨fun finite => (steps_coloured _).trans (coloured_exact finite), ⟨strokes, sketched, fun steps resolved => ?_⟩, writtenAfter, ?_⟩
  · obtain ⟨last, replayed⟩ := steps_replay.mp resolved
    exact (replays last steps replayed).1
  · rintro before after rfl
    obtain ⟨counted, begins⟩ := pass_before written completes
    obtain ⟨strokesBefore, sketchedBefore, _, replaysBefore⟩ := pass_sketch written counted
    refine ⟨⟨strokesBefore, sketchedBefore⟩, begins, fun some_ resolved => ?_⟩
    have coloured := (steps_coloured _).mp resolved
    have colouredBefore : Coloured (pass before).emitted.toList := fun h s b o member =>
      coloured h s b o (begins.subset member)
    obtain ⟨⟨r, steps⟩, replayed⟩ := (replay_ok .initial _).mpr colouredBefore
    exact ⟨r, steps, replayed, (replaysBefore r steps replayed).2 some_⟩

/-- A hook that goes elsewhere, changes the pen and comes back to a place that was pushed. -/
def wandering : Hook Float := fun calls _ => [.set .x 3.0, .push, .setPen (calls = 0), .set .hue 120.0, .pop]

/-- A circle, a square and a shifted hue between two calls of that hook, from the usual turtle. -/
def wanderingPass : Pass Float :=
  render (some wandering) 0 (.seed .null) Turtle.initial (.real 10.0) (.real 90.0) (.ok [111, 42, 91, 116, 93, 42, 113])

theorem wandering_pass_steps :
    Written (Turtle.initial : Turtle Float) ∧ wanderingPass.count = .ok 7 ∧ FiniteColours wanderingPass.emitted.toList ∧
      ∃ steps strokes, Recorder.steps wanderingPass.emitted.toList = .ok steps ∧
        sketch (some wandering) 0 (.seed .null) Turtle.initial (.real 10.0) (.real 90.0) [111, 42, 91, 116, 93, 42, 113] =
          .ok (wanderingPass.turtle, strokes) ∧ List.Forall₂ Matches steps strokes := by
  have written : Written (Turtle.initial : Turtle Float) := fresh_written (t := Turtle.initial) rfl rfl []
  have completes : wanderingPass.count = .ok 7 := by rfl
  have emitted : wanderingPass.emitted.toList = [.moveTo 0.0 0.0, .setLineWidth 1.0, .setPenColour 204.0 0.625 0.8 0.9,
      .circle 0.0 0.0 2.5, .moveTo 3.0 0.0, .setPenColour 120.0 0.625 0.8 0.9, .setPenColour 125.0 0.625 0.8 0.9, .moveTo 3.0 0.0,
      .setPenColour 120.0 0.625 0.8 0.9, .penUp, .rectangle 3.0 0.0 2.5 2.5] := by decide +kernel
  have colours {h s b o : Float} (member : .setPenColour h s b o ∈ wanderingPass.emitted.toList) :
      (h = 204.0 ∨ h = 120.0 ∨ h = 125.0) ∧ s = 0.625 ∧ b = 0.8 := by
    rw [emitted] at member
    simp only [List.mem_cons, List.not_mem_nil, reduceCtorEq, Primitive.setPenColour.injEq, false_or, or_false] at member
    rcases member with ⟨rfl, rfl, rfl, _⟩ | ⟨rfl, rfl, rfl, _⟩ | ⟨rfl, rfl, rfl, _⟩ | ⟨rfl, rfl, rfl, _⟩
    · exact ⟨.inl rfl, rfl, rfl⟩
    · exact ⟨.inr (.inl rfl), rfl, rfl⟩
    · exact ⟨.inr (.inr rfl), rfl, rfl⟩
    · exact ⟨.inr (.inl rfl), rfl, rfl⟩
  have finite : FiniteColours wanderingPass.emitted.toList := by
    intro h s b o member
    obtain ⟨rfl | rfl | rfl, rfl, rfl⟩ := colours member <;> decide +kernel
  have unsigned : UnsignedColours wanderingPass.emitted.toList := by
    intro h s b o member
    obtain ⟨_, rfl, rfl⟩ := colours member
    decide +kernel
  obtain ⟨exact_, ⟨strokes, sketched, matched⟩, _⟩ := completed_pass_steps written completes
  obtain ⟨steps, resolved⟩ := (exact_ finite).mpr unsigned
  exact ⟨written, completes, finite, steps, strokes, resolved, sketched, matched steps resolved⟩

/-! ### A zero below zero -/

/-- The usual turtle with a pen of no saturation, from below. -/
def faded : Turtle Float := { Turtle.initial with saturation := -0.0 }

/-- A pass that only turns draws nothing, and all its numbers are finite, but its primitives do not resolve:
    the saturation is brought into the unit interval with its sign. -/
theorem faded_unresolved :
    let pass := render none 0 (.seed .null) faded (.real 10.0) (.real 90.0) (.ok [43])
    [faded.hue, faded.saturation, faded.brightness, faded.opacity].all Float.isFinite = true ∧ pass.count = .ok 1 ∧
      (∃ after, sketch none 0 (.seed .null) faded (.real 10.0) (.real 90.0) [43] = .ok (after, [])) ∧
      ∃ failure, Recorder.steps pass.emitted.toList = .error failure := by
  intro pass
  have emitted : pass.emitted.toList = [.moveTo faded.x faded.y, .setLineWidth faded.penWidth,
      .setPenColour faded.hue (-0.0) faded.brightness faded.opacity] := by rfl
  have unresolved : ¬ ∃ steps, Recorder.steps pass.emitted.toList = .ok steps := by
    intro resolved
    have coloured := (steps_coloured _).mp resolved
    rw [emitted] at coloured
    have named := coloured _ _ _ _ (List.mem_cons_of_mem _ (List.mem_cons_of_mem _ List.mem_cons_self))
    exact ((colourText_exact (by decide +kernel) (by decide +kernel) (by decide +kernel)).mp named).1 rfl
  refine ⟨by decide +kernel, by rfl, ⟨_, by rfl⟩, ?_⟩
  cases resolved : Recorder.steps pass.emitted.toList with
  | error failure => exact ⟨failure, rfl⟩
  | ok steps => exact absurd ⟨steps, resolved⟩ unresolved

end Lindenmayer.Passes
