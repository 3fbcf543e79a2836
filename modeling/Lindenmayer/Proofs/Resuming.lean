import Lindenmayer.Proofs.Passes

/-!
Passes that go on where another stopped. Without a hook, all that shows of a turtle is told by the
primitives that it emits (`obey_tells`, `walk_tells`), so a recorder that has replayed a pass knows of the
turtle just what a new one learns from the beginning of the next pass (`opening_replay`). Two passes that
follow one another are therefore one pass over both sequences, cut anywhere (`passes_joined`).
-/
namespace Lindenmayer.Resuming
open Outcomes Replaying Sketching Passes

variable {K : Type} [Scalar K]

/-! ### What primitives tell -/

omit [Scalar K] in
/-- What shows of a turtle once it has emitted a primitive. -/
def told (l : Look K) : Primitive K → Look K
  | .moveTo x y | .lineTo x y => { l with place := ⟨x, y⟩ }
  | .setLineWidth width => { l with width }
  | .setPenColour hue saturation brightness opacity => { l with hue, saturation, brightness, opacity }
  | .penUp => { l with down := false }
  | .penDown => { l with down := true }
  | .circle _ _ _ | .rectangle _ _ _ _ => l

theorem follow_knows {r next : Recorder K} {l : Look K} {p : Primitive K} (knows : Knows r l) (followed : r.follow p = .ok next) :
    Knows next (told l p) := by
  obtain ⟨colour, named, rfl⟩ := knows
  cases p with
  | setPenColour hue saturation brightness opacity =>
    obtain ⟨text, naming, followed⟩ := bind_ok.mp followed
    cases followed
    exact ⟨text, naming, rfl⟩
  | _ =>
    cases followed
    exact ⟨colour, named, rfl⟩

theorem replay_knows {r last : Recorder K} {l : Look K} {ps : List (Primitive K)} {steps : List (Step K)} (knows : Knows r l)
    (replayed : replay r ps = .ok (last, steps)) : Knows last (ps.foldl told l) := by
  induction ps generalizing r l steps with
  | nil =>
    cases replayed
    exact knows
  | cons p rest ih =>
    obtain ⟨next, later, followed, replayed, -⟩ := replay_cons.mp replayed
    exact ih (follow_knows knows followed) replayed

/-! ### What commands tell -/

/-- On the way from one run to another primitives are emitted, the same after whatever was emitted before, and
    they tell how the turtle shows at the end. -/
structure Tells (walk : Run K → Outcome K) (r next : Run K) (ps : List (Primitive K)) : Prop where
  anywhere : ∀ before, walk { r with emitted := before } = .ok { next with emitted := ps.foldl Array.push before }
  shows : look next.turtle = ps.foldl told (look r.turtle)

theorem move_tells {r next : Run K} {distance : K} (moved : r.move distance = .ok next) : ∃ ps, Tells (·.move distance) r next ps := by
  obtain ⟨t, advanced, rfl⟩ := move_ok moved
  refine ⟨[if t.penDown then .lineTo t.x t.y else .moveTo t.x t.y], fun before => ?_, ?_⟩
  · simp only [Run.move, advanced]
    rfl
  · change look t = _
    rw [advance_look advanced]
    split <;> rfl

/-- Without a hook every command tells what it changes of the turtle that shows. -/
theorem obey_tells {r next : Run K} {command : Command} (obeyed : r.obey none command = .ok next) :
    ∃ ps, Tells (·.obey none command) r next ps := by
  cases command with
  | forward | halfForward =>
    obtain ⟨ps, tells⟩ := move_tells obeyed
    exact ⟨ps, tells.anywhere, tells.shows⟩
  | backward =>
    obtain ⟨middle, moved, rfl⟩ := backward_ok obeyed
    obtain ⟨ps, tells⟩ := move_tells moved
    refine ⟨ps, fun before => ?_, tells.shows⟩
    have gone := tells.anywhere before
    simp only [Run.obey]
    exact congrArg (Except.map (·.turn (Scalar.ofInt (-180)))) gone
  | halfBackward =>
    obtain ⟨ps, tells⟩ := move_tells (r := r.turn (Scalar.ofInt 180)) obeyed
    exact ⟨ps, tells.anywhere, tells.shows⟩
  | penUp =>
    cases obeyed
    exact ⟨[.penUp], fun _ => rfl, rfl⟩
  | penDown =>
    cases obeyed
    exact ⟨[.penDown], fun _ => rfl, rfl⟩
  | randomHue | hueShift | randomSaturation | randomOpacity =>
    refine ⟨[.setPenColour next.turtle.hue next.turtle.saturation next.turtle.brightness next.turtle.opacity], ?_⟩
    cases obeyed
    exact ⟨fun _ => rfl, rfl⟩
  | penWidth halves =>
    cases obeyed
    exact ⟨[.setLineWidth (Scalar.halves halves)], fun _ => rfl, rfl⟩
  | circle =>
    cases obeyed
    exact ⟨[.circle r.turtle.x r.turtle.y (r.turtle.step / Scalar.ofInt 4)], fun _ => rfl, rfl⟩
  | square =>
    let side := r.turtle.step / Scalar.ofInt 4
    cases obeyed
    exact ⟨[.rectangle r.turtle.x r.turtle.y side side], fun _ => rfl, rfl⟩
  | turn | randomTurn | growStep | shrinkStep | nudge | push | asterisk =>
    cases obeyed
    exact ⟨[], fun _ => rfl, rfl⟩
  | pop =>
    cases standing : r.turtle.stack with
    | nil =>
      have nowhere : r.turtle.pop? = none := by rw [Turtle.pop?, standing]
      simp only [Run.obey, nowhere] at obeyed
      cases obeyed
      refine ⟨[], fun before => ?_, rfl⟩
      simp only [Run.obey, nowhere]
      rfl
    | cons place rest =>
      simp only [Run.obey, Turtle.pop?, standing] at obeyed
      cases obeyed
      refine ⟨[.moveTo place.x place.y], fun before => ?_, rfl⟩
      simp only [Run.obey, Turtle.pop?, standing]
      rfl

theorem walk_tells {r last : Run K} {sequence : Sequence} (walked : r.walk none sequence = .ok last) :
    ∃ ps, Tells (·.walk none sequence) r last ps := by
  induction sequence generalizing r with
  | nil =>
    cases walked
    exact ⟨[], fun _ => rfl, rfl⟩
  | cons s rest ih =>
    obtain ⟨next, read, walked⟩ := walk_cons walked
    obtain ⟨qs, later⟩ := ih walked
    cases ordered : Command.ofSymbol? s with
    | none =>
      simp only [Run.read, ordered] at read
      cases read
      refine ⟨qs, fun before => ?_, later.shows⟩
      simp only [Run.walk, Run.read, ordered]
      exact later.anywhere before
    | some command =>
      simp only [Run.read, ordered] at read
      obtain ⟨ps, first⟩ := obey_tells read
      refine ⟨ps ++ qs, fun before => ?_, ?_⟩
      · simp only [Run.walk, Run.read, ordered, first.anywhere before, List.foldl_append]
        exact later.anywhere _
      · rw [List.foldl_append, ← first.shows, later.shows]

theorem Tells.join {r middle last : Run K} {first second : Sequence} {ps qs : List (Primitive K)}
    (one : Tells (·.walk none first) r middle ps) (two : Tells (·.walk none second) middle last qs) :
    Tells (·.walk none (first ++ second)) r last (ps ++ qs) where
  anywhere before := by
    have begins := one.anywhere before
    have ends := two.anywhere (ps.foldl Array.push before)
    rw [walk_joined, begins, List.foldl_append]
    exact ends
  shows := by rw [List.foldl_append, ← one.shows, two.shows]

/-! ### Passes -/

/-- A pass through a sequence that is not empty opens and then tells its walk. -/
theorem pass_tells {calls n : Nat} {g : Generator} {t : Turtle K} {sequence : Sequence} (some_ : sequence ≠ [])
    (completes : (renderSequence none calls (.generator g) t sequence).count = .ok n) :
    ∃ last ps, Tells (·.walk none sequence) ⟨t, g, calls, #[]⟩ last ps := by
  obtain ⟨generator, last, started, walked, -⟩ := renderSequence_completes some_ completes
  cases started
  rw [setUp_opening] at walked
  obtain ⟨ps, tells⟩ := walk_tells walked
  exact ⟨last, ps, tells.anywhere, tells.shows⟩

theorem renderSequence_tells {calls : Nat} {g : Generator} {t : Turtle K} {sequence : Sequence} {last : Run K}
    {ps : List (Primitive K)} (some_ : sequence ≠ []) (tells : Tells (·.walk none sequence) ⟨t, g, calls, #[]⟩ last ps) :
    renderSequence none calls (.generator g) t sequence =
      .ofRun { last with emitted := ⟨opening t ++ ps⟩ } (.ok sequence.length) := by
  have full : ¬ sequence.isEmpty = true := by simpa using some_
  have walked := tells.anywhere ((opening t).foldl Array.push #[])
  have emitted : ps.foldl Array.push ((opening t).foldl Array.push #[]) = ⟨opening t ++ ps⟩ := by
    apply Array.toList_inj.mp
    simp
  rw [emitted] at walked
  dsimp only at walked
  simp only [renderSequence, if_neg full, Randomness.start, setUp_opening, walked]

/-- Cut anywhere, the steps of a walk are those up to the cut and those that a new recorder finds from there on. -/
theorem steps_cut {t middle : Turtle K} {ps : List (Primitive K)} (shows : look middle = ps.foldl told (look t)) (qs : List (Primitive K)) :
    Recorder.steps (opening t ++ (ps ++ qs)) = do
      let before ← Recorder.steps (opening t ++ ps)
      let after ← Recorder.steps (opening middle ++ qs)
      return before ++ after := by
  rw [steps_eq, steps_eq, steps_eq, ← List.append_assoc, replay_joined .initial (opening t ++ ps) qs]
  cases replayed : replay .initial (opening t ++ ps) with
  | error failure => rfl
  | ok out =>
    obtain ⟨r, before⟩ := out
    obtain ⟨begun, _, _, opened, walked, -⟩ := replay_append.mp replayed
    have knows : Knows r (look middle) := shows ▸ replay_knows ((opening_replay t begun _).mp opened).1 walked
    have resumed : replay .initial (opening middle) = .ok (r, []) := (opening_replay middle r []).mpr ⟨knows, rfl⟩
    rw [replay_joined, resumed]
    simp only [bind, Except.bind, pure, Except.pure]
    cases replay r qs with
    | error failure => rfl
    | ok late => rfl

/-! ### Main statement -/

omit [Scalar K] in
/-- The generator that a pass leaves of one that it was given; an empty pass does not touch it. -/
def left (g : Generator) (pass : Pass K) : Generator := pass.generator.getD g

/-- A pass is another one and then a third that goes on with what the other left. -/
structure Joins (g : Generator) (one two whole : Pass K) : Prop where
  turtle : whole.turtle = two.turtle
  generator : left g whole = left (left g one) two
  steps : Recorder.steps whole.emitted.toList = do
    let before ← Recorder.steps one.emitted.toList
    let after ← Recorder.steps two.emitted.toList
    return before ++ after

theorem walks_joined {calls n m : Nat} {g : Generator} {start : Turtle K} {s t : Sequence} {one two : Pass K}
    (oneEq : one = renderSequence none calls (.generator g) start s)
    (twoEq : two = renderSequence none one.calls (.generator (left g one)) one.turtle t)
    (first : one.count = .ok n) (second : two.count = .ok m) :
    (renderSequence none calls (.generator g) start (s ++ t)).count = .ok (n + m) ∧
      Joins g one two (renderSequence none calls (.generator g) start (s ++ t)) := by
  by_cases empty : s = []
  · subst empty oneEq twoEq
    cases first
    rw [Nat.zero_add]
    exact ⟨second, rfl, rfl, (bind_pure (Recorder.steps _)).symm⟩
  rw [oneEq] at first
  obtain ⟨middle, ps, tells⟩ := pass_tells empty first
  rw [renderSequence_tells empty tells] at oneEq first
  cases first
  by_cases spent : t = []
  · subst spent oneEq twoEq
    cases second
    rw [List.append_nil, renderSequence_tells empty tells]
    refine ⟨rfl, rfl, rfl, ?_⟩
    dsimp only [Pass.ofRun]
    cases Recorder.steps (opening start ++ ps) with
    | error failure => rfl
    | ok steps => exact congrArg Except.ok (List.append_nil steps).symm
  rw [twoEq] at second
  obtain ⟨last, qs, tellsAgain⟩ := pass_tells spent second
  rw [renderSequence_tells spent tellsAgain] at twoEq second
  cases second
  subst oneEq twoEq
  have full : s ++ t ≠ [] := fun none_ => empty (List.append_eq_nil_iff.mp none_).1
  have whole : Tells (·.walk none (s ++ t)) ⟨start, g, calls, #[]⟩ last (ps ++ qs) :=
    tells.join ⟨tellsAgain.anywhere, tellsAgain.shows⟩
  rw [renderSequence_tells full whole, ← List.length_append]
  exact ⟨rfl, rfl, rfl, steps_cut tells.shows qs⟩

/-- The pass that goes on with the turtle, the step, the turn angle and the generator that another left. -/
def resumed (g : Generator) (pass : Pass K) (sequence : Sequence) : Pass K :=
  render none pass.calls (.generator (left g pass)) pass.turtle (.real pass.turtle.step) (.real pass.turtle.turnAngle) (.ok sequence)

/-- A pass that is resumed is one pass over both sequences: it leaves the same turtle and generator, the counts
    add up, and the steps are joined where they resolve. -/
theorem passes_joined {calls n m : Nat} {g : Generator} {turtle : Turtle K} {step turnAngle : Number K} {s t : Sequence}
    (first : (render none calls (.generator g) turtle step turnAngle (.ok s)).count = .ok n)
    (second : (resumed g (render none calls (.generator g) turtle step turnAngle (.ok s)) t).count = .ok m) :
    let one := render none calls (.generator g) turtle step turnAngle (.ok s)
    let two := resumed g one t
    let whole := render none calls (.generator g) turtle step turnAngle (.ok (s ++ t))
    whole.count = .ok (n + m) ∧ Joins g one two whole := by
  intro one two whole
  obtain ⟨stride, angle, strode, turned, rendered⟩ := render_completes first
  obtain ⟨_, _, strodeAgain, turnedAgain, renderedAgain⟩ := render_completes second
  cases strodeAgain
  cases turnedAgain
  have wholeEq : whole = renderSequence none calls (.generator g) { turtle with step := stride, turnAngle := angle } (s ++ t) :=
    rendered (s ++ t)
  rw [wholeEq]
  exact walks_joined (rendered s) (renderedAgain t) first second

/-- Cut inside of brackets, with the pen up and half a word of random bits left over. -/
theorem bracket_joined :
    let g : Generator := ⟨1, 3, none⟩
    let one : Pass Float := render none 0 (.generator g) Turtle.initial (.real 10.0) (.real 90.0) (.ok [91, 85, 114, 51, 70])
    let two := resumed g one [114, 68, 70, 93, 111]
    let whole : Pass Float :=
      render none 0 (.generator g) Turtle.initial (.real 10.0) (.real 90.0) (.ok [91, 85, 114, 51, 70, 114, 68, 70, 93, 111])
    one.count = .ok 5 ∧ two.count = .ok 5 ∧ whole.count = .ok 10 ∧ Joins g one two whole := by
  intro g one two whole
  have first : one.count = .ok 5 := toOption_ok.mp (by decide +kernel)
  have second : two.count = .ok 5 := toOption_ok.mp (by decide +kernel)
  obtain ⟨counted, joins⟩ := passes_joined first second
  exact ⟨first, second, counted, joins⟩

end Lindenmayer.Resuming
