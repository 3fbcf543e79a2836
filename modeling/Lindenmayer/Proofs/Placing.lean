import Mathlib.Data.Rat.Floor
import Mathlib.Tactic.Ring
import Lindenmayer.Proofs.Renderings
import Lindenmayer.Proofs.Shifting

/-!
Drawings that fill their frame do not show where they were made. In exact arithmetic the steps of a turtle that
starts somewhere else are moved (`steps_shifted`), the box around them moves with them (`ofPoints_shifted`), and the
fit of the box takes the move back (`shape_against`). So the pictures, the SVG texts and the steps on a canvas of a
system are the same wherever its turtle starts (`placement_unseen`).
-/
namespace Lindenmayer

section
variable {K : Type} [Scalar K]

def Shape.shifted (d : Shift K) : Shape K → Shape K
  | .line start stop width => .line (start.shifted d) (stop.shifted d) width
  | .circle centre radius => .circle (centre.shifted d) radius
  | .rectangle centre width height => .rectangle (centre.shifted d) width height

def Step.shifted (d : Shift K) (s : Step K) : Step K := { s with shape := s.shape.shifted d }

def Recorder.shifted (d : Shift K) (r : Recorder K) : Recorder K := { r with position := r.position.shifted d }

def Bounds.shifted (d : Shift K) (b : Bounds K) : Bounds K :=
  { minX := b.minX + d.x, minY := b.minY + d.y, maxX := b.maxX + d.x, maxY := b.maxY + d.y }

/-- A fit that takes a move back before it brings anything into the frame. -/
def Fit.against (d : Shift K) (f : Fit K) : Fit K :=
  { f with offsetX := f.offsetX - d.x * f.scale, offsetY := f.offsetY - d.y * f.scale }

def Trace.shifted (d : Shift K) (t : Trace K) : Trace K := { t with primitives := t.primitives.map (Primitive.shifted d) }

/-- The points that span what a shape touches. -/
def Shape.span : Shape K → List (Point K)
  | .line start stop _ => [start, stop]
  | .circle centre radius => cornersAround centre (Scalar.abs radius) (Scalar.abs radius)
  | .rectangle centre width height =>
    cornersAround centre (Scalar.half (Scalar.abs width)) (Scalar.half (Scalar.abs height))

end

namespace Placing
open Outcomes Passes Resuming Renderings Shifting

variable {F : Type} {outside : Outside F} [Field F] [LinearOrder F] [FloorRing F]
variable (d : Shift (Exact F outside))

/-! ### Steps -/

theorem follow_shifted (r : Recorder (Exact F outside)) (p : Primitive (Exact F outside)) :
    (r.shifted d).follow (p.shifted d) = (r.follow p).map (Recorder.shifted d) := by
  cases p with
  | setPenColour hue saturation brightness opacity =>
    change (Pen.colourText hue saturation brightness >>= _) = Except.map _ (Pen.colourText hue saturation brightness >>= _)
    cases Pen.colourText hue saturation brightness with
    | error | ok => rfl
  | moveTo | lineTo | setLineWidth | penUp | penDown | circle | rectangle => rfl

theorem step_shifted (r : Recorder (Exact F outside)) (p : Primitive (Exact F outside)) :
    (r.shifted d).step? (p.shifted d) = (r.step? p).map (Step.shifted d) := by
  cases p with
  | lineTo x y =>
    have seen : (r.shifted d).visible = r.visible := rfl
    rw [Recorder.step?, Recorder.step?, Primitive.shifted, Recorder.shape?, Recorder.shape?, seen]
    split
    · rfl
    · rfl
  | moveTo | setLineWidth | setPenColour | penUp | penDown | circle | rectangle => rfl

theorem resolve_shifted (r : Recorder (Exact F outside)) (found : Array (Step (Exact F outside)))
    (primitives : List (Primitive (Exact F outside))) :
    (r.shifted d).resolve (found.map (Step.shifted d)) (primitives.map (Primitive.shifted d)) =
      (r.resolve found primitives).map (Array.map (Step.shifted d)) := by
  induction primitives generalizing r found with
  | nil => rfl
  | cons p rest ih =>
    rw [List.map_cons, Recorder.resolve, Recorder.resolve, follow_shifted, step_shifted]
    cases r.follow p with
    | error failure => rfl
    | ok next =>
      have further : found.map (Step.shifted d) ++ ((r.step? p).map (Step.shifted d)).toArray =
          (found ++ (r.step? p).toArray).map (Step.shifted d) := by
        cases r.step? p with
        | none | some => simp
      change (next.shifted d).resolve _ _ = _
      rw [further]
      exact ih next _

/-- What begins with a move does not show where the recorder was before it. -/
theorem steps_shifted (x y : Exact F outside) (rest : List (Primitive (Exact F outside))) :
    Recorder.steps ((.moveTo x y :: rest).map (Primitive.shifted d)) =
      (Recorder.steps (.moveTo x y :: rest)).map (List.map (Step.shifted d)) := by
  let placed : Recorder (Exact F outside) := { Recorder.initial with position := ⟨x, y⟩ }
  have resolved := resolve_shifted d placed #[] rest
  have one : Recorder.steps (.moveTo x y :: rest) = (placed.resolve #[] rest).map Array.toList := rfl
  have two : Recorder.steps ((.moveTo x y :: rest).map (Primitive.shifted d)) =
      ((placed.shifted d).resolve #[] (rest.map (Primitive.shifted d))).map Array.toList := rfl
  rw [Array.map_empty] at resolved
  rw [one, two, resolved]
  cases placed.resolve #[] rest with
  | error failure => rfl
  | ok found => simp [Except.map]

/-! ### Boxes -/

theorem cornersAround_shifted (centre : Point (Exact F outside)) (dx dy : Exact F outside) :
    cornersAround (centre.shifted d) dx dy = (cornersAround centre dx dy).map (Point.shifted d) := by
  simp [cornersAround, Point.shifted, add_sub_right_comm, add_right_comm]

theorem span_shifted (shape : Shape (Exact F outside)) : (shape.shifted d).span = shape.span.map (Point.shifted d) := by
  cases shape with
  | line start stop width => rfl
  | circle centre radius => exact cornersAround_shifted d centre _ _
  | rectangle centre width height => exact cornersAround_shifted d centre _ _

theorem touched_record {K : Type} [Scalar K] (s : Step K) : touched s.record = .ok s.shape.span := by
  obtain ⟨shape, colour, opacity⟩ := s
  cases shape with
  | line | circle | rectangle => rfl

theorem bounds_record {K : Type} [Scalar K] (steps : List (Step K)) :
    bounds (steps.map Step.record) = .ok (Bounds.ofPoints? (steps.flatMap fun s => s.shape.span)) := by
  have all : (steps.map Step.record).mapM touched = .ok (steps.map fun s => s.shape.span) := by
    rw [List.mapM_map]
    exact mapM_ok fun s _ => touched_record s
  rw [bounds, all]
  rfl

theorem leastOf_shifted [IsStrictOrderedRing F] (x y c : Exact F outside) : leastOf (x + c) (y + c) = leastOf x y + c := by
  change (if decide (y + c < x + c) = true then y + c else x + c) = (if decide (y < x) = true then y else x) + c
  simp only [add_lt_add_iff_right, decide_eq_true_eq]
  split
  · rfl
  · rfl

theorem greatestOf_shifted [IsStrictOrderedRing F] (x y c : Exact F outside) : greatestOf (x + c) (y + c) = greatestOf x y + c := by
  change (if decide (x + c < y + c) = true then y + c else x + c) = (if decide (x < y) = true then y else x) + c
  simp only [add_lt_add_iff_right, decide_eq_true_eq]
  split
  · rfl
  · rfl

theorem ofPoints_shifted [IsStrictOrderedRing F] (points : List (Point (Exact F outside))) :
    Bounds.ofPoints? (points.map (Point.shifted d)) = (Bounds.ofPoints? points).map (Bounds.shifted d) := by
  cases points with
  | nil => rfl
  | cons p rest =>
    refine congrArg some ?_
    generalize start_eq : (⟨p.x, p.y, p.x, p.y⟩ : Bounds (Exact F outside)) = start
    have moved : ⟨(p.shifted d).x, (p.shifted d).y, (p.shifted d).x, (p.shifted d).y⟩ = start.shifted d := by
      rw [← start_eq]
      rfl
    rw [moved]
    clear start_eq moved
    induction rest generalizing start with
    | nil => rfl
    | cons q rest ih =>
      rw [List.map_cons, List.foldl_cons, List.foldl_cons, ← ih]
      simp only [Bounds.shifted, Point.shifted, leastOf_shifted, greatestOf_shifted]

/-! ### Fits -/

theorem ofBounds_shifted (frame : Frame) (padding : Int) (b : Bounds (Exact F outside)) :
    Fit.ofBounds frame padding (b.shifted d) = (Fit.ofBounds frame padding b).against d := by
  have extent (high low c : Exact F outside) : high + c - (low + c) = high - low := add_sub_add_right_eq_sub high low c
  have offset (room : Int) (least c size scale : Exact F outside) :
      Fit.offsetFor padding room (least + c) size scale = Fit.offsetFor padding room least size scale - c * scale := by
    rw [Fit.offsetFor, Fit.offsetFor]
    generalize Scalar.half (Scalar.ofInt room - size * scale) = rest
    generalize (Scalar.ofInt padding : Exact F outside) = start
    ring
  simp only [Fit.ofBounds, Bounds.shifted, Fit.against, extent, offset]

theorem apply_against (f : Fit (Exact F outside)) (p : Point (Exact F outside)) : (f.against d).apply (p.shifted d) = f.apply p := by
  have axis (x c scale offset : Exact F outside) : (x + c) * scale + (offset - c * scale) = x * scale + offset := by ring
  exact congrArg₂ Point.mk (axis p.x d.x f.scale f.offsetX) (axis p.y d.y f.scale f.offsetY)

theorem shape_against (f : Fit (Exact F outside)) (shape : Shape (Exact F outside)) :
    (f.against d).shape (shape.shifted d) = f.shape shape := by
  have scale : (f.against d).scale = f.scale := rfl
  cases shape with
  | line | circle | rectangle => simp only [Shape.shifted, Fit.shape, apply_against, scale]

variable [IsStrictOrderedRing F]

/-- The fits of steps and of the same steps moved: there are none without steps. -/
theorem fit_shifted {steps : List (Step (Exact F outside))} (some_ : steps ≠ []) (frame : Frame) (padding : Int) :
    ∃ f, Fit.ofSteps (steps.map Step.record) frame padding true = .ok f ∧
      Fit.ofSteps ((steps.map (Step.shifted d)).map Step.record) frame padding true = .ok (f.against d) := by
  have moved : (steps.map (Step.shifted d)).flatMap (fun s => s.shape.span) =
      (steps.flatMap fun s => s.shape.span).map (Point.shifted d) := by
    rw [List.flatMap_map, List.map_flatMap]
    exact congrArg (steps.flatMap ·) (funext fun s => span_shifted d s.shape)
  cases boxed : Bounds.ofPoints? (steps.flatMap fun s => s.shape.span) with
  | none =>
    -- Every shape spans at least one point.
    obtain ⟨s, rest, rfl⟩ := List.exists_cons_of_ne_nil some_
    obtain ⟨shape, colour, opacity⟩ := s
    cases shape with
    | line | circle | rectangle => cases boxed
  | some b =>
    refine ⟨Fit.ofBounds frame padding b, ?_, ?_⟩
    · rw [Fit.ofSteps, bounds_record, boxed]
      rfl
    · rw [Fit.ofSteps, bounds_record, moved, ofPoints_shifted, boxed, ← ofBounds_shifted]
      rfl

/-! ### Renderings -/

section
omit [IsStrictOrderedRing F]

theorem callOf_against (f : Fit (Exact F outside)) (s : Step (Exact F outside)) :
    Picture.callOf (f.against d) (s.shifted d).record = Picture.callOf f s.record := by
  have same (fill : Colour.Filled) : Picture.call (f.against d) fill (s.shifted d).shape = Picture.call f fill s.shape := by
    rw [call_shape, call_shape, Step.shifted, shape_against]
  rw [Picture.callOf, Picture.callOf, readColour_record, readColour_record, readOpacity_record, readOpacity_record,
    readShape_record, readShape_record]
  change (Picture.fill s.colour s.opacity >>= fun fill => do return some (← Picture.call _ fill _)) =
    (Picture.fill s.colour s.opacity >>= fun fill => do return some (← Picture.call f fill s.shape))
  simp only [same]

theorem lineOf_against (f : Fit (Exact F outside)) (s : Step (Exact F outside)) :
    Svg.lineOf (f.against d) (s.shifted d).record = Svg.lineOf f s.record := by
  rw [lineOf_record, lineOf_record, tagOfStep, tagOfStep, Step.shifted, shape_against]

theorem ofStep_against (f : Fit (Exact F outside)) (s : Step (Exact F outside)) :
    CanvasStep.ofStep (f.against d) (s.shifted d) = CanvasStep.ofStep f s := by
  rw [ofStep_shape, ofStep_shape, Step.shifted, shape_against]

end

theorem picture_shifted (steps : List (Step (Exact F outside))) (frame : Frame) (padding : Int) (background : Option Text) :
    Picture.ofSteps ((steps.map (Step.shifted d)).map Step.record) frame padding background true =
      Picture.ofSteps (steps.map Step.record) frame padding background true := by
  by_cases none_ : steps = []
  · subst none_
    rfl
  obtain ⟨f, fitted, moved⟩ := fit_shifted d none_ frame padding
  have calls : Picture.callsOf (f.against d) ((steps.map (Step.shifted d)).map Step.record) =
      Picture.callsOf f (steps.map Step.record) := by
    rw [Picture.callsOf, Picture.callsOf, List.mapM_map, List.mapM_map, List.mapM_map]
    simp only [Function.comp_def, callOf_against]
  have some_ : (steps.map Step.record).isEmpty = false := by simpa using none_
  have others : ((steps.map (Step.shifted d)).map Step.record).isEmpty = false := by simpa using none_
  simp only [Picture.ofSteps, some_, others, fitted, moved, ok_bind, calls]

theorem svg_shifted (steps : List (Step (Exact F outside))) (frame : Frame) (padding : Int) (background : Option Text) :
    Svg.ofSteps ((steps.map (Step.shifted d)).map Step.record) frame padding background true =
      Svg.ofSteps (steps.map Step.record) frame padding background true := by
  by_cases none_ : steps = []
  · subst none_
    rfl
  obtain ⟨f, fitted, moved⟩ := fit_shifted d none_ frame padding
  have lines : ((steps.map (Step.shifted d)).map Step.record).mapM (Svg.lineOf (f.against d)) =
      (steps.map Step.record).mapM (Svg.lineOf f) := by
    rw [List.mapM_map, List.mapM_map, List.mapM_map]
    simp only [Function.comp_def, lineOf_against]
  simp only [Svg.ofSteps, fitted, moved, ok_bind, lines]

theorem canvas_shifted (steps : List (Step (Exact F outside))) (frame : Frame) (padding : Int) :
    CanvasStep.ofSteps (steps.map (Step.shifted d)) frame padding = CanvasStep.ofSteps steps frame padding := by
  by_cases none_ : steps = []
  · subst none_
    rfl
  obtain ⟨f, fitted, moved⟩ := fit_shifted d none_ frame padding
  rw [CanvasStep.ofSteps, CanvasStep.ofSteps, fitted, moved]
  change (steps.map (Step.shifted d)).mapM (CanvasStep.ofStep (f.against d)) = steps.mapM (CanvasStep.ofStep f)
  rw [List.mapM_map]
  simp only [Function.comp_def, ofStep_against]

theorem image_shifted (format : Format) (steps : List (Step (Exact F outside))) (frame : Frame) (padding : Int)
    (background : Option Text) : Image.ofSteps format (steps.map (Step.shifted d)) frame padding background true =
      Image.ofSteps format steps frame padding background true := by
  cases format with
  | png =>
    have same := picture_shifted d steps frame padding background
    simp only [Image.ofSteps, same]
  | svg =>
    have same := svg_shifted d steps frame padding background
    simp only [Image.ofSteps, same]

/-! ### Traces -/

section
omit [IsStrictOrderedRing F]

/-- How a system is traced without a hook from a place. -/
def startingAt (o : TraceOptions (Exact F outside)) (startX startY : Number (Exact F outside)) : TraceOptions (Exact F outside) :=
  { o with startX, startY, hook := none }

theorem toScalar_exact (n : Number (Exact F outside)) : ∃ x, n.toScalar = .ok x := by
  cases n with
  | int | real => exact ⟨_, rfl⟩

theorem turtle_shifted (o : TraceOptions (Exact F outside)) (startX startY otherX otherY : Number (Exact F outside)) :
    ∃ d, (startingAt o otherX otherY).turtle = (startingAt o startX startY).turtle.map (Turtle.shifted d) := by
  obtain ⟨x, atX⟩ := toScalar_exact startX
  obtain ⟨y, atY⟩ := toScalar_exact startY
  obtain ⟨u, atU⟩ := toScalar_exact otherX
  obtain ⟨v, atV⟩ := toScalar_exact otherY
  refine ⟨⟨u - x, v - y⟩, ?_⟩
  have from_x : x + (u - x) = u := add_sub_cancel x u
  have from_y : y + (v - y) = v := add_sub_cancel y v
  simp only [TraceOptions.turtle, startingAt, Turtle.ofPen, atX, atY, atU, atV, ok_bind]
  cases Pen.ofRgb o.pen with
  | error failure => rfl
  | ok hsv =>
    cases o.orientation.toScalar with
    | error failure => rfl
    | ok heading =>
      refine congrArg Except.ok ?_
      simp [Turtle.shifted, Turtle.initial, from_x, from_y]

/-- A pass that completes emits nothing, or where the turtle is before everything else. -/
theorem completed_opening {calls n : Nat} {randomness : Randomness} {t : Turtle (Exact F outside)}
    {step turnAngle : Number (Exact F outside)} {sequence : Sequence}
    (completes : (render none calls randomness t step turnAngle (.ok sequence)).count = .ok n) :
    (render none calls randomness t step turnAngle (.ok sequence)).emitted = #[] ∨
      ∃ x y rest, (render none calls randomness t step turnAngle (.ok sequence)).emitted.toList = .moveTo x y :: rest := by
  obtain ⟨stride, angle, _, _, rendered⟩ := render_completes completes
  rw [rendered] at completes ⊢
  by_cases none_ : sequence = []
  · subst none_
    exact .inl rfl
  · obtain ⟨generator, last, _, walked, whole⟩ := renderSequence_completes none_ completes
    rw [setUp_opening] at walked
    obtain ⟨ps, tells⟩ := walk_tells walked
    have same := Except.ok.inj (walked.symm.trans (tells.anywhere _))
    refine .inr ⟨t.x, t.y, (opening t).tail ++ ps, ?_⟩
    rw [whole, Pass.ofRun, same]
    simp [opening]

/-- What is traced by a pass. -/
def ofPass (p : Pass (Exact F outside)) : Except Failure (Trace (Exact F outside)) := do
  return { commands := ← p.count, primitives := p.emitted }

theorem ofPass_shifted (p : Pass (Exact F outside)) : ofPass (p.shifted d) = (ofPass p).map (Trace.shifted d) := by
  have count : (p.shifted d).count = p.count := rfl
  rw [ofPass, ofPass, count]
  cases p.count with
  | error | ok => rfl

theorem path_shifted (o : TraceOptions (Exact F outside)) (startX startY otherX otherY : Number (Exact F outside)) :
    ∃ d, ∀ state, ((startingAt o otherX otherY).walk state) = ((startingAt o startX startY).walk state).map (Trace.shifted d) := by
  obtain ⟨d, moved⟩ := turtle_shifted o startX startY otherX otherY
  refine ⟨d, fun state => ?_⟩
  rw [TraceOptions.walk, TraceOptions.walk, moved]
  cases (startingAt o startX startY).turtle with
  | error failure => rfl
  | ok t =>
    change ofPass (render none 0 o.randomness (t.shifted d) o.forward o.turn (.ok state)) =
      (ofPass (render none 0 o.randomness t o.forward o.turn (.ok state))).map (Trace.shifted d)
    rw [render_shifted, ofPass_shifted]

theorem trace_shifted (o : TraceOptions (Exact F outside)) (startX startY otherX otherY : Number (Exact F outside)) :
    ∃ d, ∀ s : Derivation, (s.trace (startingAt o otherX otherY)).2 =
      (s.trace (startingAt o startX startY)).2.map (Trace.shifted d) := by
  obtain ⟨d, moved⟩ := path_shifted o startX startY otherX otherY
  refine ⟨d, fun s => ?_⟩
  have iterations : (startingAt o otherX otherY).iterations = (startingAt o startX startY).iterations := rfl
  rw [Derivation.trace, Derivation.trace, iterations]
  cases s.reset.evaluate (startingAt o startX startY).iterations with
  | error failure => rfl
  | ok evaluated => exact moved evaluated.state

/-- The steps of a trace that is moved are those of the trace, moved. -/
theorem trace_steps {s : Derivation} {o : TraceOptions (Exact F outside)} {startX startY : Number (Exact F outside)}
    {trace : Trace (Exact F outside)} (traced : (s.trace (startingAt o startX startY)).2 = .ok trace) :
    Recorder.steps (trace.shifted d).primitives.toList = (Recorder.steps trace.primitives.toList).map (List.map (Step.shifted d)) := by
  have opening : trace.primitives = #[] ∨ ∃ x y rest, trace.primitives.toList = .moveTo x y :: rest := by
    rw [Derivation.trace] at traced
    cases evaluated : s.reset.evaluate (startingAt o startX startY).iterations with
    | error failure =>
      rw [evaluated] at traced
      cases traced
    | ok after =>
      rw [evaluated] at traced
      obtain ⟨t, _, traced⟩ := bind_ok.mp traced
      obtain ⟨n, completes, traced⟩ := bind_ok.mp traced
      cases traced
      exact completed_opening completes
  rw [Trace.shifted, Array.toList_map]
  rcases opening with none_ | ⟨x, y, rest, some_⟩
  · rw [none_]
    rfl
  · rw [some_]
    exact steps_shifted d x y rest

end

/-! ### Main statements -/

/-- How a system is drawn from a place so that it fills its frame. -/
def fillingFrom (o : DrawOptions (Exact F outside)) (startX startY : Number (Exact F outside)) : DrawOptions (Exact F outside) :=
  { o with trace := startingAt o.trace startX startY, fill := true }

/-- What is seen of a drawing: the number of its commands and its image. -/
def seen (drawn : Drawn (Exact F outside)) : Nat × Image (Exact F outside) := (drawn.commands, drawn.image)

theorem draw_unseen (s : Derivation) (o : DrawOptions (Exact F outside)) (startX startY otherX otherY : Number (Exact F outside)) :
    (s.draw (fillingFrom o otherX otherY)).2.map seen = (s.draw (fillingFrom o startX startY)).2.map seen := by
  obtain ⟨d, moved⟩ := trace_shifted o.trace startX startY otherX otherY
  have chosen : (fillingFrom o otherX otherY).chosenFormat = (fillingFrom o startX startY).chosenFormat := rfl
  have traces : (fillingFrom o otherX otherY).trace = startingAt o.trace otherX otherY := rfl
  have trace : (fillingFrom o startX startY).trace = startingAt o.trace startX startY := rfl
  rw [Derivation.draw, Derivation.draw, chosen]
  cases (fillingFrom o startX startY).chosenFormat with
  | error failure => rfl
  | ok format =>
    dsimp only
    rw [traces, trace, moved]
    cases traced : (s.trace (startingAt o.trace startX startY)).2 with
    | error failure => rfl
    | ok trace =>
      change Except.map seen (DrawOptions.drawn _ format (trace.shifted d)) = Except.map seen (DrawOptions.drawn _ format trace)
      rw [DrawOptions.drawn, DrawOptions.drawn, trace_steps d traced]
      cases Recorder.steps trace.primitives.toList with
      | error failure => rfl
      | ok steps =>
        have same := image_shifted d format steps o.frame o.padding o.background
        change Except.map seen (Image.ofSteps format (steps.map (Step.shifted d)) o.frame o.padding o.background true >>= _) =
          Except.map seen (Image.ofSteps format steps o.frame o.padding o.background true >>= _)
        rw [same]
        cases Image.ofSteps format steps o.frame o.padding o.background true with
        | error failure => rfl
        | ok image => rfl

theorem drawingSteps_unseen (s : Derivation) (o : TraceOptions (Exact F outside))
    (startX startY otherX otherY : Number (Exact F outside)) (frame : Frame) (padding : Int) :
    (s.drawingSteps (startingAt o otherX otherY) frame padding).2 = (s.drawingSteps (startingAt o startX startY) frame padding).2 := by
  obtain ⟨d, moved⟩ := trace_shifted o startX startY otherX otherY
  rw [Derivation.drawingSteps, Derivation.drawingSteps]
  dsimp only
  rw [moved]
  cases traced : (s.trace (startingAt o startX startY)).2 with
  | error failure => rfl
  | ok trace =>
    change (Recorder.steps (trace.shifted d).primitives.toList >>= fun steps => CanvasStep.ofSteps steps frame padding) =
      (Recorder.steps trace.primitives.toList >>= fun steps => CanvasStep.ofSteps steps frame padding)
    rw [trace_steps d traced]
    cases Recorder.steps trace.primitives.toList with
    | error failure => rfl
    | ok steps => exact canvas_shifted d steps frame padding

/-- In exact arithmetic, with any cosine and sine, a pass without a hook that starts from a moved turtle is the pass
    moved: what it emits differs in places alone, and there by the move. A drawing that fills its frame and the steps
    on a canvas are therefore the same wherever the turtle starts. -/
theorem placement_unseen {F : Type} {outside : Outside F} [Field F] [LinearOrder F] [IsStrictOrderedRing F] [FloorRing F] :
    (∀ (d : Shift (Exact F outside)) calls randomness (t : Turtle (Exact F outside)) step turnAngle sequence,
      render none calls randomness (t.shifted d) step turnAngle sequence =
        (render none calls randomness t step turnAngle sequence).shifted d) ∧
    (∀ (s : Derivation) (o : DrawOptions (Exact F outside)) startX startY otherX otherY,
      (s.draw (fillingFrom o otherX otherY)).2.map seen = (s.draw (fillingFrom o startX startY)).2.map seen) ∧
    ∀ (s : Derivation) (o : TraceOptions (Exact F outside)) startX startY otherX otherY frame padding,
      (s.drawingSteps (startingAt o otherX otherY) frame padding).2 = (s.drawingSteps (startingAt o startX startY) frame padding).2 :=
  ⟨render_shifted, draw_unseen, drawingSteps_unseen⟩

/-- Rational numbers with headings along the axes only. -/
def axes : Outside ℚ where
  cosine heading := .ok (if heading = 0 then 1 else 0)
  sine heading := .ok (if heading = 90 then 1 else 0)
  unbounded := 0
  shown _ := []

/-- Two lines with a turn between them. -/
def corner : Derivation := .start .empty (Sequence.ofString "F+F")

def cornerOptions : DrawOptions (Exact ℚ axes) where
  trace := { forward := .int 10, turn := .int 90, iterations := .int 0, pen := .list [0, 1, 0], startX := .int 0, startY := .int 0
             orientation := .int 0, hook := none, randomness := .seed .null }
  fileName := none
  frame := ⟨100, 100⟩
  background := none
  fill := true
  padding := 10
  format := none

/-- A corner that fills its frame is drawn by the same calls from the origin and from elsewhere. -/
theorem corner_unseen :
    ∃ image, (corner.draw (fillingFrom cornerOptions (.int 0) (.int 0))).2.map seen = .ok (3, image) ∧
      (corner.draw (fillingFrom cornerOptions (.int 3) (.real (-1 / 2)))).2.map seen = .ok (3, image) := by
  have commands : ((corner.draw (fillingFrom cornerOptions (.int 0) (.int 0))).2.toOption.map fun d => d.commands) = some 3 := by
    decide +kernel
  obtain ⟨drawn, drew, counted⟩ := Option.map_eq_some_iff.mp commands
  have shown : (corner.draw (fillingFrom cornerOptions (.int 0) (.int 0))).2.map seen = .ok (3, drawn.image) := by
    rw [toOption_ok.mp drew]
    exact congrArg (fun n => Except.ok (n, drawn.image)) counted
  have moved := placement_unseen.2.1 corner cornerOptions (.int 0) (.int 0) (.int 3) (.real (-1 / 2))
  exact ⟨drawn.image, shown, moved.trans shown⟩

end Placing

end Lindenmayer
