import Lindenmayer.Drawing.Draw
import Lindenmayer.Proofs.Outcomes
import Lindenmayer.Scalar.Double

/-!
One drawing rendered three times: as calls on a picture, as tags of an SVG text, and as steps on a canvas. Each
brings a step into the frame for itself, and what it makes of it is what it makes of the one shape in the frame
(`Fit.shape`; `element_text`, `call_shape` and `ofStep_shape`). So the three show it in the same place and size
(`Alike`), one by one and in the order of the steps (`renderings_agree`), whatever the arithmetic of the scalars.
-/
namespace Lindenmayer

namespace Fit

variable {K : Type} [Scalar K]

/-- Where a point comes to lie. -/
def apply (f : Fit K) (p : Point K) : Point K := ⟨p.x * f.scale + f.offsetX, p.y * f.scale + f.offsetY⟩

/-- A shape brought into the frame; sizes lose their sign. -/
def shape (f : Fit K) : Shape K → Shape K
  | .line start stop width => .line (f.apply start) (f.apply stop) (width * f.scale)
  | .circle centre radius => .circle (f.apply centre) (Scalar.abs radius * f.scale)
  | .rectangle centre width height => .rectangle (f.apply centre) (Scalar.abs width * f.scale) (Scalar.abs height * f.scale)

end Fit

namespace Renderings
open Outcomes

variable {K : Type} [Scalar K]

/-! ### Tags -/

/-- A tag of an SVG text: its name and its attributes, in their order. -/
structure Tag where
  name : String
  attributes : List (String × Text)

namespace Tag

def value? (tag : Tag) (name : String) : Option Text := (tag.attributes.find? (·.1 == name)).map Prod.snd

/-- An attribute as it is written. -/
def assigned (name : String) (value : Text) : Text := Text.ofString (" " ++ name ++ "=\"") ++ value ++ Text.ofString "\""

def text (tag : Tag) : Text :=
  Text.ofString ("  <" ++ tag.name) ++ tag.attributes.flatMap (fun (name, value) => assigned name value) ++ Text.ofString " />"

end Tag

/-- A number as the text of a picture has it. -/
def written (x : K) : Text := Text.ofString (Svg.coordinate x)

/-- The tag of a shape that is brought into the frame. -/
def tagOf (colour opacity : Text) : Shape K → Tag
  | .line start stop width =>
    ⟨"line", [("x1", written start.x), ("y1", written start.y), ("x2", written stop.x), ("y2", written stop.y),
      ("stroke", colour), ("stroke-opacity", opacity), ("stroke-width", written width), ("stroke-linecap", Text.ofString "round")]⟩
  | .circle centre radius =>
    ⟨"circle", [("cx", written centre.x), ("cy", written centre.y), ("r", written radius), ("fill", colour), ("fill-opacity", opacity)]⟩
  | .rectangle centre width height =>
    ⟨"rect", [("x", written (centre.x - Scalar.half width)), ("y", written (centre.y - Scalar.half height)), ("width", written width),
      ("height", written height), ("fill", colour), ("fill-opacity", opacity)]⟩

theorem ofString_append (s t : String) : Text.ofString (s ++ t) = Text.ofString s ++ Text.ofString t := by
  simp [Text.ofString]

theorem assign_text (name value : String) : Text.ofString (Svg.assign name value) = Tag.assigned name (Text.ofString value) := by
  rw [Svg.assign, Tag.assigned, ofString_append, ofString_append]

theorem assignAll_text (pairs : List (String × K)) :
    Text.ofString (Svg.assignAll pairs) = pairs.flatMap fun pair => Tag.assigned pair.1 (written pair.2) := by
  rw [Svg.assignAll, Text.ofString, String.toList_join, List.flatMap_map, List.map_flatMap]
  exact congrArg (pairs.flatMap ·) (funext fun pair => assign_text pair.1 (Svg.coordinate pair.2))

theorem paint_text (name : String) (colour : Text) (opacity : String) : Svg.join (Svg.paint name colour opacity) =
    Tag.assigned name colour ++ Tag.assigned (name ++ "-opacity") (Text.ofString opacity) := by
  simp [Svg.join, Svg.paint, ofString_append, assign_text, Tag.assigned]

/-- The line of a shape is the tag of the shape in the frame. -/
theorem element_text (f : Fit K) (colour : Text) (opacity : String) (shape : Shape K) :
    Svg.element f colour opacity shape = (tagOf colour (Text.ofString opacity) (f.shape shape)).text := by
  have join_append (ps qs : List Svg.Piece) : Svg.join (ps ++ qs) = Svg.join ps ++ Svg.join qs := List.flatMap_append
  have join_plain (s : String) : Svg.join [.plain s] = Text.ofString s := List.flatMap_singleton ..
  cases shape with
  | line start stop width =>
    rw [Svg.element, ← List.singleton_append, join_append, join_append, paint_text, join_plain, join_plain]
    simp [ofString_append, assignAll_text, assign_text, tagOf, Tag.text, Fit.shape, Fit.apply, Svg.place]
  | circle centre radius =>
    rw [Svg.element, ← List.singleton_append, join_append, join_append, paint_text, join_plain, join_plain]
    simp [ofString_append, assignAll_text, tagOf, Tag.text, Fit.shape, Fit.apply, Svg.place]
  | rectangle centre width height =>
    rw [Svg.element, ← List.singleton_append, join_append, join_append, paint_text, join_plain, join_plain]
    simp [ofString_append, assignAll_text, tagOf, Tag.text, Fit.shape, Fit.apply, Svg.place]

/-- The SVG text of tags in a frame. -/
def document (frame : Frame) (background : Option Text) (tags : List Tag) : Text :=
  let painted := match background with
    | some name => if Svg.isPainted name then [Svg.backgroundLine frame name] else []
    | none => []
  (Svg.head frame ++ painted ++ tags.map Tag.text ++ [Text.ofString "</svg>"]).flatMap fun line => line ++ [Text.ofChar '\n']

/-! ### Calls and steps on a canvas -/

/-- The call that draws a shape which is in the frame. -/
def callIn (fill : Colour.Filled) : Shape K → Except Failure (Picture.Call K)
  | .line start stop width => do return .line start stop fill (max 1 (← Scalar.round width))
  | .circle centre radius => .ok (Picture.box .ellipse centre radius radius fill)
  | .rectangle centre width height => .ok (Picture.box .rectangle centre (Scalar.half width) (Scalar.half height) fill)

theorem call_shape (f : Fit K) (fill : Colour.Filled) (shape : Shape K) : Picture.call f fill shape = callIn fill (f.shape shape) := by
  cases shape with
  | line | circle | rectangle => rfl

/-- A step whose shape is in the frame, on a canvas. -/
def entryIn (s : Step K) : Except Failure (CanvasStep K) :=
  match s.shape with
  | .line start stop width => do
    let pixels := max 1 (← Scalar.round width)
    return ⟨{ s with shape := .line start stop (Scalar.ofInt pixels) }, some pixels⟩
  | .circle _ _ => .ok ⟨s, none⟩
  | .rectangle _ _ _ => .ok ⟨s, none⟩

theorem ofStep_shape (f : Fit K) (s : Step K) : CanvasStep.ofStep f s = entryIn { s with shape := f.shape s.shape } := by
  obtain ⟨shape, colour, opacity⟩ := s
  cases shape with
  | line | circle | rectangle => rfl

/-! ### One step -/

/-- A picture fills a shape with the colour and opacity of a step, and a tag names them. -/
structure Painted (s : Step K) (fill : Colour.Filled) (tag : Tag) (name : String) : Prop where
  fill : Picture.fill s.colour s.opacity = .ok fill
  colour : tag.value? name = some s.colour
  opacity : tag.value? (name ++ "-opacity") = some (written s.opacity)

/-- A step on a canvas, a call on a picture and a tag show one shape in one place. -/
inductive Alike : CanvasStep K → Picture.Call K → Tag → Prop where
  | line {start stop : Point K} {pixels : Int} {colour : Text} {opacity : K} {fill : Colour.Filled} {tag : Tag}
      (named : tag.name = "line") (x1 : tag.value? "x1" = some (written start.x)) (y1 : tag.value? "y1" = some (written start.y))
      (x2 : tag.value? "x2" = some (written stop.x)) (y2 : tag.value? "y2" = some (written stop.y))
      (painted : Painted ⟨.line start stop (Scalar.ofInt pixels), colour, opacity⟩ fill tag "stroke") :
      Alike ⟨⟨.line start stop (Scalar.ofInt pixels), colour, opacity⟩, some pixels⟩ (.line start stop fill pixels) tag
  | circle {centre : Point K} {radius : K} {colour : Text} {opacity : K} {fill : Colour.Filled} {tag : Tag}
      (named : tag.name = "circle") (cx : tag.value? "cx" = some (written centre.x)) (cy : tag.value? "cy" = some (written centre.y))
      (r : tag.value? "r" = some (written radius)) (painted : Painted ⟨.circle centre radius, colour, opacity⟩ fill tag "fill") :
      Alike ⟨⟨.circle centre radius, colour, opacity⟩, none⟩
        (.ellipse ⟨centre.x - radius, centre.y - radius⟩ ⟨centre.x + radius, centre.y + radius⟩ fill) tag
  | rectangle {centre low high : Point K} {width height : K} {colour : Text} {opacity : K} {fill : Colour.Filled} {tag : Tag}
      (lowest : low = ⟨centre.x - Scalar.half width, centre.y - Scalar.half height⟩)
      (highest : high = ⟨centre.x + Scalar.half width, centre.y + Scalar.half height⟩)
      (named : tag.name = "rect") (x : tag.value? "x" = some (written low.x)) (y : tag.value? "y" = some (written low.y))
      (across : tag.value? "width" = some (written width)) (down : tag.value? "height" = some (written height))
      (painted : Painted ⟨.rectangle centre width height, colour, opacity⟩ fill tag "fill") :
      Alike ⟨⟨.rectangle centre width height, colour, opacity⟩, none⟩ (.rectangle low high fill) tag

omit [Scalar K] in
theorem readColour_record (s : Step K) : s.record.readColour = .ok s.colour := by
  rw [Step.record]
  cases s.shape <;> rfl

omit [Scalar K] in
theorem readOpacity_record (s : Step K) : s.record.readOpacity = .ok s.opacity := by
  rw [Step.record]
  cases s.shape <;> rfl

omit [Scalar K] in
theorem readShape_record (s : Step K) : s.record.readShape = .ok (some s.shape) := by
  rw [Step.record]
  cases s.shape <;> rfl

/-- The tag of a step that is brought into the frame. -/
def tagOfStep (f : Fit K) (s : Step K) : Tag := tagOf s.colour (written s.opacity) (f.shape s.shape)

theorem lineOf_record (f : Fit K) (s : Step K) : Svg.lineOf f s.record = .ok (some (tagOfStep f s).text) := by
  rw [Svg.lineOf, readColour_record, readOpacity_record, readShape_record, tagOfStep, written, ← element_text]
  rfl

theorem callOf_record {f : Fit K} {s : Step K} {call : Option (Picture.Call K)} (drawn : Picture.callOf f s.record = .ok call) :
    ∃ fill drawing, Picture.fill s.colour s.opacity = .ok fill ∧ Picture.call f fill s.shape = .ok drawing ∧ call = some drawing := by
  rw [Picture.callOf, readColour_record, readOpacity_record, readShape_record] at drawn
  change (Picture.fill s.colour s.opacity >>= fun fill => do return some (← Picture.call f fill s.shape)) = .ok call at drawn
  obtain ⟨fill, filled, drawn⟩ := bind_ok.mp drawn
  obtain ⟨drawing, called, drawn⟩ := bind_ok.mp drawn
  cases drawn
  exact ⟨fill, drawing, filled, called, rfl⟩

/-- What a call draws of a step is what the canvas and the text have of it. -/
theorem call_alike {f : Fit K} {s : Step K} {fill : Colour.Filled} {drawing : Picture.Call K}
    (filled : Picture.fill s.colour s.opacity = .ok fill) (called : Picture.call f fill s.shape = .ok drawing) :
    ∃ entry, CanvasStep.ofStep f s = .ok entry ∧ Alike entry drawing (tagOfStep f s) := by
  rw [call_shape] at called
  rw [ofStep_shape, tagOfStep]
  obtain ⟨shape, colour, opacity⟩ := s
  dsimp only at filled called ⊢
  cases inFrame : f.shape shape with
  | line start stop width =>
    rw [inFrame] at called
    obtain ⟨pixels, wide, called⟩ := bind_ok.mp called
    cases called
    exact ⟨_, bind_ok.mpr ⟨pixels, wide, rfl⟩, .line rfl rfl rfl rfl rfl ⟨filled, rfl, rfl⟩⟩
  | circle centre radius =>
    rw [inFrame] at called
    cases called
    exact ⟨_, rfl, .circle rfl rfl rfl rfl ⟨filled, rfl, rfl⟩⟩
  | rectangle centre width height =>
    rw [inFrame] at called
    cases called
    exact ⟨_, rfl, .rectangle rfl rfl rfl rfl rfl rfl rfl ⟨filled, rfl, rfl⟩⟩

/-! ### All steps -/

/-- A step in all its renderings. -/
structure Rendering (K : Type) where
  step : Step K
  entry : CanvasStep K
  call : Picture.Call K
  tag : Tag

/-- The renderings of one step are made with one fit and are alike. -/
structure Fits (f : Fit K) (row : Rendering K) : Prop where
  placed : CanvasStep.ofStep f row.step = .ok row.entry
  tagged : row.tag = tagOfStep f row.step
  alike : Alike row.entry row.call row.tag

theorem calls_rendered {f : Fit K} {steps : List (Step K)} {calls : List (Picture.Call K)}
    (drawn : Picture.callsOf f (steps.map Step.record) = .ok calls) :
    ∃ rows : List (Rendering K), rows.map (·.step) = steps ∧ rows.map (·.call) = calls ∧ ∀ row ∈ rows, Fits f row := by
  induction steps generalizing calls with
  | nil =>
    cases drawn
    exact ⟨[], rfl, rfl, by simp⟩
  | cons s rest ih =>
    obtain ⟨found, read, drawn⟩ := bind_ok.mp drawn
    cases drawn
    rw [List.map_cons, List.mapM_cons] at read
    obtain ⟨call, first, read⟩ := bind_ok.mp read
    obtain ⟨others, later, read⟩ := bind_ok.mp read
    cases read
    obtain ⟨fill, drawing, filled, called, rfl⟩ := callOf_record first
    obtain ⟨entry, placed, alike⟩ := call_alike filled called
    obtain ⟨rows, steps, calls, fits⟩ := ih (bind_ok.mpr ⟨others, later, rfl⟩)
    refine ⟨⟨s, entry, drawing, tagOfStep f s⟩ :: rows, by simp [steps], by simp [calls], ?_⟩
    intro row member
    rcases List.mem_cons.mp member with rfl | after
    · exact ⟨placed, rfl, alike⟩
    · exact fits row after

theorem blank_calls {frame : Frame} {background : Option Text} {picture : Picture K} (blank : Picture.blank frame background = .ok picture) :
    picture.calls = none := by
  rw [Picture.blank] at blank
  split at blank
  · cases blank
  · cases background with
    | none | some =>
      obtain ⟨_, _, blank⟩ := bind_ok.mp blank
      obtain ⟨_, _, blank⟩ := bind_ok.mp blank
      cases blank
      rfl

theorem ofSteps_document {steps : List (Step K)} {frame : Frame} {padding : Int} {background : Option Text} {fill : Bool} {text : Text}
    (drawn : Svg.ofSteps (steps.map Step.record) frame padding background fill = .ok text) :
    ∃ f, Fit.ofSteps (steps.map Step.record) frame padding fill = .ok f ∧ text = document frame background (steps.map (tagOfStep f)) := by
  obtain ⟨f, fitted, drawn⟩ := bind_ok.mp drawn
  have lines : (steps.map Step.record).mapM (Svg.lineOf f) = .ok (steps.map fun s => some (tagOfStep f s).text) := by
    rw [List.mapM_map]
    exact mapM_ok fun s _ => lineOf_record f s
  obtain ⟨found, read, drawn⟩ := bind_ok.mp drawn
  rw [lines] at read
  cases read
  cases drawn
  refine ⟨f, fitted, ?_⟩
  have texts : (steps.map fun s => some (tagOfStep f s).text).filterMap id = (steps.map (tagOfStep f)).map Tag.text := by simp
  rw [texts]
  rfl

/-- Steps in all their renderings, in one frame: the picture, the text and, if they fill the frame, the steps on
    a canvas have as many shapes as there are steps, in the same order, and alike. -/
structure Consistent (steps : List (Step K)) (frame : Frame) (padding : Int) (background : Option Text) (fill : Bool)
    (picture : Picture K) (text : Text) (f : Fit K) (rows : List (Rendering K)) : Prop where
  fitted : Fit.ofSteps (steps.map Step.record) frame padding fill = .ok f
  all : rows.map (·.step) = steps
  placed : ∀ row ∈ rows, CanvasStep.ofStep f row.step = .ok row.entry
  alike : ∀ row ∈ rows, Alike row.entry row.call row.tag
  calls : picture.calls.getD [] = rows.map (·.call)
  text : text = document frame background (rows.map (·.tag))
  canvas : fill = true → CanvasStep.ofSteps steps frame padding = .ok (rows.map (·.entry))
  traced : fill = true → ∀ (s : Derivation) (o : TraceOptions K) (trace : Trace K), (s.trace o).2 = .ok trace →
    Recorder.steps trace.primitives.toList = .ok steps → (s.drawingSteps o frame padding).2 = .ok (rows.map (·.entry))

theorem renderings_agree {steps : List (Step K)} {frame : Frame} {padding : Int} {background : Option Text} {fill : Bool}
    {picture : Picture K} {text : Text}
    (drawn : Picture.ofSteps (steps.map Step.record) frame padding background fill = .ok picture)
    (wrote : Svg.ofSteps (steps.map Step.record) frame padding background fill = .ok text) :
    ∃ f rows, Consistent steps frame padding background fill picture text f rows := by
  obtain ⟨f, fitted, wrote⟩ := ofSteps_document wrote
  obtain ⟨rows, all, calls, fits⟩ : ∃ rows : List (Rendering K), rows.map (·.step) = steps ∧
      picture.calls.getD [] = rows.map (·.call) ∧ ∀ row ∈ rows, Fits f row := by
    obtain ⟨empty, blank, drawn⟩ := bind_ok.mp drawn
    cases steps with
    | nil =>
      cases drawn
      exact ⟨[], rfl, by simp [blank_calls blank], by simp⟩
    | cons s rest =>
      obtain ⟨g, same, drawn⟩ := bind_ok.mp drawn
      cases same.symm.trans fitted
      obtain ⟨calls, drew, drawn⟩ := bind_ok.mp drawn
      cases drawn
      have drewAll : Picture.callsOf f ((s :: rest).map Step.record) = .ok calls := drew
      obtain ⟨rows, all, each, fits⟩ := calls_rendered drewAll
      exact ⟨rows, all, each.symm, fits⟩
  have tags : rows.map (·.tag) = steps.map (tagOfStep f) := by
    rw [← all, List.map_map]
    exact List.map_congr_left fun row member => (fits row member).tagged
  have canvas (filled : fill = true) : CanvasStep.ofSteps steps frame padding = .ok (rows.map (·.entry)) := by
    subst filled
    refine bind_ok.mpr ⟨f, fitted, ?_⟩
    rw [← all, List.mapM_map]
    exact mapM_ok fun row member => (fits row member).placed
  refine ⟨f, rows, fitted, all, fun row member => (fits row member).placed, fun row member => (fits row member).alike, calls,
    tags ▸ wrote, canvas, fun filled s o trace traced resolved => ?_⟩
  rw [Derivation.drawingSteps]
  dsimp only
  rw [traced]
  exact bind_ok.mpr ⟨trace, rfl, bind_ok.mpr ⟨steps, resolved, canvas filled⟩⟩

/-- A line, a circle whose radius has a sign, and a square beside the origin. -/
def shapes : List (Step Float) :=
  [⟨.line ⟨0.0, 0.0⟩ ⟨10.0, 5.0⟩ 1.5, Text.ofString "#ff8000", 0.5⟩, ⟨.circle ⟨5.0, 5.0⟩ (-2.5), Text.ofString "#ff8000", 1.0⟩,
    ⟨.rectangle ⟨-1.0, 2.0⟩ 2.5 2.5, Text.ofString "#000080", 1.0⟩]

theorem shapes_agree :
    let frame : Frame := ⟨100, 80⟩
    let black := some (Text.ofString "black")
    ∃ picture text f rows, Picture.ofSteps (shapes.map Step.record) frame 10 black true = .ok picture ∧
      Svg.ofSteps (shapes.map Step.record) frame 10 black true = .ok text ∧
      Consistent shapes frame 10 black true picture text f rows := by
  intro frame black
  have drawable : (Picture.ofSteps (shapes.map Step.record) frame 10 black true).toOption.isSome = true := by decide +kernel
  have writable : (Svg.ofSteps (shapes.map Step.record) frame 10 black true).toOption.isSome = true := by decide +kernel
  obtain ⟨picture, drawn⟩ := Option.isSome_iff_exists.mp drawable
  obtain ⟨text, wrote⟩ := Option.isSome_iff_exists.mp writable
  obtain ⟨f, rows, consistent⟩ := renderings_agree (toOption_ok.mp drawn) (toOption_ok.mp wrote)
  exact ⟨picture, text, f, rows, toOption_ok.mp drawn, toOption_ok.mp wrote, consistent⟩

end Renderings

end Lindenmayer
