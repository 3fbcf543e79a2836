import Mathlib.Tactic.Linarith
import Lindenmayer.Service.Routes
import Lindenmayer.Proofs.Fitting

/-!
Which drawings stand upright, in exact arithmetic. A square image as the service draws it leaves its side without two
paddings as room, so the scale of what is drawn is that room over some extent (`scaleFor_square`): above zero in images
larger than the paddings, and below in smaller ones, where everything is mirrored (`drawings_upright`).
-/
namespace Lindenmayer

/-- Whether a call keeps the corners of its box in order. -/
def Picture.Call.Upright {K : Type} [LE K] : Picture.Call K → Prop
  | .line _ _ _ _ => True
  | .ellipse low high _ | .rectangle low high _ => low.x ≤ high.x ∧ low.y ≤ high.y

namespace Upright
open Outcomes Renderings Placing Exact Fitting

/-- Whether a shape is drawn by a box without an extent, or by no box. -/
def Boxless {K : Type} [Zero K] : Shape K → Prop
  | .line _ _ _ => True
  | .circle _ radius => radius = 0
  | .rectangle _ width height => width = 0 ∧ height = 0

/-- Whether a step draws with a pen of a width. -/
def PenWidthAbove {K : Type} [Zero K] [LT K] (s : Step K) : Prop := ∀ start stop width, s.shape = .line start stop width → 0 < width

/-- The attributes of tags that are sizes. -/
def sizeNames : List String := ["r", "width", "height", "stroke-width"]

variable {F : Type} {outside : Outside F} [Field F] [LinearOrder F] [IsStrictOrderedRing F] [FloorRing F]

/-! ### Scales -/

omit [IsStrictOrderedRing F] in
theorem scaleFor_square (room : Int) {width height : Exact F outside} (across : 0 ≤ width) (down : 0 ≤ height) :
    (width = 0 ∧ height = 0 ∧ Fit.scaleFor room room width height = 1) ∨
      ¬(width = 0 ∧ height = 0) ∧ ∃ extent : Exact F outside, 0 < extent ∧ Fit.scaleFor room room width height = room / extent := by
  rcases scaleFor_cases room room across down with
    point | ⟨across, thin, scale⟩ | ⟨flat, down, scale⟩ | ⟨across, down, scale⟩
  · exact .inl point
  · exact .inr ⟨fun none_ => across.ne' none_.1, width, across, scale⟩
  · exact .inr ⟨fun none_ => down.ne' none_.2, height, down, scale⟩
  · refine .inr ⟨fun none_ => across.ne' none_.1, ?_⟩
    rcases min_choice ((room : Exact F outside) / width) (room / height) with same | same
    · exact ⟨width, across, scale.trans same⟩
    · exact ⟨height, down, scale.trans same⟩

theorem nonneg_div_iff {x d : Exact F outside} (above : 0 < d) : 0 ≤ x / d ↔ 0 ≤ x := by rw [le_div_iff₀ above, zero_mul]

theorem ofBounds_above (side padding : Int) {b : Bounds (Exact F outside)} {points : List (Point (Exact F outside))} (around : Around b points) :
    (0 < (Fit.ofBounds ⟨side, side⟩ padding b).scale ↔ 2 * padding < side ∨ Coincide points) ∧
      (0 ≤ (Fit.ofBounds ⟨side, side⟩ padding b).scale ↔ 2 * padding ≤ side ∨ Coincide points) := by
  have same : (Fit.ofBounds ⟨side, side⟩ padding b).scale =
    Fit.scaleFor (side - 2 * padding) (side - 2 * padding) (b.maxX - b.minX) (b.maxY - b.minY) := rfl
  rw [same, around_coincide around]
  rcases scaleFor_square (side - 2 * padding) (sub_nonneg.mpr (around_le around).1) (sub_nonneg.mpr (around_le around).2) with
    ⟨flat, thin, one⟩ | ⟨some_, extent, above, scale⟩
  · rw [one]
    exact ⟨⟨fun _ => .inr ⟨flat, thin⟩, fun _ => zero_lt_one⟩, ⟨fun _ => .inr ⟨flat, thin⟩, fun _ => zero_le_one⟩⟩
  · rw [scale, div_pos_iff_of_pos_right above, nonneg_div_iff above, Int.cast_pos, Int.cast_nonneg_iff, or_iff_left some_,
      or_iff_left some_]
    omega

/-! ### Calls -/

/-- What can be turned over is what is drawn by a box with an extent. -/
theorem call_upright {f : Fit (Exact F outside)} {fill : Colour.Filled} {shape : Shape (Exact F outside)}
    {call : Picture.Call (Exact F outside)} (called : Picture.call f fill shape = .ok call) :
    call.Upright ↔ 0 ≤ f.scale ∨ Boxless shape := by
  have turned (x d : Exact F outside) : x - d ≤ x + d ↔ 0 ≤ d := by
    constructor
    · intro le
      linarith
    · intro le
      linarith
  have size (x scale : Exact F outside) : 0 ≤ |x| * scale ↔ 0 ≤ scale ∨ x = 0 := by
    by_cases none_ : x = 0
    · simp [none_]
    · rw [mul_nonneg_iff_of_pos_left (abs_pos.mpr none_), or_iff_left none_]
  have half (x : Exact F outside) : 0 ≤ Scalar.half x ↔ 0 ≤ x := by
    rw [half_exact]
    exact nonneg_div_iff two_pos
  cases shape with
  | line start stop width =>
    cases called
    exact ⟨fun _ => .inr trivial, fun _ => trivial⟩
  | circle centre radius =>
    cases called
    exact (and_congr (turned _ _) (turned _ _)).trans (and_self_iff.trans (size radius f.scale))
  | rectangle centre width height =>
    cases called
    have across := (turned (f.apply centre).x _).trans ((half _).trans (size width f.scale))
    have down := (turned (f.apply centre).y _).trans ((half _).trans (size height f.scale))
    exact (and_congr across down).trans or_and_left.symm

theorem calls_upright {f : Fit (Exact F outside)} {steps : List (Step (Exact F outside))} {calls : List (Picture.Call (Exact F outside))}
    (drawn : Picture.callsOf f (steps.map Step.record) = .ok calls) :
    (∀ call ∈ calls, call.Upright) ↔ 0 ≤ f.scale ∨ ∀ s ∈ steps, Boxless s.shape := by
  have each := calls_each drawn
  clear drawn
  induction each with
  | nil => simp
  | cons called _ ih =>
    obtain ⟨fill, called⟩ := called
    rw [List.forall_mem_cons, List.forall_mem_cons]
    exact (and_congr (call_upright called) ih).trans or_and_left.symm

/-! ### Tags -/

/-- The sizes of a shape, by the attributes that tell them. -/
def sizes {K : Type} : Shape K → List (String × K)
  | .line _ _ width => [("stroke-width", width)]
  | .circle _ radius => [("r", radius)]
  | .rectangle _ width height => [("width", width), ("height", height)]

/-- What a tag has for a size is the size of its shape as it is written. -/
theorem tag_sizes {K : Type} [Scalar K] {colour opacity value : Text} {shape : Shape K} {name : String} (size : name ∈ sizeNames)
    (told : (tagOf colour opacity shape).value? name = some value) : ∃ x, (name, x) ∈ sizes shape ∧ value = written x := by
  have names : name = "r" ∨ name = "width" ∨ name = "height" ∨ name = "stroke-width" := by simpa [sizeNames] using size
  cases shape with
  | line start stop width =>
    rcases names with rfl | rfl | rfl | rfl
    · simp [tagOf, Tag.value?] at told
    · simp [tagOf, Tag.value?] at told
    · simp [tagOf, Tag.value?] at told
    · exact ⟨width, by simp [sizes], (Option.some.inj told).symm⟩
  | circle centre radius =>
    rcases names with rfl | rfl | rfl | rfl
    · exact ⟨radius, by simp [sizes], (Option.some.inj told).symm⟩
    · simp [tagOf, Tag.value?] at told
    · simp [tagOf, Tag.value?] at told
    · simp [tagOf, Tag.value?] at told
  | rectangle centre width height =>
    rcases names with rfl | rfl | rfl | rfl
    · simp [tagOf, Tag.value?] at told
    · exact ⟨width, by simp [sizes], (Option.some.inj told).symm⟩
    · exact ⟨height, by simp [sizes], (Option.some.inj told).symm⟩
    · simp [tagOf, Tag.value?] at told

/-- Sizes lose their signs, so they are written with the sign of the scale; widths of lines keep theirs. -/
theorem sizes_above {f : Fit (Exact F outside)} (above : 0 ≤ f.scale) {s : Step (Exact F outside)} (pen : PenWidthAbove s) :
    ∀ size ∈ sizes (f.shape s.shape), 0 ≤ size.2 := by
  have kept (x : Exact F outside) : 0 ≤ Scalar.abs x * f.scale := mul_nonneg (abs_nonneg x) above
  obtain ⟨shape, colour, opacity⟩ := s
  cases shape with
  | line start stop width =>
    have wide : 0 ≤ width * f.scale := mul_nonneg (pen start stop width rfl).le above
    simpa [sizes, Fit.shape] using wide
  | circle centre radius => simpa [sizes, Fit.shape] using kept radius
  | rectangle centre width height => simpa [sizes, Fit.shape] using ⟨kept width, kept height⟩

/-! ### Main statements -/

theorem positive_above {e : Environment} {name : String} {fallback n : Int} (usual : 0 < fallback)
    (read : Settings.positive e name fallback = .ok n) : 0 < n := by
  rw [Settings.positive] at read
  split at read
  · cases read
    exact usual
  · split at read
    · cases read
    · split at read
      · cases read
      · cases read
        omega

theorem imageSize_above {e : Environment} {settings : Settings} (loaded : Settings.ofEnvironment e = .ok settings) : 0 < settings.imageSize := by
  obtain ⟨_, _, loaded⟩ := bind_ok.mp loaded
  obtain ⟨_, _, loaded⟩ := bind_ok.mp loaded
  obtain ⟨n, size, loaded⟩ := bind_ok.mp loaded
  cases loaded
  exact positive_above (by decide) size

/-- How the service draws what it is asked for so that it fills its image. -/
def filling {K : Type} (service : Service) (trace : TraceOptions K) (format : Format) : DrawOptions K :=
  { DrawOptions.usual trace with fileName := none, frame := service.frame, fill := true, format := some (Text.ofString format.name) }

/-- Steps that fill an image of a side, whatever is traced: the scale is above zero just if there is room within the
    padding or all is one point, and no box is turned over just if there is no lack of room or no box to turn. -/
structure Stands (side padding : Int) (steps : List (Step (Exact F outside))) (f : Fit (Exact F outside)) : Prop where
  fitted : Fit.ofSteps (steps.map Step.record) ⟨side, side⟩ padding true = .ok f
  scale : 0 < f.scale ↔ 2 * padding < side ∨ Coincide (spans steps)
  boxes : ∀ background picture, Picture.ofSteps (steps.map Step.record) ⟨side, side⟩ padding background true = .ok picture →
    ((∀ call ∈ picture.calls.getD [], call.Upright) ↔ (2 * padding ≤ side ∨ Coincide (spans steps)) ∨ ∀ s ∈ steps, Boxless s.shape)
  sizes : 2 * padding ≤ side ∨ Coincide (spans steps) → (∀ s ∈ steps, PenWidthAbove s) → ∀ background text,
    Svg.ofSteps (steps.map Step.record) ⟨side, side⟩ padding background true = .ok text →
    ∃ tags, text = document ⟨side, side⟩ background tags ∧ tags.length = steps.length ∧ ∀ tag ∈ tags, ∀ name ∈ sizeNames, ∀ value,
      tag.value? name = some value → ∃ x : Exact F outside, 0 ≤ x ∧ value = written x

theorem steps_stand {steps : List (Step (Exact F outside))} (some_ : steps ≠ []) (side padding : Int) : ∃ f, Stands side padding steps f := by
  obtain ⟨b, around, fitted⟩ := fit_ofSteps some_ ⟨side, side⟩ padding
  obtain ⟨above, notBelow⟩ := ofBounds_above side padding around
  refine ⟨Fit.ofBounds ⟨side, side⟩ padding b, fitted, above, ?_, ?_⟩
  · intro background picture drawn
    obtain ⟨blank, calls, _, drew, rfl⟩ := (picture_calls some_ fitted).mp drawn
    rw [← notBelow]
    exact calls_upright drew
  · intro room pens background text wrote
    obtain ⟨f, same, rfl⟩ := ofSteps_document wrote
    cases same.symm.trans fitted
    refine ⟨_, rfl, by simp, fun tag member name size value told => ?_⟩
    obtain ⟨s, drawn, rfl⟩ := List.mem_map.mp member
    obtain ⟨x, among, rfl⟩ := tag_sizes size told
    exact ⟨x, sizes_above (notBelow.mpr room) (pens s drawn) _ among, rfl⟩

/-- The images that settings ask the service for are squares of a side above zero, with a padding of 50. In exact
    arithmetic what fills one is neither mirrored nor collapsed, and has neither a box that is turned over nor a size
    below zero, if the side is above 100 or everything is drawn at one point. In smaller images it is mirrored. -/
theorem images_stand {e : Environment} {service : Service} (loaded : Settings.ofEnvironment e = .ok service.settings)
    (trace : TraceOptions (Exact F outside)) (format : Format) {steps : List (Step (Exact F outside))} (some_ : steps ≠ []) :
    let o := filling service trace format
    let side := service.settings.imageSize
    0 < side ∧ o.frame = ⟨side, side⟩ ∧ o.padding = 50 ∧ ∃ f, Stands side 50 steps f :=
  ⟨imageSize_above loaded, rfl, rfl, steps_stand some_ _ 50⟩

theorem usual_image_stands :
    Settings.ofEnvironment [] = .ok (Service.start Settings.usual).settings ∧ signed ≠ [] ∧ ∃ f, Stands 800 50 signed f ∧ 0 < f.scale := by
  have loaded : Settings.ofEnvironment [] = .ok (Service.start Settings.usual).settings := toOption_ok.mp (by decide +kernel)
  have some_ : signed ≠ [] := List.cons_ne_nil _ _
  obtain ⟨_, _, _, f, stands⟩ := images_stand loaded cornerOptions.trace .png some_
  exact ⟨loaded, some_, f, stands, stands.scale.mpr (.inl (by decide +kernel))⟩

/-- A square of ten at the origin. -/
def square : List (Step (Exact ℚ axes)) := [⟨.rectangle ⟨0, 0⟩ (10 : ℚ) (10 : ℚ), Text.ofString "#4d99cc", (9 / 10 : ℚ)⟩]

/-- An image of sixty has no room within the padding, so a square in it is mirrored and its box is turned over. -/
theorem small_image_mirrored :
    let e : Environment := [(Text.ofString "LSYSTEM_IMAGE_SIZE", Text.ofString "60")]
    let service := Service.start { Settings.usual with imageSize := 60 }
    let o := filling service cornerOptions.trace .png
    Settings.ofEnvironment e = .ok service.settings ∧
      (∃ f, Fit.ofSteps (square.map Step.record) o.frame o.padding o.fill = .ok f ∧ f.scale < 0) ∧
      ∃ picture fill, Picture.ofSteps (square.map Step.record) o.frame o.padding o.background o.fill = .ok picture ∧
        picture.calls = some [.rectangle ⟨50, 50⟩ ⟨10, 10⟩ fill] := by
  intro e service o
  refine ⟨toOption_ok.mp (by decide +kernel), ?_, ?_⟩
  · have scale : ((Fit.ofSteps (square.map Step.record) o.frame o.padding o.fill).toOption.map (·.scale)) = some (-4) := by decide +kernel
    obtain ⟨f, fitted, scale⟩ := Option.map_eq_some_iff.mp scale
    exact ⟨f, toOption_ok.mp fitted, by rw [scale]; decide +kernel⟩
  · have calls : ((Picture.ofSteps (square.map Step.record) o.frame o.padding o.background o.fill).toOption.bind (·.calls)) =
        some [.rectangle ⟨50, 50⟩ ⟨10, 10⟩ ⟨⟨77, 153, 204⟩, 230⟩] := by decide +kernel
    obtain ⟨picture, drawn, calls⟩ := Option.bind_eq_some_iff.mp calls
    exact ⟨picture, _, toOption_ok.mp drawn, calls⟩

end Upright
end Lindenmayer
