import Mathlib.Tactic.Linarith
import Lindenmayer.Drawing.Params
import Lindenmayer.Proofs.Placing

/-!
Drawings brought into their frame, in exact arithmetic. The box around the steps holds all their corners and has one on
each of its sides (`ofPoints_around`), and a fit that does not mirror takes it to the box around the steps as they are
drawn (`around_apply`). The scale makes the box as large as its room allows (`scaleFor_ample`), and the offsets share
what is left of the room (`offset_centred`), so that the drawing lies in the middle of its frame and fills it one way or
both (`drawings_fitted`).
-/
namespace Lindenmayer

/-- The points that span what a call draws. -/
def Picture.Call.span {K : Type} : Picture.Call K → List (Point K)
  | .line start stop _ _ => [start, stop]
  | .ellipse low high _ => [low, high]
  | .rectangle low high _ => [low, high]

def Bounds.widen {K : Type} [Scalar K] (b : Bounds K) (p : Point K) : Bounds K where
  minX := leastOf b.minX p.x
  minY := leastOf b.minY p.y
  maxX := greatestOf b.maxX p.x
  maxY := greatestOf b.maxY p.y

/-- Where a box comes to lie. -/
def Fit.box {K : Type} [Scalar K] (f : Fit K) (b : Bounds K) : Bounds K where
  minX := b.minX * f.scale + f.offsetX
  minY := b.minY * f.scale + f.offsetY
  maxX := b.maxX * f.scale + f.offsetX
  maxY := b.maxY * f.scale + f.offsetY

namespace Fitting
open Outcomes Renderings Placing Exact

/-- The points that span what steps touch. -/
def spans {K : Type} [Scalar K] (steps : List (Step K)) : List (Point K) := steps.flatMap fun s => s.shape.span

theorem spans_ne_nil {K : Type} [Scalar K] {steps : List (Step K)} (some_ : steps ≠ []) : spans steps ≠ [] := by
  obtain ⟨⟨shape, colour, opacity⟩, rest, rfl⟩ := List.exists_cons_of_ne_nil some_
  cases shape with
  | line | circle | rectangle => exact List.cons_ne_nil _ _

/-- Numbers between two of them. -/
structure Spanned {F : Type} [LE F] (low high : F) (xs : List F) : Prop where
  holds : ∀ x ∈ xs, low ≤ x ∧ x ≤ high
  lowest : low ∈ xs
  highest : high ∈ xs

/-- The box around points: it holds them all, and each of its sides has one of them. -/
structure Around {F : Type} [LE F] (b : Bounds F) (points : List (Point F)) : Prop where
  across : Spanned b.minX b.maxX (points.map Point.x)
  down : Spanned b.minY b.maxY (points.map Point.y)

variable {F : Type} {outside : Outside F} [Field F] [LinearOrder F] [FloorRing F]

/-! ### Boxes -/

theorem leastOf_exact (x y : Exact F outside) : leastOf x y = min x y := min_exact x y

theorem greatestOf_exact (x y : Exact F outside) : greatestOf x y = max x y := max_exact x y

theorem spanned_snoc {low high : Exact F outside} {xs : List (Exact F outside)} (h : Spanned low high xs) (x : Exact F outside) :
    Spanned (leastOf low x) (greatestOf high x) (xs ++ [x]) := by
  rw [leastOf_exact, greatestOf_exact]
  constructor
  · intro y member
    rcases List.mem_append.mp member with before | new
    · have held := h.holds y before
      exact ⟨(min_le_left _ _).trans held.1, held.2.trans (le_max_left _ _)⟩
    · rw [List.mem_singleton.mp new]
      exact ⟨min_le_right _ _, le_max_right _ _⟩
  · rcases min_choice low x with same | same
    · rw [same]
      exact List.mem_append_left _ h.lowest
    · simp [same]
  · rcases max_choice high x with same | same
    · rw [same]
      exact List.mem_append_left _ h.highest
    · simp [same]

theorem widen_around {b : Bounds (Exact F outside)} {points : List (Point (Exact F outside))} (h : Around b points)
    (p : Point (Exact F outside)) : Around (b.widen p) (points ++ [p]) := by
  constructor
  · rw [List.map_append]
    exact spanned_snoc h.across p.x
  · rw [List.map_append]
    exact spanned_snoc h.down p.y

theorem ofPoints_around {points : List (Point (Exact F outside))} (some_ : points ≠ []) :
    ∃ b, Bounds.ofPoints? points = some b ∧ Around b points := by
  obtain ⟨p, rest, rfl⟩ := List.exists_cons_of_ne_nil some_
  have single (x : Exact F outside) : Spanned x x [x] := ⟨by simp, by simp, by simp⟩
  have fold (seen : List (Point (Exact F outside))) (b : Bounds (Exact F outside)) (h : Around b seen) :
      Around (rest.foldl Bounds.widen b) (seen ++ rest) := by
    clear some_
    induction rest generalizing seen b with
    | nil => simpa using h
    | cons q rest ih => simpa using ih (seen ++ [q]) _ (widen_around h q)
  exact ⟨_, rfl, fold [p] _ ⟨single p.x, single p.y⟩⟩

variable [IsStrictOrderedRing F]

theorem spanned_scaled {low high scale : Exact F outside} {xs : List (Exact F outside)} (h : Spanned low high xs) (above : 0 ≤ scale)
    (offset : Exact F outside) : Spanned (low * scale + offset) (high * scale + offset) (xs.map (· * scale + offset)) := by
  have kept {x y : Exact F outside} (le : x ≤ y) : x * scale + offset ≤ y * scale + offset :=
    add_le_add_left (mul_le_mul_of_nonneg_right le above) offset
  constructor
  · intro y member
    obtain ⟨x, before, rfl⟩ := List.mem_map.mp member
    exact ⟨kept (h.holds x before).1, kept (h.holds x before).2⟩
  · exact List.mem_map_of_mem h.lowest
  · exact List.mem_map_of_mem h.highest

theorem around_apply {f : Fit (Exact F outside)} {b : Bounds (Exact F outside)} {points : List (Point (Exact F outside))}
    (h : Around b points) (above : 0 ≤ f.scale) : Around (f.box b) (points.map f.apply) := by
  constructor
  · rw [List.map_map]
    have moved := spanned_scaled h.across above f.offsetX
    rwa [List.map_map] at moved
  · rw [List.map_map]
    have moved := spanned_scaled h.down above f.offsetY
    rwa [List.map_map] at moved

/-! ### Shapes -/

section
variable (f : Fit (Exact F outside))
omit [IsStrictOrderedRing F]

theorem cornersAround_apply (centre : Point (Exact F outside)) (dx dy : Exact F outside) :
    cornersAround (f.apply centre) (dx * f.scale) (dy * f.scale) = (cornersAround centre dx dy).map f.apply := by
  have less (x d scale offset : Exact F outside) : x * scale + offset - d * scale = (x - d) * scale + offset := by ring
  have more (x d scale offset : Exact F outside) : x * scale + offset + d * scale = (x + d) * scale + offset := by ring
  simp only [cornersAround, Fit.apply, less, more, List.map_cons, List.map_nil]

theorem half_scaled (x scale : Exact F outside) : Scalar.half (x * scale) = Scalar.half x * scale := by
  rw [half_exact, half_exact]
  exact mul_div_right_comm x scale 2

/-- The box that a call draws is spanned by what spans the shape, wherever the fit takes it. -/
theorem call_span {fill : Colour.Filled} {shape : Shape (Exact F outside)} {call : Picture.Call (Exact F outside)}
    (called : Picture.call f fill shape = .ok call) : call.span = shape.span.map f.apply := by
  cases shape with
  | line start stop width =>
    cases called
    rfl
  | circle centre radius =>
    cases called
    exact cornersAround_apply f centre _ _
  | rectangle centre width height =>
    cases called
    have boxed := cornersAround_apply f centre (Scalar.half (Scalar.abs width)) (Scalar.half (Scalar.abs height))
    rwa [← half_scaled, ← half_scaled] at boxed

end

variable {f : Fit (Exact F outside)}

/-- A step on a canvas keeps no sign of a size, so it is spanned by what spanned it where the fit does not mirror. -/
theorem ofStep_span (above : 0 ≤ f.scale) (s : Step (Exact F outside)) :
    ∃ entry, CanvasStep.ofStep f s = .ok entry ∧ entry.step.shape.span = s.shape.span.map f.apply := by
  have size (x : Exact F outside) : Scalar.abs (Scalar.abs x * f.scale) = Scalar.abs x * f.scale :=
    abs_of_nonneg (mul_nonneg (abs_nonneg x) above)
  obtain ⟨shape, colour, opacity⟩ := s
  cases shape with
  | line start stop width => exact ⟨_, rfl, rfl⟩
  | circle centre radius =>
    refine ⟨_, rfl, ?_⟩
    change cornersAround (f.apply centre) (Scalar.abs (Scalar.abs radius * f.scale)) (Scalar.abs (Scalar.abs radius * f.scale)) = _
    rw [size, cornersAround_apply]
    rfl
  | rectangle centre width height =>
    refine ⟨_, rfl, ?_⟩
    change cornersAround (f.apply centre) (Scalar.half (Scalar.abs (Scalar.abs width * f.scale)))
      (Scalar.half (Scalar.abs (Scalar.abs height * f.scale))) = _
    rw [size, size, half_scaled, half_scaled, cornersAround_apply]
    rfl

theorem canvas_spans (above : 0 ≤ f.scale) (steps : List (Step (Exact F outside))) :
    ∃ entries, steps.mapM (CanvasStep.ofStep f) = .ok entries ∧ entries.length = steps.length ∧
      spans (entries.map (·.step)) = (spans steps).map f.apply := by
  induction steps with
  | nil => exact ⟨[], rfl, rfl, rfl⟩
  | cons s rest ih =>
    obtain ⟨entry, placed, span⟩ := ofStep_span above s
    obtain ⟨entries, others, count, all⟩ := ih
    refine ⟨entry :: entries, ?_, by simp [count], ?_⟩
    · rw [List.mapM_cons, placed, others]
      rfl
    · rw [spans] at all
      simp [spans, span, all]

section
omit [IsStrictOrderedRing F]

/-- The calls of a picture are those of the steps, one by one. -/
theorem calls_each {steps : List (Step (Exact F outside))} {calls : List (Picture.Call (Exact F outside))}
    (drawn : Picture.callsOf f (steps.map Step.record) = .ok calls) :
    List.Forall₂ (fun s call => ∃ fill, Picture.call f fill s.shape = .ok call) steps calls := by
  induction steps generalizing calls with
  | nil =>
    cases drawn
    exact .nil
  | cons s rest ih =>
    obtain ⟨found, read, drawn⟩ := bind_ok.mp drawn
    cases drawn
    rw [List.map_cons, List.mapM_cons] at read
    obtain ⟨first, drew, read⟩ := bind_ok.mp read
    obtain ⟨others, later, read⟩ := bind_ok.mp read
    cases read
    obtain ⟨fill, call, _, called, rfl⟩ := callOf_record drew
    exact .cons ⟨fill, called⟩ (ih (bind_ok.mpr ⟨others, later, rfl⟩))

theorem calls_spans {steps : List (Step (Exact F outside))} {calls : List (Picture.Call (Exact F outside))}
    (drawn : Picture.callsOf f (steps.map Step.record) = .ok calls) :
    calls.length = steps.length ∧ calls.flatMap Picture.Call.span = (spans steps).map f.apply := by
  have each := calls_each drawn
  clear drawn
  refine ⟨each.length_eq.symm, ?_⟩
  induction each with
  | nil => rfl
  | cons called _ ih =>
    obtain ⟨fill, called⟩ := called
    rw [spans] at ih ⊢
    rw [List.flatMap_cons, List.flatMap_cons, List.map_append, call_span f called, ih]

/-- In exact arithmetic a call can only want a colour that is read. -/
theorem calls_drawn {steps : List (Step (Exact F outside))} (filled : ∀ s ∈ steps, ∃ fill, Picture.fill s.colour s.opacity = .ok fill) :
    ∃ calls, Picture.callsOf f (steps.map Step.record) = .ok calls := by
  have each : ∀ s ∈ steps, ∃ call, Picture.callOf f s.record = .ok call := by
    intro s member
    obtain ⟨fill, fills⟩ := filled s member
    obtain ⟨call, called⟩ : ∃ call, Picture.call f fill s.shape = .ok call := by
      cases s.shape with
      | line | circle | rectangle => exact ⟨_, rfl⟩
    refine ⟨some call, ?_⟩
    rw [Picture.callOf, readColour_record, readOpacity_record, readShape_record, ok_bind, ok_bind, fills, ok_bind, ok_bind]
    exact bind_ok.mpr ⟨call, called, rfl⟩
  cases drawn : (steps.map Step.record).mapM (Picture.callOf f) with
  | ok calls => exact ⟨_, bind_ok.mpr ⟨calls, drawn, rfl⟩⟩
  | error failure =>
    obtain ⟨before, record, after, split_, _, failed⟩ := mapM_error.mp drawn
    obtain ⟨s, member, rfl⟩ := List.mem_map.mp (split_ ▸ List.mem_append_right before List.mem_cons_self)
    obtain ⟨call, called⟩ := each s member
    cases called.symm.trans failed

end

/-! ### Scales and offsets -/

omit [IsStrictOrderedRing F] in
/-- The scales of the four kinds of boxes. Without an extent along an axis the number above all others stands for its
    scale, and is never the one that is taken. -/
theorem scaleFor_cases (roomX roomY : Int) {width height : Exact F outside} (across : 0 ≤ width) (down : 0 ≤ height) :
    (width = 0 ∧ height = 0 ∧ Fit.scaleFor roomX roomY width height = 1) ∨
    (0 < width ∧ height = 0 ∧ Fit.scaleFor roomX roomY width height = roomX / width) ∨
    (width = 0 ∧ 0 < height ∧ Fit.scaleFor roomX roomY width height = roomY / height) ∨
    (0 < width ∧ 0 < height ∧ Fit.scaleFor roomX roomY width height = min (roomX / width) (roomY / height)) := by
  have axis (room : Int) (extent : Exact F outside) :
      Fit.axisScale? room extent = if 0 < extent then some ((room : Exact F outside) / extent) else none := by
    rw [Fit.axisScale?, lt_exact, zero_exact]
    exact if_congr decide_eq_true_iff rfl rfl
  rw [Fit.scaleFor, isZero_exact, isZero_exact, axis, axis, one_exact]
  rcases across.eq_or_lt' with flat | across
  · rcases down.eq_or_lt' with thin | down
    · exact .inl ⟨flat, thin, by simp [flat, thin]⟩
    · refine .inr (.inr (.inl ⟨flat, down, ?_⟩))
      have chosen : Fit.leastScale none (some ((roomY : Exact F outside) / height)) = roomY / height := rfl
      simp [flat, down, down.ne', chosen]
  · rcases down.eq_or_lt' with thin | down
    · refine .inr (.inl ⟨across, thin, ?_⟩)
      have chosen : Fit.leastScale (some ((roomX : Exact F outside) / width)) none = roomX / width := rfl
      simp [thin, across, across.ne', chosen]
    · refine .inr (.inr (.inr ⟨across, down, ?_⟩))
      have chosen : Fit.leastScale (some ((roomX : Exact F outside) / width)) (some ((roomY : Exact F outside) / height)) =
          min (roomX / width) (roomY / height) := min_exact _ _
      simp [across, across.ne', down, chosen]

/-- A scale at which an extent fits into its room and, if there is an extent, takes all of it one way or the other. -/
structure Ample {K : Type} [Field K] [LinearOrder K] (roomX roomY : Int) (width height scale : K) : Prop where
  above : 0 < scale
  across : width * scale ≤ roomX
  down : height * scale ≤ roomY
  all : (width = 0 ∧ height = 0) ∨ width * scale = roomX ∨ height * scale = roomY

theorem scaleFor_ample {roomX roomY : Int} (wide : 0 < roomX) (high : 0 < roomY) {width height : Exact F outside} (across : 0 ≤ width)
    (down : 0 ≤ height) : Ample roomX roomY width height (Fit.scaleFor roomX roomY width height) := by
  have wide : (0 : Exact F outside) < roomX := Int.cast_pos.mpr wide
  have high : (0 : Exact F outside) < roomY := Int.cast_pos.mpr high
  have takes {room extent : Exact F outside} (some_ : 0 < extent) : extent * (room / extent) = room := mul_div_cancel₀ room some_.ne'
  rcases scaleFor_cases roomX roomY across down with
    ⟨flat, thin, scale⟩ | ⟨across, thin, scale⟩ | ⟨flat, down, scale⟩ | ⟨across, down, scale⟩
  · rw [scale, flat, thin]
    exact ⟨zero_lt_one, by simpa using wide.le, by simpa using high.le, .inl ⟨rfl, rfl⟩⟩
  · rw [scale, thin]
    exact ⟨div_pos wide across, (takes across).le, by simpa using high.le, .inr (.inl (takes across))⟩
  · rw [scale, flat]
    exact ⟨div_pos high down, by simpa using wide.le, (takes down).le, .inr (.inr (takes down))⟩
  · rw [scale]
    refine ⟨lt_min (div_pos wide across) (div_pos high down), ?_, ?_, .inr ?_⟩
    · exact (mul_le_mul_of_nonneg_left (min_le_left _ _) across.le).trans_eq (takes across)
    · exact (mul_le_mul_of_nonneg_left (min_le_right _ _) down.le).trans_eq (takes down)
    · rcases min_choice ((roomX : Exact F outside) / width) (roomY / height) with same | same
      · exact .inl (by rw [same, takes across])
      · exact .inr (by rw [same, takes down])

/-- Numbers that keep the padding from both ends of a side and are as far from one as from the other. -/
structure Centred {K : Type} [Field K] [LinearOrder K] (side padding : Int) (low high : K) : Prop where
  start : padding ≤ low
  stop : high ≤ (side - padding : Int)
  margins : low = side - high

/-- The extent from one end of the padded side to the other. -/
def Filled {K : Type} [Field K] (side padding : Int) (low high : K) : Prop := low = padding ∧ high = (side - padding : Int)

theorem offset_centred (side padding : Int) {low high scale : Exact F outside} (fits : (high - low) * scale ≤ (side - 2 * padding : Int)) :
    let offset := Fit.offsetFor padding (side - 2 * padding) low (high - low) scale
    Centred side padding (low * scale + offset) (high * scale + offset) ∧
      ((high - low) * scale = (side - 2 * padding : Int) → Filled side padding (low * scale + offset) (high * scale + offset)) := by
  intro offset
  have shared : offset = padding - low * scale + ((side - 2 * padding : Int) - (high - low) * scale) / 2 :=
    congrArg (padding - low * scale + ·) (half_exact _)
  have inside : ((side - padding : Int) : Exact F outside) = side - padding := Int.cast_sub side padding
  have room : ((side - 2 * padding : Int) : Exact F outside) = side - 2 * padding := by push_cast; rfl
  rw [room] at fits shared ⊢
  -- Both ends lie half of what is left of the room away from the padding.
  have start : low * scale + offset = padding + (side - 2 * padding - (high - low) * scale) / 2 := by rw [shared]; ring
  have stop : high * scale + offset = side - padding - (side - 2 * padding - (high - low) * scale) / 2 := by rw [shared]; ring
  rw [start, stop]
  generalize (high - low) * scale = extent at fits ⊢
  refine ⟨⟨by linarith, by rw [inside]; linarith, by ring⟩, fun all => ⟨by rw [all]; ring, by rw [inside, all]; ring⟩⟩

/-- A box in the middle of a frame, within the padding. -/
structure Framed {K : Type} [Field K] [LinearOrder K] (frame : Frame) (padding : Int) (b : Bounds K) : Prop where
  across : Centred frame.width padding b.minX b.maxX
  down : Centred frame.height padding b.minY b.maxY

/-- Points that are all one. -/
def Coincide {K : Type} (points : List (Point K)) : Prop := ∀ p ∈ points, ∀ q ∈ points, p = q

omit [Field F] [FloorRing F] [IsStrictOrderedRing F] in
theorem around_le {b : Bounds (Exact F outside)} {points : List (Point (Exact F outside))} (h : Around b points) :
    b.minX ≤ b.maxX ∧ b.minY ≤ b.maxY :=
  ⟨(h.across.holds _ h.across.lowest).2, (h.down.holds _ h.down.lowest).2⟩

omit [IsStrictOrderedRing F] in
theorem around_coincide {b : Bounds (Exact F outside)} {points : List (Point (Exact F outside))} (h : Around b points) :
    Coincide points ↔ b.maxX - b.minX = 0 ∧ b.maxY - b.minY = 0 := by
  constructor
  · intro one
    obtain ⟨p, first, left⟩ := List.mem_map.mp h.across.lowest
    obtain ⟨q, second, right⟩ := List.mem_map.mp h.across.highest
    obtain ⟨u, third, top⟩ := List.mem_map.mp h.down.lowest
    obtain ⟨v, fourth, bottom⟩ := List.mem_map.mp h.down.highest
    rw [← left, ← right, ← top, ← bottom, one p first q second, one u third v fourth]
    exact ⟨sub_self _, sub_self _⟩
  · rintro ⟨flat, thin⟩
    have only : ∀ p ∈ points, p = ⟨b.minX, b.minY⟩ := by
      intro p member
      have across := h.across.holds p.x (List.mem_map_of_mem member)
      have down := h.down.holds p.y (List.mem_map_of_mem member)
      rw [sub_eq_zero.mp flat] at across
      rw [sub_eq_zero.mp thin] at down
      exact congrArg₂ Point.mk (le_antisymm across.2 across.1) (le_antisymm down.2 down.1)
    intro p first q second
    rw [only p first, only q second]

/-- What the fit of a box makes of it where there is room within the padding. -/
theorem ofBounds_framed {frame : Frame} {padding : Int} (wide : 2 * padding < frame.width) (high : 2 * padding < frame.height)
    {b : Bounds (Exact F outside)} {points : List (Point (Exact F outside))} (around : Around b points) :
    0 < (Fit.ofBounds frame padding b).scale ∧ Framed frame padding ((Fit.ofBounds frame padding b).box b) ∧
      (Coincide points ∨
        Filled frame.width padding ((Fit.ofBounds frame padding b).box b).minX ((Fit.ofBounds frame padding b).box b).maxX ∨
        Filled frame.height padding ((Fit.ofBounds frame padding b).box b).minY ((Fit.ofBounds frame padding b).box b).maxY) := by
  have ample : Ample (frame.width - 2 * padding) (frame.height - 2 * padding) (b.maxX - b.minX) (b.maxY - b.minY)
      (Fit.ofBounds frame padding b).scale :=
    scaleFor_ample (by omega) (by omega) (sub_nonneg.mpr (around_le around).1) (sub_nonneg.mpr (around_le around).2)
  have across := offset_centred frame.width padding ample.across
  have down := offset_centred frame.height padding ample.down
  refine ⟨ample.above, ⟨across.1, down.1⟩, ?_⟩
  rcases ample.all with none_ | all | all
  · exact .inl ((around_coincide around).mpr none_)
  · exact .inr (.inl (across.2 all))
  · exact .inr (.inr (down.2 all))

/-! ### Main statements -/

section
omit [IsStrictOrderedRing F]

theorem fit_ofSteps {steps : List (Step (Exact F outside))} (some_ : steps ≠ []) (frame : Frame) (padding : Int) :
    ∃ b, Around b (spans steps) ∧ Fit.ofSteps (steps.map Step.record) frame padding true = .ok (Fit.ofBounds frame padding b) := by
  obtain ⟨b, boxed, around⟩ := ofPoints_around (spans_ne_nil some_)
  refine ⟨b, around, ?_⟩
  rw [Fit.ofSteps, bounds_record, ← spans, boxed]
  rfl

theorem picture_calls {steps : List (Step (Exact F outside))} (some_ : steps ≠ []) {frame : Frame} {padding : Int}
    {f : Fit (Exact F outside)} (fitted : Fit.ofSteps (steps.map Step.record) frame padding true = .ok f) {background : Option Text}
    {picture : Picture (Exact F outside)} : Picture.ofSteps (steps.map Step.record) frame padding background true = .ok picture ↔
      ∃ (blank : Picture (Exact F outside)) (calls : _), Picture.blank frame background = .ok blank ∧ Picture.callsOf f (steps.map Step.record) = .ok calls ∧
        picture = { blank with calls := some calls } := by
  have some_ : (steps.map Step.record).isEmpty = false := by simpa using some_
  rw [Picture.ofSteps, bind_ok]
  refine exists_congr fun blank => ?_
  rw [some_, fitted]
  constructor
  · rintro ⟨empty, drawn⟩
    obtain ⟨f, same, drawn⟩ := bind_ok.mp drawn
    cases same
    obtain ⟨calls, drew, drawn⟩ := bind_ok.mp drawn
    exact ⟨calls, empty, drew, (Except.ok.inj drawn).symm⟩
  · rintro ⟨calls, empty, drew, rfl⟩
    exact ⟨empty, bind_ok.mpr ⟨f, rfl, bind_ok.mpr ⟨calls, drew, rfl⟩⟩⟩

end

/-- Steps that are drawn in a frame with a box around them: as steps on a canvas, which are found, and by the calls of
    a picture, which is found where there are a blank one and fills. -/
structure DrawnWithin (b : Bounds (Exact F outside)) (steps : List (Step (Exact F outside))) (frame : Frame) (padding : Int) : Prop where
  canvas : ∃ entries, CanvasStep.ofSteps steps frame padding = .ok entries ∧ entries.length = steps.length ∧
    Around b (spans (entries.map (·.step))) ∧ ∀ (s : Derivation) (o : TraceOptions (Exact F outside)) (trace : Trace (Exact F outside)),
      (s.trace o).2 = .ok trace → Recorder.steps trace.primitives.toList = .ok steps → (s.drawingSteps o frame padding).2 = .ok entries
  calls : ∀ background picture, Picture.ofSteps (steps.map Step.record) frame padding background true = .ok picture →
    ∃ calls, picture.calls = some calls ∧ calls.length = steps.length ∧ Around b (calls.flatMap Picture.Call.span)
  picture : ∀ (background : Option Text) (blank : Picture (Exact F outside)), Picture.blank frame background = .ok blank →
    (∀ s ∈ steps, ∃ fill, Picture.fill s.colour s.opacity = .ok fill) →
    ∃ picture, Picture.ofSteps (steps.map Step.record) frame padding background true = .ok picture

/-- In exact arithmetic, steps that are brought into a frame with room within its padding are drawn, on a canvas and
    on a picture, in one box around all of them: it keeps the padding, lies in the middle of the frame and, unless all
    that the steps touch is one point, takes the whole padded width or height. -/
theorem drawings_fitted {steps : List (Step (Exact F outside))} {frame : Frame} {padding : Int} (some_ : steps ≠ [])
    (wide : 2 * padding < frame.width) (high : 2 * padding < frame.height) :
    ∃ b : Bounds (Exact F outside), DrawnWithin b steps frame padding ∧ Framed frame padding b ∧
      (Coincide (spans steps) ∨ Filled frame.width padding b.minX b.maxX ∨ Filled frame.height padding b.minY b.maxY) := by
  obtain ⟨b, around, fitted⟩ := fit_ofSteps some_ frame padding
  obtain ⟨above, framed, filled⟩ := ofBounds_framed wide high around
  have moved := around_apply around above.le
  refine ⟨_, ⟨?_, ?_, ?_⟩, framed, filled⟩
  · obtain ⟨entries, placed, count, span⟩ := canvas_spans above.le steps
    have brought : CanvasStep.ofSteps steps frame padding = .ok entries := bind_ok.mpr ⟨_, fitted, placed⟩
    refine ⟨entries, brought, count, span ▸ moved, fun s o trace traced resolved => ?_⟩
    rw [Derivation.drawingSteps]
    dsimp only
    rw [traced]
    exact bind_ok.mpr ⟨trace, rfl, bind_ok.mpr ⟨steps, resolved, brought⟩⟩
  · intro background picture drawn
    obtain ⟨blank, calls, _, drew, rfl⟩ := (picture_calls some_ fitted).mp drawn
    obtain ⟨count, span⟩ := calls_spans drew
    exact ⟨calls, rfl, count, span ▸ moved⟩
  · intro background blank empty fills
    obtain ⟨calls, drew⟩ := calls_drawn fills
    exact ⟨_, (picture_calls some_ fitted).mpr ⟨blank, calls, empty, drew, rfl⟩⟩

/-- A line along an axis, and a circle and a rectangle whose sizes have signs. -/
def signed : List (Step (Exact ℚ axes)) :=
  [⟨.line ⟨0, 0⟩ ⟨(30 : ℚ), 0⟩ 1, Text.ofString "#ffffff", 1⟩, ⟨.circle ⟨(10 : ℚ), (4 : ℚ)⟩ (-5 : ℚ), Text.ofString "#ffffff", 1⟩,
    ⟨.rectangle ⟨(-2 : ℚ), 1⟩ (-6 : ℚ) (3 : ℚ), Text.ofString "#ffffff", 1⟩]

theorem signed_framed :
    let frame := Canvas.usualFrame
    let padding := Canvas.usualPadding
    signed ≠ [] ∧ 2 * padding < frame.width ∧ 2 * padding < frame.height ∧ ∃ b, DrawnWithin b signed frame padding ∧
      Framed frame padding b ∧ (Filled frame.width padding b.minX b.maxX ∨ Filled frame.height padding b.minY b.maxY) := by
  intro frame padding
  have wide : 2 * padding < frame.width := by decide
  have high : 2 * padding < frame.height := by decide
  have some_ : signed ≠ [] := List.cons_ne_nil _ _
  obtain ⟨b, drawn, framed, filled⟩ := drawings_fitted some_ wide high
  refine ⟨some_, wide, high, b, drawn, framed, filled.resolve_left fun one => ?_⟩
  have same : (⟨0, 0⟩ : Point (Exact ℚ axes)) = ⟨30, 0⟩ := one _ (by decide +kernel) _ (by decide +kernel)
  exact absurd same (by decide +kernel)

end Fitting
end Lindenmayer
