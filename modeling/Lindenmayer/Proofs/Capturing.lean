import Lindenmayer.Proofs.Outcomes
import Lindenmayer.Proofs.Streaming

/-!
One animation and the capture that it is handed to, frame by frame. When all steps can be drawn, the frames
are the canvases after each of them and the whole canvas once more (`sketches`), however far the animation is
taken (`run_follows`). The capture has then been offered the first of them, or all but the final one and is
finished by that (`follow`). So it shows nothing before the final frame came, and from then on the frames that
it keeps of all (`stream_captured`).
-/
namespace Lindenmayer.Capturing
open Outcomes

variable {K F : Type} [Scalar K]

/-- The canvases after each step. -/
def sketches (canvas : Canvas) : List (StepRecord K) → Except Failure (List Canvas)
  | [] => .ok []
  | step :: rest => do
    let next ← canvas.draw step
    return next :: (← sketches next rest)

theorem sketches_drawn {canvas full : Canvas} {steps : List (StepRecord K)} (drew : steps.foldlM Canvas.draw canvas = .ok full) :
    ∃ canvases, sketches canvas steps = .ok canvases ∧ canvases.length = steps.length := by
  induction steps generalizing canvas with
  | nil => exact ⟨[], rfl, rfl⟩
  | cons step rest ih =>
    rw [List.foldlM_cons] at drew
    obtain ⟨next, drawn, later⟩ := bind_ok.mp drew
    obtain ⟨canvases, sketched, long⟩ := ih later
    exact ⟨next :: canvases, bind_ok.mpr ⟨next, drawn, bind_ok.mpr ⟨canvases, sketched, rfl⟩⟩, congrArg (· + 1) long⟩

/-- A canvas has just the steps up to its own. -/
theorem sketches_take {canvas : Canvas} {steps : List (StepRecord K)} {canvases : List Canvas}
    (sketched : sketches canvas steps = .ok canvases) {i : Nat} {next : Canvas} (at_i : canvases[i]? = some next) :
    (steps.take (i + 1)).foldlM Canvas.draw canvas = .ok next := by
  induction steps generalizing canvas canvases i with
  | nil =>
    cases sketched
    cases at_i
  | cons step rest ih =>
    obtain ⟨first, drawn, sketched⟩ := bind_ok.mp sketched
    obtain ⟨others, later, sketched⟩ := bind_ok.mp sketched
    cases sketched
    rw [List.take_succ_cons, List.foldlM_cons]
    refine bind_ok.mpr ⟨first, drawn, ?_⟩
    cases i with
    | zero =>
      cases at_i
      rfl
    | succ i => exact ih later at_i

/-! ### Frames one after the other -/

/-- A capture after the first so many frames, when the final one comes after some others. -/
def follow (final : F) (c : Capture F) : (shots : List F) → (frames : Nat) → Capture F
  | _, 0 => c
  | [], _ + 1 => c.finish final
  | shot :: rest, n + 1 => follow final (c.offer shot).1 rest n

/-- Encoding that succeeds and looks at nothing but the canvas. -/
def plainly (jpeg : Canvas → F) : Encoder F := fun _ canvas => some (jpeg canvas)

theorem next_offers (jpeg : Canvas → F) {a : Animation K F} {canvas next : Canvas} {step : StepRecord K} {rest : List (StepRecord K)}
    (opened : a.closed = false) (made : a.currentCanvas = .ok canvas) (steps : a.rest = step :: rest)
    (drawn : canvas.draw step = .ok next) : a.next (plainly jpeg) =
      ({ a with canvas := some next, rest, encoded := a.encoded + 1, capture := a.capture.map fun c => (c.offer (jpeg next)).1 },
        .frame (jpeg next)) := by
  rw [Animation.next, made]
  simp only [opened, steps, drawn, Animation.encode, plainly, Bool.false_eq_true, ↓reduceIte]

theorem next_finishes (jpeg : Canvas → F) {a : Animation K F} {canvas : Canvas} (opened : a.closed = false)
    (made : a.currentCanvas = .ok canvas) (steps : a.rest = []) : a.next (plainly jpeg) =
      ({ a with canvas := some canvas, rest := [], encoded := a.encoded + 1, capture := a.capture.map (·.finish (jpeg canvas)),
                closed := true }, .frame (jpeg canvas)) := by
  rw [Animation.next, made]
  simp only [opened, steps, Animation.encode, Animation.close, plainly, Bool.false_eq_true, ↓reduceIte]

theorem run_closed (encoder : Encoder F) (n : Nat) (found : Array F) {a : Animation K F} (closed : a.closed = true) :
    a.run encoder n found = (a, found, none) := by
  cases n with
  | zero => rfl
  | succ n => rw [Animation.run, Streaming.next_closed closed]

theorem run_follows (jpeg : Canvas → F) (n : Nat) (found : Array F) {a : Animation K F} {c : Capture F} {canvas full : Canvas}
    {canvases : List Canvas} (opened : a.closed = false) (standing : a.capture = some c) (made : a.currentCanvas = .ok canvas)
    (sketched : sketches canvas a.rest = .ok canvases) (drew : a.rest.foldlM Canvas.draw canvas = .ok full) :
    ∃ b, a.run (plainly jpeg) n found = (b, found ++ ((canvases.map jpeg ++ [jpeg full]).take n).toArray, none) ∧
      b.capture = some (follow (jpeg full) c (canvases.map jpeg) n) := by
  -- By the frames that are taken: each is that of the first step to go, or the final one.
  induction n generalizing a c canvas canvases found with
  | zero => exact ⟨a, by simp [Animation.run], by rw [standing, follow]⟩
  | succ n ih =>
    rw [Animation.run]
    cases steps : a.rest with
    | nil =>
      rw [steps] at sketched drew
      cases sketched
      cases drew
      rw [next_finishes jpeg opened made steps]
      dsimp only
      rw [run_closed _ _ _ rfl, standing]
      exact ⟨_, Prod.ext rfl (by simp), rfl⟩
    | cons step rest =>
      rw [steps] at sketched drew
      obtain ⟨next, drawn, sketched⟩ := bind_ok.mp sketched
      obtain ⟨others, later, sketched⟩ := bind_ok.mp sketched
      cases sketched
      rw [List.foldlM_cons, drawn] at drew
      rw [next_offers jpeg opened made steps drawn]
      obtain ⟨b, ran, captured⟩ := ih (found.push (jpeg next)) (a := { a with
        canvas := some next, rest, encoded := a.encoded + 1, capture := a.capture.map fun c => (c.offer (jpeg next)).1 })
        opened (by rw [standing]; rfl) rfl later drew
      refine ⟨b, ran.trans ?_, captured⟩
      simp

/-! ### Frames that are kept -/

/-- The frames whose index is a multiple of a number. -/
def thinned (every : Nat) (frames : List F) : List F := (frames.zipIdx.filter fun frame => every ∣ frame.2).map Prod.fst

theorem thinned_concat (every : Nat) (frames : List F) (frame : F) :
    thinned every (frames ++ [frame]) = thinned every frames ++ if every ∣ frames.length then [frame] else [] := by
  rw [thinned, List.zipIdx_append, List.filter_append, List.map_append, ← thinned]
  by_cases kept : every ∣ frames.length
  · simp [kept]
  · simp [kept]

/-- A capture that was just begun, after frames that are not final. -/
def holding (c : Capture F) (label : Option Value) (frames : List F) : Capture F :=
  { every := c.every, label, frames := (thinned c.every frames).toArray, offered := frames.length, finished := false }

theorem offer_holding (c : Capture F) (label : Option Value) (frames : List F) (frame : F) :
    ((holding c label frames).offer frame).1 = holding c label (frames ++ [frame]) := by
  simp only [holding, Capture.offer, Capture.keepsNext, thinned_concat, List.length_append, List.length_singleton, beq_iff_eq,
    Nat.dvd_iff_mod_eq_zero]
  by_cases kept : frames.length % c.every = 0
  · simp [kept]
  · simp [kept]

theorem follow_holding (final : F) (c : Capture F) (label : Option Value) (given shots : List F) (n : Nat) :
    follow final (holding c label given) shots n = if n ≤ shots.length then holding c label (given ++ shots.take n)
      else (holding c label (given ++ shots)).finish final := by
  induction n generalizing given shots with
  | zero => simp [follow]
  | succ n ih =>
    cases shots with
    | nil => simp [follow]
    | cons shot rest =>
      rw [follow, offer_holding, ih]
      simp

/-- What a snapshot shows of a label that is an object or nothing: nothing also where it has no fields. -/
def labelled : Option (List (Text × Value)) → Option Value
  | none | some [] => none
  | some fields => some (.object fields)

theorem start_holding (c : Capture F) (label : Option (List (Text × Value))) :
    c.start ((label.map .object).getD .null) = .ok (holding c (labelled label) []) := by
  cases label with
  | none => rfl
  | some fields =>
    cases fields with
    | nil => rfl
    | cons => rfl

/-! ### Main statements -/

/-- An animation that was started with a capture just begun, however far it is taken. -/
structure Captures (every : Nat) (shown : Option Value) (jpeg : Canvas → F) (blank full : Canvas) (steps : List (StepRecord K))
    (shots : List F) (started : Animation K F) : Prop where
  long : shots.length = steps.length
  /-- A frame is of the canvas with all steps up to its own. -/
  each : ∀ i < steps.length, ∃ canvas, (steps.take (i + 1)).foldlM Canvas.draw blank = .ok canvas ∧ shots[i]? = some (jpeg canvas)
  /-- The frames of all steps and the final one come, and nothing after them. -/
  comes : ∀ n, (started.run (plainly jpeg) n #[]).2 = (((shots ++ [jpeg full]).take n).toArray, none)
  shows : ∀ n, ∃ c, (started.run (plainly jpeg) n #[]).1.capture = some c ∧
    c.snapshot = if n ≤ steps.length then none else some ⟨shown, thinned every shots ++ [jpeg full], steps.length⟩

/-- Whatever a capture holds, once it is begun anew and handed to an animation whose steps can all be drawn,
    there is a frame of the canvas after each step and one more of the whole canvas; and the capture shows
    nothing until the last has come, and then just every so many-th of the frames before it, and itself. -/
theorem stream_captured (c : Capture F) (label : Option (List (Text × Value))) (jpeg : Canvas → F) {frame : Frame}
    {background : Colour} {blank full : Canvas} {steps : List (StepRecord K)} (made : Canvas.blank frame background = .ok blank)
    (drew : steps.foldlM Canvas.draw blank = .ok full) :
    ∃ begun shots, c.start ((label.map .object).getD .null) = .ok begun ∧
      Captures c.every (labelled label) jpeg blank full steps shots (.start frame background steps (some begun)) := by
  obtain ⟨canvases, sketched, long⟩ := sketches_drawn drew
  have shots : (canvases.map jpeg).length = steps.length := by rw [List.length_map, long]
  have run (n : Nat) := run_follows jpeg n #[] (a := .start frame background steps (some (holding c (labelled label) []))) rfl rfl
    made sketched drew
  refine ⟨_, canvases.map jpeg, start_holding c label, shots, fun i inside => ?_, fun n => ?_, fun n => ?_⟩
  · have at_i : canvases[i]? = some canvases[i] := List.getElem?_eq_getElem (long ▸ inside)
    refine ⟨_, sketches_take sketched at_i, ?_⟩
    rw [List.getElem?_map, at_i]
    rfl
  · obtain ⟨b, ran, _⟩ := run n
    rw [ran]
    simp
  · obtain ⟨b, ran, captured⟩ := run n
    refine ⟨_, (congrArg (Animation.capture ∘ Prod.fst) ran).trans captured, ?_⟩
    rw [follow_holding, shots]
    by_cases early : n ≤ steps.length
    · simp [early, Capture.snapshot, holding]
    · simp [early, Capture.snapshot, Capture.finish, holding, long]

def rings : List (StepRecord Float) :=
  [1.0, 2.0, 3.0].map fun radius =>
    { StepRecord.empty with
      type := some (Text.ofString "circle"), x := some 4.0, y := some 4.0, radius := some radius, colour := some (Text.ofString "red") }

/-- The rings in a capture of every other frame that was left finished by another render. -/
theorem rings_captured :
    let circle (radius : Int) : Canvas.Call := .circle ⟨4, 4⟩ radius ⟨255, 0, 0⟩
    let full : Canvas := ⟨⟨8, 8⟩, ⟨0, 0, 0⟩, [circle 3, circle 2, circle 1]⟩
    let former : Capture Canvas := { every := 2, label := none, frames := #[full], offered := 1, finished := true }
    Canvas.blank ⟨8, 8⟩ ⟨0, 0, 0⟩ = .ok ⟨⟨8, 8⟩, ⟨0, 0, 0⟩, []⟩ ∧ rings.foldlM Canvas.draw ⟨⟨8, 8⟩, ⟨0, 0, 0⟩, []⟩ = .ok full ∧
      ∃ begun shots, former.start (.object [(Text.ofString "preset", .int 1)]) = .ok begun ∧
        Captures 2 (some (.object [(Text.ofString "preset", .int 1)])) id ⟨⟨8, 8⟩, ⟨0, 0, 0⟩, []⟩ full rings shots
          (.start ⟨8, 8⟩ ⟨0, 0, 0⟩ rings (some begun)) := by
  intro circle full former
  have made : Canvas.blank ⟨8, 8⟩ ⟨0, 0, 0⟩ = .ok ⟨⟨8, 8⟩, ⟨0, 0, 0⟩, []⟩ := rfl
  have drew : rings.foldlM Canvas.draw ⟨⟨8, 8⟩, ⟨0, 0, 0⟩, []⟩ = .ok full := toOption_ok.mp (by decide +kernel)
  exact ⟨made, drew, stream_captured former (some [(Text.ofString "preset", .int 1)]) id made drew⟩

end Lindenmayer.Capturing
