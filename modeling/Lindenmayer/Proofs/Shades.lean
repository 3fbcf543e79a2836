import Lindenmayer.Proofs.Pens

/-!
The colours of finite pens, from the text that a pen is written as to what draws. A pen that has a text has that of three
bytes, which is read back as them wherever it is drawn, and it depends on the saturation and the brightness as they are in
the unit interval and on the hue up to whole turns (`pens_spelled`). The one pen left out is that of a saturation or a
brightness that is the zero below zero, although it is in the unit interval (`grey_unspelled`).
-/
namespace Lindenmayer.Shades
open Doubles Halves Turns Hashes Reading Replaying Pens Outcomes

/-- A pen of finite numbers. -/
structure Finite (p : Pen.Hsv Float) : Prop where
  hue : p.hue.isFinite = true
  saturation : p.saturation.isFinite = true
  brightness : p.brightness.isFinite = true

/-- A pen without the zero below zero where a number is brought into the unit interval. -/
structure Unsigned (p : Pen.Hsv Float) : Prop where
  saturation : p.saturation ≠ -0.0
  brightness : p.brightness ≠ -0.0

/-- Pens with hues that differ by whole turns, and with one saturation and one brightness in the unit interval. -/
structure Alike (p q : Pen.Hsv Float) : Prop where
  hue : ∃ turns : Int, value q.hue = value p.hue + 360 * turns
  saturation : min (max (value p.saturation) 0) 1 = min (max (value q.saturation) 0) 1
  brightness : min (max (value p.brightness) 0) 1 = min (max (value q.brightness) 0) 1

/-- The text of a pen's colour. -/
def penText (p : Pen.Hsv Float) : Except Failure Text := Pen.colourText p.hue p.saturation p.brightness

/-- A text that is read as three bytes, and that with any finite opacity fills with four. -/
structure Reads (text : Text) (c : Colour) : Prop where
  bytes : Bytes c
  read : Colour.ofText Float text = .ok c
  fill : ∀ opacity : Float, opacity.isFinite = true → ∃ alpha, Picture.fill text opacity = .ok ⟨c, alpha⟩ ∧ 0 ≤ alpha ∧ alpha ≤ 255

/-! ### What a text depends on -/

section
variable {x y : Float}

theorem hsvText_congr {K : Type} [Scalar K] {h h' s s' b b' : K}
    (hue : Scalar.fixed 3 (Scalar.floorMod h (Scalar.ofInt 360)) = Scalar.fixed 3 (Scalar.floorMod h' (Scalar.ofInt 360)))
    (saturation : Scalar.fixed 3 (Scalar.clampUnit s * Scalar.ofInt 100) = Scalar.fixed 3 (Scalar.clampUnit s' * Scalar.ofInt 100))
    (brightness : Scalar.fixed 3 (Scalar.clampUnit b * Scalar.ofInt 100) = Scalar.fixed 3 (Scalar.clampUnit b' * Scalar.ofInt 100)) :
    Pen.hsvText h s b = Pen.hsvText h' s' b' := by
  unfold Pen.hsvText
  rw [hue]
  dsimp only
  rw [saturation, brightness]

theorem fixed_congr (places : Nat) (same : unpacked x = unpacked y) : Scalar.fixed places x = Scalar.fixed places y := by
  change Decimal.fixedBinary places (Binary.ofFloat x) = Decimal.fixedBinary places (Binary.ofFloat y)
  rw [ofFloat_unpacked, ofFloat_unpacked, same]

theorem percent_congr (finite : x.isFinite = true) (finite' : y.isFinite = true) (sign : x ≠ -0.0) (sign' : y ≠ -0.0)
    (same : min (max (value x) 0) 1 = min (max (value y) 0) 1) :
    Scalar.fixed 3 (Scalar.clampUnit x * Scalar.ofInt 100) = Scalar.fixed 3 (Scalar.clampUnit y * Scalar.ofInt 100) := by
  refine fixed_congr 3 ?_
  change (Float.Model.pack (Float.Model.UnpackedFloat.mul .binary64 (unpacked (Scalar.clampUnit x)) _)).unpack =
    (Float.Model.pack (Float.Model.UnpackedFloat.mul .binary64 (unpacked (Scalar.clampUnit y)) _)).unpack
  rw [clampUnit_congr finite finite' sign sign' same]

end

/-- Pens that are alike have one text. -/
theorem penText_congr {p q : Pen.Hsv Float} (finite : Finite p) (finite' : Finite q) (sign : Unsigned p) (sign' : Unsigned q) (alike : Alike p q) :
    penText p = penText q := by
  obtain ⟨turns, turned⟩ := alike.hue
  have same : unpacked (Double.floorMod q.hue (Scalar.ofInt 360)) = unpacked (Double.floorMod p.hue (Scalar.ofInt 360)) :=
    floorMod_congr finite.hue finite'.hue turn_counts (by decide) (by exact_mod_cast turned)
  have hue : Scalar.fixed 3 (Scalar.floorMod q.hue (Scalar.ofInt 360)) = Scalar.fixed 3 (Scalar.floorMod p.hue (Scalar.ofInt 360)) :=
    fixed_congr 3 same
  have saturation := percent_congr finite.saturation finite'.saturation sign.saturation sign'.saturation alike.saturation
  have brightness := percent_congr finite.brightness finite'.brightness sign.brightness sign'.brightness alike.brightness
  rw [penText, penText, Pen.colourText, Pen.colourText, hsvText_congr hue.symm saturation brightness]

/-! ### Fills -/

/-- The alpha channel of a finite opacity is a byte; here the zero below zero does no harm. -/
theorem alpha_byte {opacity : Float} (finite : opacity.isFinite = true) :
    ∃ alpha, Scalar.round (Scalar.clampUnit opacity * Scalar.ofInt 255) = .ok alpha ∧ 0 ≤ alpha ∧ alpha ≤ 255 := by
  -- The bounds are for numbers without a sign, which the zero below zero keeps in the unit interval.
  by_cases sign : opacity = -0.0
  · have zero : Binary.ofFloat (Scalar.clampUnit (-0.0 : Float) * Scalar.ofInt 255) = .finite true 0 (-1074) := by decide +kernel
    refine ⟨Decimal.nearest true 0 (-1074), ?_, ?_⟩
    · rw [sign]
      change Double.round _ = _
      rw [Double.round, zero]
    · have none_ : Decimal.nearest true 0 (-1074) = 0 := by decide +kernel
      omega
  · have upTo : UpTo (2 * 255) (Scalar.clampUnit opacity * Scalar.ofInt 255) :=
      (clampUnit_upTo finite sign).mul (counts_ofInt 255 (by decide)).upTo (by decide) (by decide)
    obtain ⟨alpha, rounded, most⟩ := upTo.rounded
    exact ⟨alpha, rounded, by omega, by omega⟩

theorem hashText_reads {c : Colour} (bytes : Bytes c) : Reads (Pen.hashText c) c := by
  have read := hashText_read Float bytes
  refine ⟨bytes, read, fun opacity finite => ?_⟩
  obtain ⟨alpha, rounded, range⟩ := alpha_byte finite
  refine ⟨alpha, ?_, range⟩
  exact bind_ok.mpr ⟨c, read, bind_ok.mpr ⟨alpha, rounded, rfl⟩⟩

/-! ### Main statement -/

/-- What is written for a finite pen is the spelling of a colour of three bytes. -/
theorem penText_bytes {p : Pen.Hsv Float} {text : Text} (finite : Finite p) (written : penText p = .ok text) :
    ∃ c, Bytes c ∧ text = Pen.hashText c := by
  have signs := (colourText_exact finite.hue finite.saturation finite.brightness).mp ⟨text, written⟩
  obtain ⟨c, exact_, bytes⟩ := colourText_bytes finite.hue finite.saturation finite.brightness signs
  exact ⟨c, bytes, Except.ok.inj (written.symm.trans exact_)⟩

/-- A finite pen has a text, unless its saturation or its brightness is the zero below zero: a hash and six digits in
    lower case, which are read as three bytes. The text depends on the hue up to whole turns, and on the others by what
    they are in the unit interval. So the steps of finite colours are read as bytes, whatever draws them. -/
theorem pens_spelled {p : Pen.Hsv Float} (finite : Finite p) {primitives : List (Primitive Float)} (colours : FiniteColours primitives) :
    (((∃ text, penText p = .ok text) ↔ Unsigned p) ∧
      (∀ text, penText p = .ok text → (∃ digits, digits.length = 6 ∧ text = hashSpelled digits) ∧ ∃ c, Reads text c) ∧
      ∀ q, Finite q → Unsigned p → Unsigned q → Alike p q → penText p = penText q) ∧
    ((∃ steps, Recorder.steps primitives = .ok steps) ↔ UnsignedColours primitives) ∧
      ∀ steps, Recorder.steps primitives = .ok steps → ∀ s ∈ steps, ∃ c, Reads s.colour c := by
  constructor
  · refine ⟨?_, fun text written => ?_, fun q finite' sign sign' alike => penText_congr finite finite' sign sign' alike⟩
    · have signs := colourText_exact finite.hue finite.saturation finite.brightness
      exact ⟨fun written => ⟨(signs.mp written).1, (signs.mp written).2⟩, fun sign => signs.mpr ⟨sign.saturation, sign.brightness⟩⟩
    · obtain ⟨c, bytes, rfl⟩ := penText_bytes finite written
      obtain ⟨a, b, d, e, f, g, spelled, -⟩ := hashText_digits bytes
      exact ⟨⟨[a, b, d, e, f, g], rfl, spelled⟩, c, hashText_reads bytes⟩
  · refine ⟨(steps_coloured _).trans (coloured_exact colours), fun steps resolved s member => ?_⟩
    obtain ⟨last, replayed⟩ := steps_replay.mp resolved
    rcases replay_colours replayed s member with white | ⟨hue, saturation, brightness, opacity, set_, written⟩
    · have spelled : (Recorder.initial : Recorder Float).colour = Pen.hashText ⟨255, 255, 255⟩ := by decide
      rw [white]
      exact ⟨_, spelled ▸ hashText_reads ⟨by decide, by decide, by decide⟩⟩
    · obtain ⟨first, second, third⟩ := colours _ _ _ _ set_
      obtain ⟨c, bytes, same⟩ := penText_bytes (p := ⟨hue, saturation, brightness⟩) ⟨first, second, third⟩ written
      exact ⟨c, same ▸ hashText_reads bytes⟩

/-- A line before a pen is set, and a circle of a pen whose saturation is too large. -/
def lineAndCircle : List (Primitive Float) := [.lineTo 1.0 0.0, .setPenColour 204.0 7.5 0.8 0.9, .circle 3.0 4.0 5.0]

/-- Hues a turn apart, and saturations that are too large or one. -/
theorem blue_spelled :
    let p : Pen.Hsv Float := ⟨204.0, 7.5, 0.8⟩
    let q : Pen.Hsv Float := ⟨-156.0, 1.0, 0.8⟩
    Finite p ∧ Unsigned p ∧ Alike p q ∧ penText p = penText q ∧ (∃ text c, penText q = .ok text ∧ Reads text c) ∧
      ∃ steps, Recorder.steps lineAndCircle = .ok steps ∧ ∀ s ∈ steps, ∃ c, Reads s.colour c := by
  intro p q
  have finite : Finite p := ⟨by decide +kernel, by decide +kernel, by decide +kernel⟩
  have finite' : Finite q := ⟨by decide +kernel, by decide +kernel, by decide +kernel⟩
  have sign : Unsigned p := ⟨by decide +kernel, by decide +kernel⟩
  have sign' : Unsigned q := ⟨by decide +kernel, by decide +kernel⟩
  have alike : Alike p q := ⟨⟨-1, by decide +kernel⟩, by decide +kernel, by decide +kernel⟩
  have only {h s b o : Float} (member : .setPenColour h s b o ∈ lineAndCircle) : h = 204.0 ∧ s = 7.5 ∧ b = 0.8 := by
    simp only [lineAndCircle, List.mem_cons, List.not_mem_nil, reduceCtorEq, Primitive.setPenColour.injEq, false_or, or_false] at member
    exact ⟨member.1, member.2.1, member.2.2.1⟩
  have colours : FiniteColours lineAndCircle := fun h s b o member => by
    obtain ⟨rfl, rfl, rfl⟩ := only member
    exact ⟨finite.hue, finite.saturation, finite.brightness⟩
  obtain ⟨⟨-, -, turned⟩, exact_, drawn⟩ := pens_spelled finite colours
  obtain ⟨⟨spelled, told, -⟩, -⟩ := pens_spelled finite' colours
  obtain ⟨text, written⟩ := spelled.mpr sign'
  obtain ⟨-, c, reads⟩ := told text written
  obtain ⟨steps, resolved⟩ := exact_.mpr fun h s b o member => by
    obtain ⟨rfl, rfl, rfl⟩ := only member
    exact ⟨sign.saturation, sign.brightness⟩
  exact ⟨finite, sign, alike, turned q finite' sign sign' alike, ⟨text, c, written, reads⟩, steps, resolved, drawn steps resolved⟩

/-! ### A zero below zero -/

/-- A finite pen whose saturation is zero has no text if that zero is below zero, and is grey if it is not. -/
theorem grey_unspelled : Finite ⟨204.0, -0.0, 0.8⟩ ∧ (¬ ∃ text, penText ⟨204.0, -0.0, 0.8⟩ = .ok text) ∧
    (penText ⟨204.0, 0.0, 0.8⟩).toOption = some (Text.ofString "#cccccc") := by
  have finite : Finite ⟨204.0, -0.0, 0.8⟩ := ⟨by decide +kernel, by decide +kernel, by decide +kernel⟩
  refine ⟨finite, fun written => ?_, by decide +kernel⟩
  exact ((colourText_exact finite.hue finite.saturation finite.brightness).mp written).1 rfl

end Lindenmayer.Shades
