import Lindenmayer.Proofs.Hashes
import Lindenmayer.Proofs.Replaying
import Lindenmayer.Proofs.Spellings
import Lindenmayer.Proofs.Turns

/-!
Which pens have a colour. The numbers that a finite pen is written with are at most a turn and at most a hundred
per cent (`hsvText_finite`), and what is read from there on stays in the unit interval up to the channels, which are
bytes (`ofHsv_bytes`). So the one thing that a finite pen can lack is a saturation or brightness without a
sign: bringing a number into the unit interval keeps that of a zero (`colourText_exact`).
-/
namespace Lindenmayer.Pens
open Magnitudes Halves Turns Hashes Reading Replaying Spellings

variable {x : Float}

/-! ### Colours of the unit interval -/

/-- The channel of a number of the unit interval is a byte. -/
theorem channel_byte (unit : UpTo 2 x) : ∃ n, Colour.channel x = .ok n ∧ 0 ≤ n ∧ n ≤ 255 := by
  have half : UpTo 1 (Scalar.half (Scalar.one : Float)) :=
    one_counts.upTo.div (counts_ofInt 2 (by decide)) (by decide) (by decide) (by decide)
  have most : UpTo 510 (x * Scalar.ofInt 255) := unit.mul (counts_ofInt 255 (by decide)).upTo (by decide) (by decide)
  have sum : UpTo 511 (x * Scalar.ofInt 255 + Scalar.half Scalar.one) := most.add half (by decide) (by decide)
  obtain ⟨i, read, below, -⟩ := sum.truncated
  exact ⟨i, read, by omega, by omega⟩

theorem ofUnits_bytes {r g b : Float} (red : UpTo 2 r) (green : UpTo 2 g) (blue : UpTo 2 b) :
    ∃ c, Colour.ofUnits r g b = .ok c ∧ Bytes c := by
  obtain ⟨red, one, first⟩ := channel_byte red
  obtain ⟨green, two, second⟩ := channel_byte green
  obtain ⟨blue, three, third⟩ := channel_byte blue
  refine ⟨⟨red, green, blue⟩, ?_, first, second, third⟩
  rw [Colour.ofUnits, one, two, three]
  rfl

theorem complement_upTo (unit : UpTo 2 x) : UpTo 2 (Scalar.one - x) := by
  have one : size (Scalar.one : Float) = scaled 2 (-1) := one_counts.number.trans (scaled_halves 1).symm
  refine one_counts.upTo.sub unit (unit.most.trans_eq one.symm) ?_ (by decide)
  rw [one]
  exact sub_le_self _ (magnitude_nonneg _)

theorem product_upTo {y : Float} (first : UpTo 2 x) (second : UpTo 2 y) : UpTo 2 (x * y) := first.mul second (by decide) (by decide)

/-- What is left of a number without its integer part is in the unit interval. -/
theorem part_upTo {n : Nat} (upTo : UpTo n x) (few : n < 2 ^ 25) : ∃ i : Int, Scalar.truncate x = .ok i ∧ UpTo 2 (x - Scalar.ofInt i) := by
  obtain ⟨i, read, below, low, high⟩ := upTo.truncated
  have counts := counts_ofInt i (by omega)
  refine ⟨i, read, upTo.sub counts.upTo (counts.number.trans_le low) ?_ (by decide)⟩
  rw [counts.number, scaled_one]
  linarith

/-- A hue, a saturation and a value of the unit interval are a colour of three bytes. -/
theorem ofHsv_bytes {h s v : Float} (hue : UpTo 2 h) (saturation : UpTo 2 s) (value : UpTo 2 v) :
    ∃ c, Colour.ofHsv h s v = .ok c ∧ Bytes c := by
  rw [Colour.ofHsv]
  by_cases grey : Scalar.isZero s = true
  · rw [if_pos grey]
    exact ofUnits_bytes value value value
  · rw [if_neg grey]
    have sectors : UpTo 12 (h * Scalar.ofInt 6) := hue.mul (counts_ofInt 6 (by decide)).upTo (by decide) (by decide)
    obtain ⟨i, truncated, part⟩ := part_upTo sectors (by decide)
    have least := product_upTo value (complement_upTo saturation)
    have falling := product_upTo value (complement_upTo (product_upTo saturation part))
    have rising := product_upTo value (complement_upTo (product_upTo saturation (complement_upTo part)))
    simp only [truncated, bind, Except.bind]
    split
    · exact ofUnits_bytes value rising least
    · exact ofUnits_bytes falling value least
    · exact ofUnits_bytes least value rising
    · exact ofUnits_bytes least falling value
    · exact ofUnits_bytes rising least value
    · exact ofUnits_bytes value least falling

/-! ### The text of a pen's colour -/

theorem turn_counts : Counts 360 (Scalar.ofInt 360) := counts_ofInt 360 (by decide)

theorem hundred_counts : Counts 100 (Scalar.ofInt 100) := counts_ofInt 100 (by decide)

/-- A share is at most a hundred per cent. -/
theorem percent_upTo (finite : x.isFinite = true) (sign : x ≠ -0.0) : UpTo (2 * 100) (Scalar.clampUnit x * Scalar.ofInt 100) :=
  (clampUnit_upTo finite sign).mul hundred_counts.upTo (by decide) (by decide)

/-- The numbers of a pen, as they are written. -/
theorem hsvText_finite {h s b : Float} (hue : h.isFinite = true) (saturation : s.isFinite = true) (brightness : b.isFinite = true)
    (signs : s ≠ -0.0 ∧ b ≠ -0.0) : ∃ l m n, Pen.hsvText h s b = hsvSpelled l m n ∧
      l ≤ 360 * 10 ^ 3 ∧ m ≤ 100 * 10 ^ 3 ∧ n ≤ 100 * 10 ^ 3 := by
  obtain ⟨l, first, small⟩ := (floorMod_upTo hue turn_counts (by decide) (by decide)).written 3
  obtain ⟨m, second, few⟩ := (percent_upTo saturation signs.1).written 3
  obtain ⟨n, third, low⟩ := (percent_upTo brightness signs.2).written 3
  exact ⟨l, m, n, hsvText_spelled first second third, small, few, low⟩

/-- What a finite pen is written as is read as three bytes. -/
theorem colourText_bytes {h s b : Float} (hue : h.isFinite = true) (saturation : s.isFinite = true) (brightness : b.isFinite = true)
    (signs : s ≠ -0.0 ∧ b ≠ -0.0) : ∃ c, Pen.colourText h s b = .ok (Pen.hashText c) ∧ Bytes c := by
  obtain ⟨l, m, n, text, small, few, low⟩ := hsvText_finite hue saturation brightness signs
  have read := hsvSpelled_read Float (hsvSpelled_short (by omega : l ≤ 2 ^ 13 * 10 ^ 3) (by omega : m ≤ 2 ^ 13 * 10 ^ 3) (by omega : n ≤ 2 ^ 13 * 10 ^ 3))
  obtain ⟨c, made, bytes⟩ := ofHsv_bytes
    ((upTo_decimal (n := l) (a := 360) (by omega) (by omega) (by decide)).div turn_counts (by decide) (by decide) (by decide))
    ((upTo_decimal (n := m) (a := 100) (by omega) (by omega) (by decide)).div hundred_counts (by decide) (by decide) (by decide))
    ((upTo_decimal (n := n) (a := 100) (by omega) (by omega) (by decide)).div hundred_counts (by decide) (by decide) (by decide))
  refine ⟨c, ?_, bytes⟩
  rw [Pen.colourText, text, read, made]
  rfl

/-- A pen of finite numbers has a colour's text, unless its saturation or brightness is the zero below zero. -/
theorem colourText_exact {h s b : Float} (hue : h.isFinite = true) (saturation : s.isFinite = true) (brightness : b.isFinite = true) :
    (∃ text, Pen.colourText h s b = .ok text) ↔ s ≠ -0.0 ∧ b ≠ -0.0 := by
  constructor
  · rintro ⟨text, written⟩
    have sign : '-' ∈ Scalar.fixed 3 (Scalar.clampUnit (-0.0 : Float) * Scalar.ofInt 100) := by
      have zero : Scalar.fixed 3 (Scalar.clampUnit (-0.0 : Float) * Scalar.ofInt 100) = "-0.000".toList := by decide +kernel
      rw [zero]
      decide
    constructor
    · rintro rfl
      obtain ⟨failure, refused⟩ := @colourText_signed Float _ h (-0.0) b (.inl sign)
      rw [refused] at written
      cases written
    · rintro rfl
      obtain ⟨failure, refused⟩ := @colourText_signed Float _ h s (-0.0) (.inr sign)
      rw [refused] at written
      cases written
  · intro signs
    obtain ⟨c, written, -⟩ := colourText_bytes hue saturation brightness signs
    exact ⟨_, written⟩

/-! ### The colours that are set -/

/-- The colours that are set are finite numbers. -/
def FiniteColours (primitives : List (Primitive Float)) : Prop :=
  ∀ hue saturation brightness opacity, .setPenColour hue saturation brightness opacity ∈ primitives →
    hue.isFinite = true ∧ saturation.isFinite = true ∧ brightness.isFinite = true

/-- No saturation or brightness that is set is the zero below zero. -/
def UnsignedColours (primitives : List (Primitive Float)) : Prop :=
  ∀ hue saturation brightness opacity, .setPenColour hue saturation brightness opacity ∈ primitives →
    saturation ≠ -0.0 ∧ brightness ≠ -0.0

/-- Finite colours all have a text just if none of their zeros is below zero. -/
theorem coloured_exact {primitives : List (Primitive Float)} (finite : FiniteColours primitives) :
    Coloured primitives ↔ UnsignedColours primitives := by
  refine forall_congr' fun h => forall_congr' fun s => forall_congr' fun b => forall_congr' fun o =>
    imp_congr_right fun member => ?_
  obtain ⟨hue, saturation, brightness⟩ := finite h s b o member
  exact colourText_exact hue saturation brightness

end Lindenmayer.Pens
