import Lindenmayer.Proofs.Decimals
import Lindenmayer.Proofs.Renderings
import Lindenmayer.Proofs.Turns

/-!
The numbers of an SVG text. A finite double is written as the number of thousandths that it rounds to, with nothing to
spare, and of all such texts what is written is the one that reads as that number (`number_only`, `numbers_written`). The
sign alone is that of the double: one just below zero (`Faint`) rounds to zero and is written with a minus sign
(`faint_signed`).
-/
namespace Lindenmayer.Coordinates
open Float.Model UnpackedFloat Exact Decimals Doubles Magnitudes Halves Turns Renderings

/-- The number of thousandths that a double rounds to. -/
def thousandths (x : Float) : Int := nearest (value x * 1000)

/-- A number below zero that rounds to zero: it is at most half a thousandth away. -/
def Faint (x : Float) : Prop := -1 / 2000 ≤ value x ∧ value x < 0

instance (x : Float) : Decidable (Faint x) := inferInstanceAs (Decidable (_ ∧ _))

/-- What stands before the digits of a double. -/
def signed (x : Float) : List Char := if value x < 0 then ['-'] else []

/-- What is written of a finite double is that of the number of thousandths that it rounds to, but for the sign of a
    faint one. -/
structure Written (x : Float) : Prop where
  rounded : Rounds (value x * 1000) (thousandths x)
  read : read? (Svg.number 3 x) = some (thousandths x / 1000 : ℚ)
  canonical : ∃ whole places, Svg.number 3 x = signed x ++ joined whole places ∧ Canonical whole places ∧ places.length ≤ 3
  only : ∀ whole places, Canonical whole places →
    (Svg.number 3 x = signed x ++ joined whole places ↔ read? (signed x ++ joined whole places) = some (thousandths x / 1000 : ℚ))
  minus : '-' ∈ Svg.number 3 x ↔ thousandths x < 0 ∨ Faint x
  zero : Svg.number 3 x = ['0'] ↔ thousandths x = 0 ∧ ¬ Faint x
  same : ∀ y : Float, y.isFinite = true → (Svg.number 3 x = Svg.number 3 y ↔ thousandths x = thousandths y ∧ (Faint x ↔ Faint y))

/-- The numbers of a shape that is brought into the frame, by the attributes of its tag. -/
def numbersOf (opacity : Float) : Shape Float → List (String × Float)
  | .line start stop width =>
    [("x1", start.x), ("y1", start.y), ("x2", stop.x), ("y2", stop.y), ("stroke-opacity", opacity), ("stroke-width", width)]
  | .circle centre radius => [("cx", centre.x), ("cy", centre.y), ("r", radius), ("fill-opacity", opacity)]
  | .rectangle centre width height =>
    [("x", centre.x - Scalar.half width), ("y", centre.y - Scalar.half height), ("width", width), ("height", height), ("fill-opacity", opacity)]

/-- The attributes of a tag that are numbers: all but the colour and the ends of a line. -/
def numerals (tag : Tag) : List (String × Text) := tag.attributes.filter (·.1 ∉ ["stroke", "fill", "stroke-linecap"])

/-- The numerals of a tag are some numbers as they are written, and one that rounds to zero is so told unless it is faint. -/
structure Tells (tag : Tag) (numbers : List (String × Float)) : Prop where
  all : numerals tag = numbers.map fun entry => (entry.1, (Svg.number 3 entry.2).map Text.ofChar)
  zeros : ∀ name x, (name, x) ∈ numbers → x.isFinite = true → thousandths x = 0 → ¬ Faint x → (name, Text.ofString "0") ∈ numerals tag

variable {x y : Float} {m : Nat} {e : Int}

/-! ### What is written -/

theorem isZero_unpacked (x : Float) : Scalar.isZero x = (unpacked x).beq (.zero .positive) := by rfl

theorem fixed_unpacked (x : Float) : Scalar.fixed 3 x = Decimal.fixedBinary 3 (toBinary (unpacked x)) :=
  congrArg (Decimal.fixedBinary 3) (ofFloat_unpacked x)

/-- The thousandths of a fraction are rounded as a quotient. -/
theorem nearest_scaled (m : Nat) (e : Int) :
    nearest (scaled m e * 1000) = Decimal.roundDiv (Binary.numerator m e * Nat.pow 10 3) (Binary.denominator e) := by
  have some_ : (Binary.denominator e : ℚ) ≠ 0 := Nat.cast_ne_zero.mpr (Binary.denominator_pos e).ne'
  rw [← roundDiv_nearest _ (Binary.denominator_pos e)]
  change _ = nearest (((Binary.numerator m e * 1000 : Nat) : ℚ) / Binary.denominator e)
  rw [Nat.cast_mul, numerator_scaled, mul_right_comm, mul_div_cancel_right₀ _ some_, Nat.cast_ofNat]

/-- A double other than zero has three places before any are spared. -/
theorem fixed_text {t : Sign} {pos : 0 < m} (apart : unpacked x = .finite t m e pos) :
    Scalar.fixed 3 x = signed x ++ Decimal.pointed 3 (thousandths x).natAbs := by
  have size := scaled_pos e pos
  rw [fixed_unpacked, apart, signed, thousandths]
  cases t with
  | positive =>
    have number : value x = scaled m e := (value_worth x).trans (congrArg worth apart)
    rw [number, if_neg size.not_gt, nearest_scaled, Int.natAbs_natCast]
    rfl
  | negative =>
    have number : value x = -scaled m e := (value_worth x).trans (congrArg worth apart)
    rw [number, if_pos (neg_lt_zero.mpr size), neg_mul, nearest_neg, nearest_scaled, Int.natAbs_neg, Int.natAbs_natCast]
    rfl

/-- A double is written as its sign and the size of what it rounds to. -/
theorem number_text (finite : x.isFinite = true) : Svg.number 3 x = signed x ++ plain (thousandths x).natAbs := by
  obtain ⟨t, within⟩ := unpack_finite finite
  obtain zero | ⟨m, e, pos, apart, -⟩ := within.forms
  · have none_ : value x = 0 := by rw [value_worth, zero]; rfl
    have isZero : Scalar.isZero x = true := by rw [isZero_unpacked, zero]; cases t <;> rfl
    have rounded : nearest (0 * 1000 : ℚ) = 0 := by decide +kernel
    rw [Svg.number, isZero, signed, thousandths, none_, rounded, if_neg (lt_irrefl _)]
    simp only [↓reduceIte]
    decide +kernel
  · have some_ : Scalar.isZero x = false := by rw [isZero_unpacked, apart]; cases t <;> rfl
    have pointless : '.' ∉ signed x := by
      rw [signed]
      split_ifs <;> decide
    have point : (signed x ++ Decimal.pointed 3 (thousandths x).natAbs).contains '.' = true := by
      rw [List.contains_iff_mem]
      exact List.mem_append_right _ (List.mem_append_right _ List.mem_cons_self)
    rw [Svg.number, some_, if_neg Bool.false_ne_true, fixed_text apart, if_pos point, strip_thousandths pointless]

/-! ### Signs -/

theorem faint_iff : Faint x ↔ value x < 0 ∧ thousandths x = 0 := by
  constructor
  · rintro ⟨low, below⟩
    have rounds : Rounds (value x * 1000) 0 := by
      rw [rounds_zero, abs_of_neg (by linarith)]
      linarith
    exact ⟨below, (nearest_rounds _).unique rounds⟩
  · rintro ⟨below, zero⟩
    have rounds : Rounds (value x * 1000) 0 := zero ▸ nearest_rounds _
    rw [rounds_zero, abs_of_neg (by linarith)] at rounds
    exact ⟨by linarith, below⟩

/-- A number below zero rounds to one, unless it is faint. -/
theorem below_zero (x : Float) : value x < 0 ↔ thousandths x < 0 ∨ Faint x := by
  rw [faint_iff]
  constructor
  · intro below
    have most : thousandths x ≤ 0 := nearest_le (by rw [Int.cast_zero]; linarith)
    rcases most.lt_or_eq with less | zero
    · exact .inl less
    · exact .inr ⟨below, zero⟩
  · rintro (less | ⟨below, -⟩)
    · by_contra above
      have least : 0 ≤ thousandths x := le_nearest (by rw [Int.cast_zero]; linarith)
      omega
    · exact below

theorem signed_minus (x : Float) : '-' ∈ signed x ↔ value x < 0 := by
  rw [signed]
  split_ifs with below
  · exact iff_of_true List.mem_cons_self below
  · exact iff_of_false List.not_mem_nil below

theorem text_minus (finite : x.isFinite = true) : '-' ∈ Svg.number 3 x ↔ value x < 0 := by
  rw [number_text finite, plain, List.mem_append, or_iff_left (plain_canonical _).unsigned, signed_minus]

/-! ### Reading back -/

theorem signed_read (x : Float) {whole places : List Char} (canonical : Canonical whole places) :
    read? (signed x ++ joined whole places) =
      some (if value x < 0 then -amount (whole ++ places) places.length else amount (whole ++ places) places.length) := by
  rw [signed]
  split_ifs
  · exact canonical.read_minus
  · exact canonical.read_joined

/-- With the sign of the number, the size of what it rounds to is what it rounds to. -/
theorem signed_natAbs (x : Float) :
    (if value x < 0 then -((thousandths x).natAbs / 1000) else (thousandths x).natAbs / 1000 : ℚ) = thousandths x / 1000 := by
  split_ifs with below
  · have most : thousandths x ≤ 0 := nearest_le (by rw [Int.cast_zero]; linarith)
    rw [Nat.cast_natAbs, abs_of_nonpos most, Int.cast_neg, neg_div, neg_neg]
  · have least : 0 ≤ thousandths x := le_nearest (by rw [Int.cast_zero]; linarith)
    rw [Nat.cast_natAbs, abs_of_nonneg least]

theorem number_read (finite : x.isFinite = true) : read? (Svg.number 3 x) = some (thousandths x / 1000 : ℚ) := by
  rw [number_text finite, plain, signed_read x (plain_canonical _), amount_places, signed_natAbs]

/-- There is no other text of the sign and digits with nothing to spare that reads so. -/
theorem number_only (finite : x.isFinite = true) {whole places : List Char} (canonical : Canonical whole places) :
    Svg.number 3 x = signed x ++ joined whole places ↔ read? (signed x ++ joined whole places) = some (thousandths x / 1000 : ℚ) := by
  constructor
  · intro same
    rw [← same, number_read finite]
  · intro read
    rw [signed_read x canonical, ← signed_natAbs, ← amount_places, Option.some_inj] at read
    obtain ⟨rfl, rfl⟩ := canonical.unique (plain_canonical (thousandths x).natAbs) (by
      split_ifs at read
      · exact neg_inj.mp read
      · exact read)
    exact number_text finite

/-- Numbers are written alike if they round alike and both are faint or neither is. -/
theorem number_same (finite : x.isFinite = true) (finite' : y.isFinite = true) :
    Svg.number 3 x = Svg.number 3 y ↔ thousandths x = thousandths y ∧ (Faint x ↔ Faint y) := by
  constructor
  · intro same
    have rounded : thousandths x = thousandths y := by
      have read := number_read finite
      rw [same, number_read finite', Option.some_inj, div_left_inj' (by norm_num)] at read
      exact_mod_cast read.symm
    refine ⟨rounded, ?_⟩
    rw [faint_iff, faint_iff, rounded, ← text_minus finite, same, text_minus finite']
  · rintro ⟨rounded, faint⟩
    have signs : value x < 0 ↔ value y < 0 := by rw [below_zero, below_zero, rounded, faint]
    have signs' : signed x = signed y := if_congr signs rfl rfl
    rw [number_text finite, number_text finite', rounded, signs']

theorem number_zero (finite : x.isFinite = true) : Svg.number 3 x = ['0'] ↔ thousandths x = 0 ∧ ¬ Faint x := by
  have zero : Svg.number 3 (0.0 : Float) = ['0'] := by decide +kernel
  have rounded : thousandths 0.0 = 0 ∧ ¬ Faint 0.0 := by decide +kernel
  rw [← zero, number_same finite (by decide +kernel), rounded.1, iff_false_right rounded.2]

theorem number_written (finite : x.isFinite = true) : Written x where
  rounded := nearest_rounds _
  read := number_read finite
  canonical := ⟨_, _, number_text finite, plain_canonical _, places_length _⟩
  only := fun _ _ => number_only finite
  minus := (text_minus finite).trans (below_zero x)
  zero := number_zero finite
  same := fun _ finite' => number_same finite finite'

/-! ### Tags -/

theorem written_number (x : Float) : written x = (Svg.number 3 x).map Text.ofChar := by
  rw [written, Svg.coordinate, Text.ofString, String.toList_ofList]

theorem tagOf_tells (colour : Text) (opacity : Float) (shape : Shape Float) :
    Tells (tagOf colour (written opacity) shape) (numbersOf opacity shape) := by
  have all : numerals (tagOf colour (written opacity) shape) =
      (numbersOf opacity shape).map fun entry => (entry.1, (Svg.number 3 entry.2).map Text.ofChar) := by
    simp only [← written_number]
    cases shape with
    | line | circle | rectangle => rfl
  refine ⟨all, fun name x member finite zero apparent => ?_⟩
  have text : Svg.number 3 x = ['0'] := (number_zero finite).mpr ⟨zero, apparent⟩
  rw [all]
  exact List.mem_map.mpr ⟨_, member, by rw [text]; rfl⟩

/-! ### Main statement -/

/-- A finite double is written as what it rounds to, but for the sign of a faint one, and an SVG text of steps tells all
    its numbers so. -/
theorem numbers_written (finite : x.isFinite = true) : Written x ∧
    ∀ (steps : List (Step Float)) {frame : Frame} {padding : Int} {background : Option Text} {fill : Bool} {text : Text},
      Svg.ofSteps (steps.map Step.record) frame padding background fill = .ok text →
      ∃ f, Fit.ofSteps (steps.map Step.record) frame padding fill = .ok f ∧
        text = document frame background (steps.map (tagOfStep f)) ∧
        ∀ s ∈ steps, Tells (tagOfStep f s) (numbersOf s.opacity (f.shape s.shape)) := by
  refine ⟨number_written finite, fun steps _ _ _ _ _ drawn => ?_⟩
  obtain ⟨f, fitted, text⟩ := ofSteps_document drawn
  exact ⟨f, fitted, text, fun s _ => tagOf_tells _ _ _⟩

/-- A circle at the left of a frame, with a centre that rounds to zero. -/
def leftmost : Step Float := ⟨.circle ⟨-49.9998, 2.0⟩ 2.5, Text.ofString "#000080", 1.0⟩

theorem leftmost_written : Written 2.5 ∧ Svg.number 3 (2.5 : Float) = "2.5".toList ∧
    ∃ text f, Svg.ofSteps [leftmost.record] ⟨100, 80⟩ 10 none false = .ok text ∧
      Fit.ofSteps [leftmost.record] ⟨100, 80⟩ 10 false = .ok f ∧
      text = document ⟨100, 80⟩ none [tagOfStep f leftmost] ∧ ("cx", Text.ofString "0") ∈ numerals (tagOfStep f leftmost) := by
  have drawable : (Svg.ofSteps [leftmost.record] ⟨100, 80⟩ 10 none false).toOption.isSome = true := by decide +kernel
  obtain ⟨text, drawn⟩ := Option.isSome_iff_exists.mp drawable
  obtain ⟨written, documents⟩ := numbers_written (x := 2.5) (by decide +kernel)
  obtain ⟨f, fitted, document, tells⟩ := documents [leftmost] (Outcomes.toOption_ok.mp drawn)
  have centred : f = Fit.centred ⟨100, 80⟩ := (Except.ok.inj fitted).symm
  have small : ((Fit.centred ⟨100, 80⟩).apply ⟨-49.9998, 2.0⟩).x.isFinite = true ∧
      thousandths ((Fit.centred ⟨100, 80⟩).apply ⟨-49.9998, 2.0⟩).x = 0 ∧
      ¬ Faint ((Fit.centred ⟨100, 80⟩).apply ⟨-49.9998, 2.0⟩).x := by
    decide +kernel
  refine ⟨written, by decide +kernel, text, f, Outcomes.toOption_ok.mp drawn, fitted, document, ?_⟩
  subst centred
  exact (tells leftmost List.mem_cons_self).zeros _ _ List.mem_cons_self small.1 small.2.1 small.2.2

/-- A number just below zero rounds as zero does and is written as another. -/
theorem faint_signed : (-0.0004 : Float).isFinite = true ∧ thousandths (-0.0004) = thousandths 0.0 ∧
    Svg.number 3 (-0.0004 : Float) = "-0".toList ∧ Svg.number 3 (0.0 : Float) = "0".toList := by
  decide +kernel

end Lindenmayer.Coordinates
