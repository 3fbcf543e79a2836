import Mathlib.Algebra.Order.Floor.Ring
import Mathlib.Data.Rat.Floor
import Lindenmayer.Proofs.Halves

/-!
What a double's value decides. Finite doubles are compared as the numbers that they stand for (`compare_worth`), so a
number is brought into the unit interval as its value is (`clampUnit_value`), and a remainder is rounded from the
exact one (`floorMod_rounded`). Numbers whose values are brought to the same one, or differ by whole turns, become the
same double (`clampUnit_congr`, `floorMod_congr`).
-/
namespace Lindenmayer.Turns
open Float.Model UnpackedFloat Rounding Doubles Magnitudes Halves

/-- The number that a finite double stands for, zero for one that is not finite. -/
def value (x : Float) : ℚ :=
  match Binary.ofFloat x with
  | .finite negative m e => if negative then -scaled m e else scaled m e
  | _ => 0

/-- The number that something finite is. -/
def worth : UnpackedFloat → ℚ
  | .finite .positive m e _ => scaled m e
  | .finite .negative m e _ => -scaled m e
  | _ => 0

variable {s t : Sign} {j k m n : Nat} {e f : Int} {u v : UnpackedFloat} {x y : Float}

theorem value_worth (x : Float) : value x = worth (unpacked x) := by
  rw [value, ofFloat_unpacked]
  cases unpacked x with
  | zero s =>
    cases s with
    | positive => exact scaled_zero _
    | negative => exact neg_eq_zero.mpr (scaled_zero _)
  | finite s m e pos => cases s <;> rfl
  | infinity | notANumber => rfl

theorem worth_positive (within : Within .positive k u) : worth u = magnitude u := by
  obtain rfl | ⟨m, e, pos, rfl, -⟩ := within.forms
  · rfl
  · rfl

/-! ### Order -/

theorem scaled_lt_scaled (pos : 0 < n) (first : Settled m e) (second : Settled n f) (less : e < f) : scaled m e < scaled n f := by
  have full : 2 ^ 52 ≤ n := second.full.resolve_right fun lowest => by have := first.least; omega
  have long := log2_full full second.short
  refine (scaled_lt_pow first.short e).trans_le (le_trans ?_ (pow_le_scaled pos.ne' f))
  exact zpow_le_zpow_right₀ one_le_two (by omega)

/-- Settled numbers are ordered by their exponents, and then by their mantissas. -/
theorem lexicographic (pos : 0 < m) (pos' : 0 < n) (first : Settled m e) (second : Settled n f) :
    (compare e f).then (compare m n) = compare (scaled m e) (scaled n f) := by
  rcases lt_trichotomy e f with less | rfl | more
  · rw [compare_lt_iff_lt.mpr less, compare_lt_iff_lt.mpr (scaled_lt_scaled pos' first second less)]
    rfl
  · rw [compare_eq_iff_eq.mpr rfl]
    change compare m n = _
    rcases lt_trichotomy m n with less | rfl | more
    · rw [compare_lt_iff_lt.mpr less, compare_lt_iff_lt.mpr (scaled_lt.mpr less)]
    · rw [compare_eq_iff_eq.mpr rfl, compare_eq_iff_eq.mpr rfl]
    · rw [compare_gt_iff_gt.mpr more, compare_gt_iff_gt.mpr (scaled_lt.mpr more)]
  · rw [compare_gt_iff_gt.mpr more, compare_gt_iff_gt.mpr (scaled_lt_scaled pos second first more)]
    rfl

private theorem compare_neg (p q : ℚ) : compare (-p) (-q) = (compare p q).swap := by
  rcases lt_trichotomy p q with less | rfl | more
  · rw [compare_lt_iff_lt.mpr less, compare_gt_iff_gt.mpr (neg_lt_neg less)]
    rfl
  · rw [compare_eq_iff_eq.mpr rfl, compare_eq_iff_eq.mpr rfl]
    rfl
  · rw [compare_gt_iff_gt.mpr more, compare_lt_iff_lt.mpr (neg_lt_neg more)]
    rfl

/-- Finite numbers are compared as what they stand for. -/
theorem compare_worth (first : Within s j u) (second : Within t k v) : u.compare v = some (compare (worth u) (worth v)) := by
  obtain rfl | ⟨m, e, pos, rfl, settled, -⟩ := first.forms
  · obtain rfl | ⟨n, f, pos', rfl, -⟩ := second.forms
    · exact congrArg some (compare_eq_iff_eq.mpr rfl).symm
    · have some_ := scaled_pos f pos'
      cases t with
      | positive => exact congrArg some (compare_lt_iff_lt.mpr some_).symm
      | negative => exact congrArg some (compare_gt_iff_gt.mpr (neg_lt_zero.mpr some_)).symm
  · have some_ := scaled_pos e pos
    obtain rfl | ⟨n, f, pos', rfl, settled', -⟩ := second.forms
    · cases s with
      | positive => exact congrArg some (compare_gt_iff_gt.mpr some_).symm
      | negative => exact congrArg some (compare_lt_iff_lt.mpr (neg_lt_zero.mpr some_)).symm
    · -- numbers with one sign are compared by their forms, and below zero the other way round
      have some' := scaled_pos f pos'
      have lexical := lexicographic pos pos' settled settled'
      cases s with
      | positive =>
        cases t with
        | positive => exact congrArg some lexical
        | negative => exact congrArg some (compare_gt_iff_gt.mpr ((neg_lt_zero.mpr some').trans some_)).symm
      | negative =>
        cases t with
        | positive => exact congrArg some (compare_lt_iff_lt.mpr ((neg_lt_zero.mpr some_).trans some')).symm
        | negative => exact congrArg some ((congrArg Ordering.swap lexical).trans (compare_neg _ _).symm)

theorem lt_eq (x y : Float) : Scalar.lt x y = (unpacked x).lt (unpacked y) := by
  change decide (x < y) = _
  rw [Bool.eq_iff_iff, decide_eq_true_iff, lt_unpacked]

theorem lt_value (first : Within s j (unpacked x)) (second : Within t k (unpacked y)) : Scalar.lt x y = decide (value x < value y) := by
  rw [lt_eq, UnpackedFloat.lt, compare_worth first second, ← value_worth, ← value_worth]
  refine (Bool.eq_iff_iff).mpr ?_
  rw [decide_eq_true_iff, ← compare_lt_iff_lt]
  simp

theorem max_value (first : Within s j (unpacked x)) (second : Within t k (unpacked y)) : value (Scalar.max x y) = max (value x) (value y) := by
  rw [Scalar.max, lt_value first second]
  by_cases less : value x < value y
  · rw [if_pos (decide_eq_true less), max_eq_right less.le]
  · rw [if_neg (by simpa using less), max_eq_left (not_lt.mp less)]

theorem min_value (first : Within s j (unpacked x)) (second : Within t k (unpacked y)) : value (Scalar.min x y) = min (value x) (value y) := by
  rw [Scalar.min, lt_value second first]
  by_cases less : value y < value x
  · rw [if_pos (decide_eq_true less), min_eq_right less.le]
  · rw [if_neg (by simpa using less), min_eq_left (not_lt.mp less)]

/-! ### The unit interval -/

/-- Positive numbers of one size are one. -/
theorem positive_unique (first : Within .positive j u) (second : Within .positive k v) (same : magnitude u = magnitude v) : u = v := by
  obtain rfl | ⟨m, e, pos, rfl, settled, -⟩ := first.forms
  · obtain rfl | ⟨n, f, pos', rfl, -⟩ := second.forms
    · rfl
    · exact absurd same (scaled_pos f pos').ne
  · obtain rfl | ⟨n, f, pos', rfl, settled', -⟩ := second.forms
    · exact absurd same (scaled_pos e pos).ne'
    · exact settled_unique .positive settled settled' same

theorem zero_value : value (Scalar.zero : Float) = 0 := by
  rw [value_worth]
  rfl

theorem one_counts : Counts 1 (Scalar.one : Float) := counts_ofInt 1 (by decide)

theorem one_value : value (Scalar.one : Float) = 1 := by
  rw [value_worth, worth_positive one_counts.within]
  exact one_counts.number.trans Nat.cast_one

/-- There is one zero below zero. -/
theorem negative_zero (zero : unpacked x = .zero .negative) : x = -0.0 := by
  have stands : Binary.ofFloat x = .finite true 0 (-1074) := by
    rw [ofFloat_unpacked, zero]
    rfl
  obtain ⟨⟨bits, valid⟩⟩ := x
  have only : bits = 0x8000000000000000 := by
    refine UInt64.toNat_inj.mp ?_
    change Binary.ofBits bits.toNat = _ at stands
    change bits.toNat = 0x8000000000000000
    have range := bits.toNat_lt
    rw [Binary.ofBits] at stands
    split at stands
    · split at stands <;> cases stands
    · split at stands
      · obtain ⟨negative, fraction, _⟩ := Binary.finite.inj stands
        have below := of_decide_eq_true negative
        omega
      · obtain ⟨_, fraction, _⟩ := Binary.finite.inj stands
        omega
  subst only
  rfl

theorem max_zero_within (within : Within s k (unpacked x)) (sign : x ≠ -0.0) : Within .positive k (unpacked (Scalar.max x Scalar.zero)) := by
  have zero : unpacked (Scalar.zero : Float) = .zero .positive := by rfl
  rw [Scalar.max, lt_eq, zero]
  obtain apart | ⟨m, e, pos, apart, settled, size⟩ := within.forms
  · cases s with
    | negative => exact absurd (negative_zero apart) sign
    | positive =>
      rw [apart, if_neg (by exact Bool.false_ne_true), apart]
      rfl
  · rw [apart]
    cases s with
    | negative =>
      rw [if_pos (by rfl), zero]
      rfl
    | positive =>
      rw [if_neg (by exact Bool.false_ne_true), apart]
      exact ⟨rfl, settled, size⟩

theorem clampUnit_value (finite : x.isFinite = true) (sign : x ≠ -0.0) : value (Scalar.clampUnit x) = min (max (value x) 0) 1 := by
  obtain ⟨s, within⟩ := unpack_finite finite
  have zero : Within .positive 0 (unpacked (Scalar.zero : Float)) := rfl
  rw [Scalar.clampUnit, min_value (max_zero_within within sign) one_counts.within, max_value within zero, zero_value, one_value]

/-- A finite number that is brought into the unit interval keeps its sign only as the zero below zero. -/
theorem clampUnit_upTo (finite : x.isFinite = true) (sign : x ≠ -0.0) : UpTo 2 (Scalar.clampUnit x) := by
  obtain ⟨s, within⟩ := unpack_finite finite
  have above := max_zero_within within sign
  rw [Scalar.clampUnit, Scalar.min, lt_value one_counts.within above, one_value]
  by_cases more : 1 < value (Scalar.max x Scalar.zero)
  · rw [if_pos (decide_eq_true more)]
    exact one_counts.upTo
  · have most : size (Scalar.max x Scalar.zero) ≤ scaled 2 (-1) := by
      rw [size, ← worth_positive above, ← value_worth]
      exact (not_lt.mp more).trans_eq scaled_one.symm
    rw [if_neg (by simpa using more)]
    exact ⟨within_below above (most.trans_lt (scaled_lt_pow (by decide : 2 < 2 ^ 31) (-1))), most⟩

/-- Numbers that are brought to one value are brought to one double. -/
theorem clampUnit_congr (finite : x.isFinite = true) (finite' : y.isFinite = true) (sign : x ≠ -0.0) (sign' : y ≠ -0.0)
    (same : min (max (value x) 0) 1 = min (max (value y) 0) 1) : unpacked (Scalar.clampUnit x) = unpacked (Scalar.clampUnit y) := by
  have within := (clampUnit_upTo finite sign).within
  have within' := (clampUnit_upTo finite' sign').within
  refine positive_unique within within' ?_
  rw [← worth_positive within, ← worth_positive within', ← value_worth, ← value_worth, clampUnit_value finite sign, clampUnit_value finite' sign', same]

/-! ### Remainders -/

/-- A rest less than the divisor is the remainder. -/
theorem remainder_unique {q d rest : ℚ} {k : Int} (split : q = d * k + rest) (low : 0 ≤ rest) (high : rest < d) : q - d * ⌊q / d⌋ = rest := by
  have pos : 0 < d := low.trans_lt high
  have whole : ⌊q / d⌋ = k := by
    refine Int.floor_eq_iff.mpr ⟨?_, ?_⟩
    · rw [le_div_iff₀ pos]
      linarith
    · rw [div_lt_iff₀ pos]
      linarith
  rw [whole, split]
  ring

theorem remainder_turns (q d : ℚ) (pos : 0 < d) (k : Int) : q + d * k - d * ⌊(q + d * k) / d⌋ = q - d * ⌊q / d⌋ := by
  have turned : (q + d * k) / d = q / d + k := by
    rw [add_div, mul_div_cancel_left₀ _ pos.ne']
  rw [turned, Int.floor_add_intCast]
  push_cast
  ring

section
variable {pos : 0 < n}

/-- A number that is less than a positive one is taken from it. -/
theorem taken_rounded {pos' : 0 < m} (le : e ≤ f) (less : m < n <<< (f - e).toNat) :
    UnpackedFloat.add .binary64 (.finite .negative m e pos') (.finite .positive n f pos) =
      UnpackedFloat.round .binary64 .positive (n <<< (f - e).toNat - m) e := by
  change UnpackedFloat.normalize .binary64 (-((m <<< (e - min e f).toNat : Nat) : Int) + ((n <<< (f - min e f).toNat : Nat) : Int)) (min e f) .positive = _
  rw [Int.min_eq_left le, Int.sub_self, Int.toNat_zero, Nat.shiftLeft_zero]
  have above : compare (-(m : Int) + ((n <<< (f - e).toNat : Nat) : Int)) 0 = .gt := Std.compare_eq_gt.mpr (by omega)
  have gap : (-(m : Int) + ((n <<< (f - e).toNat : Nat) : Int)).toNat = n <<< (f - e).toNat - m := by omega
  rw [UnpackedFloat.normalize, above]
  dsimp only
  rw [gap]

/-- The remainder has the sign of the number, and its size is what whole divisors leave of that of the number. -/
theorem remainder_left (finite : x.isFinite = true) (divisor : unpacked y = .finite .positive n f pos) : ∃ negative r low, ∃ turns : Nat,
    -1074 ≤ low ∧ low ≤ f ∧ Double.remainder x y = Double.ofFinite negative r low ∧ r < 2 ^ 53 ∧ r.log2 + 1 + low ≤ 1024 ∧
    scaled r low < scaled n f ∧
    value x = if negative then -(scaled n f * turns + scaled r low) else scaled n f * turns + scaled r low := by
  obtain ⟨settled', size'⟩ := finite_settled divisor
  obtain ⟨negative, m, e, stands, least, rest, fits⟩ := remainder_eq finite divisor
  have lowest : -1074 ≤ min e f := Int.le_min.mpr ⟨least, settled'.least⟩
  have le := Int.min_le_right e f
  have number : value x = if negative then -scaled m e else scaled m e := by rw [value, stands]
  have part := scaled_down n le
  have longer := log2_shift pos.ne' (f - min e f).toNat
  rw [← Nat.shiftLeft_eq, ← Nat.shiftLeft_eq] at rest fits
  rw [← scaled_down m (min_le_left e f)] at number
  generalize m <<< (e - min e f).toNat = a at *
  generalize divided : n <<< (f - min e f).toNat = b at *
  generalize min e f = low at *
  have some_ : 0 < b := divided ▸ Nat.shiftLeft_pos_iff.mpr pos
  have below := Nat.mod_lt a some_
  have less := log2_le_log2 below.le
  have whole : scaled a low = scaled n f * (a / b : Nat) + scaled (a % b) low := by
    calc scaled a low = scaled (b * (a / b) + a % b) low := by rw [Nat.div_add_mod]
      _ = scaled b low * (a / b : Nat) + scaled (a % b) low := by rw [scaled, scaled, scaled]; push_cast; ring
      _ = scaled n f * (a / b : Nat) + scaled (a % b) low := by rw [part]
  refine ⟨negative, a % b, low, a / b, lowest, le, rest, fits, by omega, part ▸ scaled_lt.mpr below, ?_⟩
  rw [number, whole]

/-- The remainder with the sign of a positive double is rounded from the exact one. -/
theorem floorMod_rounded (finite : x.isFinite = true) (divisor : unpacked y = .finite .positive n f pos) : ∃ r low, -1074 ≤ low ∧
    unpacked (Double.floorMod x y) = (Float.Model.pack (UnpackedFloat.round .binary64 .positive r low)).unpack ∧
    scaled r low = value x - scaled n f * ⌊value x / scaled n f⌋ := by
  obtain ⟨negative, r, low, turns, lowest, le, rest, fits, size, high, number⟩ := remainder_left finite divisor
  rcases Nat.eq_zero_or_pos r with rfl | some_
  · have zero : unpacked (Double.remainder x y) = .zero (signOf negative) := rest ▸ ofFinite_zero negative lowest
    refine ⟨0, low, lowest, ?_, (remainder_unique (k := if negative then -turns else turns) ?_ (scaled_nonneg 0 low) high).symm⟩
    · rw [floorMod_zero divisor zero, round_zero .positive lowest]
      rfl
    · rw [number]
      cases negative with
      | false => rfl
      | true => simp
  · obtain ⟨t, pos', exact_, lower⟩ := ofFinite_exact negative some_ fits lowest size
    rw [← rest] at exact_
    cases negative with
    | false =>
      refine ⟨r, low, lowest, ?_, (remainder_unique (k := turns) number (scaled_nonneg r low) high).symm⟩
      rw [floorMod_positive divisor exact_, rest]
      rfl
    | true =>
      -- the rest is taken from the divisor at the exponent that it was rounded to
      have least := (finite_settled exact_).1.least
      have taken := scaled_down r lower
      have full := scaled_down n (lower.trans le)
      have fewer : r <<< (low - t).toNat < n <<< (f - t).toNat := by
        rw [← taken, ← full] at high
        exact scaled_lt.mp high
      refine ⟨n <<< (f - t).toNat - r <<< (low - t).toNat, t, least, ?_, ?_⟩
      · rw [floorMod_negative divisor exact_]
        change (Float.Model.pack (UnpackedFloat.add .binary64 (unpacked (Double.remainder x y)) (unpacked y))).unpack = _
        rw [exact_, divisor]
        exact congrArg (fun u => (Float.Model.pack u).unpack) (taken_rounded (lower.trans le) fewer)
      · rw [← scaled_sub t fewer.le, taken, full]
        refine (remainder_unique (k := -turns - 1) ?_ (sub_nonneg.mpr high.le) (sub_lt_self _ (scaled_pos low some_))).symm
        rw [number, if_pos rfl]
        push_cast
        ring

end

variable {b : Nat}

/-- Numbers that differ by whole turns have one remainder. -/
theorem floorMod_congr {z : Float} (finite : x.isFinite = true) (finite' : z.isFinite = true) (divisor : Counts b y) (pos : 0 < b)
    {turns : Int} (same : value z = value x + b * turns) : unpacked (Double.floorMod z y) = unpacked (Double.floorMod x y) := by
  obtain ⟨n, f, pos', apart, number⟩ := divisor.forms pos
  obtain ⟨r, low, least, first, exact_⟩ := floorMod_rounded finite apart
  obtain ⟨r', low', least', second, exact'⟩ := floorMod_rounded finite' apart
  rw [← number] at same
  rw [same, remainder_turns _ _ (scaled_pos f pos'), ← exact_] at exact'
  rw [first, second]
  rcases Nat.eq_zero_or_pos r' with rfl | some_
  · obtain rfl : r = 0 := by
      by_contra other
      rw [scaled_zero] at exact'
      exact absurd exact' (scaled_pos low (Nat.pos_of_ne_zero other)).ne
    rw [round_zero _ least, round_zero _ least']
  · rw [round_congr .positive some_.ne' exact']

/-- The remainder of a division by a number is at most that number. -/
theorem floorMod_upTo (finite : x.isFinite = true) (divisor : Counts b y) (pos : 0 < b) (few : b < 2 ^ 29) : UpTo (2 * b) (Double.floorMod x y) := by
  have some_ : (0 : ℚ) < b := Nat.cast_pos.mpr pos
  obtain ⟨n, f, pos', apart, number⟩ := divisor.forms pos
  obtain ⟨r, low, least, packed, exact_⟩ := floorMod_rounded finite apart
  rw [number] at exact_
  have below : scaled r low < b := by
    have split : value x - b * ⌊value x / b⌋ = b * Int.fract (value x / b) := by
      rw [Int.fract, mul_sub, mul_div_cancel₀ _ some_.ne']
    rw [exact_, split]
    exact mul_lt_of_lt_one_right some_ (Int.fract_lt_one _)
  have most : scaled r low ≤ scaled (2 * b) (-1) := below.le.trans_eq (scaled_halves b).symm
  rcases Nat.eq_zero_or_pos r with rfl | positive
  · rw [round_zero _ least] at packed
    exact upTo_packed (u := .zero .positive) (k := 0) rfl (by decide) packed (by omega) (scaled_nonneg _ _)
  · have short : scaled r low < 2 ^ 29 := below.trans (by exact_mod_cast few)
    have within := round_within (s := .positive) positive.ne' (bits_below positive.ne' short)
    exact upTo_packed within (by decide) packed (by omega) (round_le _ positive.ne' (by omega) (by decide) most)

end Lindenmayer.Turns
