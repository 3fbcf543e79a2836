import Lindenmayer.Proofs.Turns

/-!
The signs of computed doubles. What is rounded keeps its sign and does not vanish, unless it is less than the least
double (`round_nonzero`, `rounded_nonzero`). So a sum of doubles above zero is above zero, a difference just if the
second is below the first (`sub_above`), and a quotient by two or four unless its dividend is among the least
(`half_above`, `quarter_above`).
-/
namespace Lindenmayer.Signs
open Float.Model UnpackedFloat Rounding Doubles Magnitudes Halves Turns

/-- Something with a sign that is not zero: finite, or an infinity. -/
inductive Nonzero (s : Sign) : UnpackedFloat → Prop where
  | finite {m : Nat} {e : Int} {pos : 0 < m} : Nonzero s (.finite s m e pos)
  | infinity : Nonzero s (.infinity s)

theorem Nonzero.unique {s t : Sign} {u : UnpackedFloat} (first : Nonzero s u) (second : Nonzero t u) : s = t := by
  cases first with
  | finite | infinity =>
    cases second
    rfl

theorem Nonzero.forms {s : Sign} {u : UnpackedFloat} (nonzero : Nonzero s u) : u = .infinity s ∨ ∃ m e pos, u = .finite s m e pos := by
  cases nonzero with
  | @finite m e pos => exact .inr ⟨m, e, pos, rfl⟩
  | infinity => exact .inl rfl

/-- A double above zero. -/
def Above (x : Float) : Prop := Scalar.lt Scalar.zero x = true

variable {s t : Sign} {j k m n : Nat} {e f : Int} {u v : UnpackedFloat} {x y : Float}

theorem above_nonzero : Above x ↔ Nonzero .positive (unpacked x) := by
  have zero : unpacked (Scalar.zero : Float) = .zero .positive := by rfl
  rw [Above, lt_eq, zero]
  generalize unpacked x = u
  constructor
  · intro above
    cases u with
    | finite s m e pos =>
      cases s with
      | positive => exact .finite
      | negative => cases above
    | infinity s =>
      cases s with
      | positive => exact .infinity
      | negative => cases above
    | zero | notANumber => cases above
  · intro nonzero
    cases nonzero with
    | finite | infinity => rfl

/-! ### Rounding -/

theorem packed_infinity (s : Sign) : Nonzero s (Float.Model.pack (.infinity s)).unpack := by
  cases s with
  | negative | positive => exact .infinity

theorem packed_zero : ¬ Nonzero .positive (Float.Model.pack (.zero .positive)).unpack := by
  rintro ⟨⟩

/-- A settled number is packed as itself, or as an infinity if it is too large. -/
theorem packed_nonzero (s : Sign) {pos : 0 < m} (settled : Settled m e) : Nonzero s (Float.Model.pack (.finite s m e pos)).unpack := by
  by_cases fits : e ≤ 971
  · rw [unpack_pack_finite s pos settled fits]
    exact .finite
  · have biased : (e + (Format.binary64.exponentBias : Int) + (Format.binary64.mantissaBitsWithoutImplicit : Int)).toNat = (e + 1075).toNat := by
      change (e + 1023 + 52).toNat = _
      omega
    have large : UnpackedFloat.pack .binary64 (.finite s m e pos) = UnpackedFloat.pack .binary64 (.infinity s) := by
      delta UnpackedFloat.pack
      dsimp only
      rw [biased, if_pos (by change 2048 ≤ _; omega)]
    change Nonzero s (UnpackedFloat.unpack .binary64 (UnpackedFloat.pack .binary64 (.finite s m e pos)))
    rw [large]
    exact packed_infinity s

/-- What is not less than the least double is not rounded to zero. -/
theorem rounded_nonzero (s : Sign) {a : Accuracy} (some_ : m ≠ 0) (fits : 52 ≤ m.log2 ∨ e ≤ -1074) (least : -1074 ≤ m.log2 + e) :
    Nonzero s (Float.Model.pack (roundWithAccuracy .binary64 s m e a)).unpack := by
  have within : Within s ((m.log2 + 1 + e).toNat + 1) (roundWithAccuracy .binary64 s m e a) := rounded_within fits (by omega)
  obtain zero | ⟨n, f, pos, rounded, settled, -⟩ := within.forms
  · have exponent := shiftToTargetExponent_exponent m e a
    have mantissa := shiftToTargetExponent_mantissa m e a
    have short := shifted_short m e a
    have near := roundedMantissa_between (shiftToTargetExponent .binary64 m e a).1
    have size := settle_magnitude s (m := (shiftToTargetExponent .binary64 m e a).1.roundedMantissa)
      (t := (shiftToTargetExponent .binary64 m e a).2) (by omega) (by omega)
    rw [← roundWithAccuracy_settle, zero] at size
    have some_ : 0 < m / 2 ^ (max (m.log2 + e - 52) (-1074) - e).toNat :=
      Nat.div_pos (Nat.le_trans (Nat.pow_le_pow_right (by decide) (by omega)) (Nat.log2_self_le some_)) (Nat.two_pow_pos _)
    exact absurd size (scaled_pos _ (by omega)).ne
  · rw [rounded]
    exact packed_nonzero s settled

theorem round_nonzero (s : Sign) (some_ : m ≠ 0) (least : -1074 ≤ m.log2 + e) :
    Nonzero s (Float.Model.pack (UnpackedFloat.round .binary64 s m e)).unpack := by
  rw [UnpackedFloat.round, targetExponent_eq, decreaseExponent]
  dsimp only
  generalize shifted : (e - max (m.log2 + e - 52) (-1074)).toNat = k
  have longer := log2_shift some_ k
  refine rounded_nonzero s ?_ (by omega) (by omega)
  exact (Nat.shiftLeft_pos_iff.mpr (Nat.pos_of_ne_zero some_)).ne'

/-- A signed mantissa that is rounded is above zero just if it was. -/
theorem normalize_above {M : Int} (least : -1074 ≤ e) :
    Nonzero .positive (Float.Model.pack (UnpackedFloat.normalize .binary64 M e .positive)).unpack ↔ 0 < M := by
  rcases Int.lt_trichotomy M 0 with negative | rfl | positive
  · have below : compare M 0 = .lt := Std.compare_eq_lt.mpr negative
    rw [UnpackedFloat.normalize, below]
    have nonzero := round_nonzero .negative (m := (-M).toNat) (e := e) (by omega) (by omega)
    dsimp only
    exact iff_of_false (fun above => absurd (above.unique nonzero) (by rintro ⟨⟩)) (by omega)
  · exact iff_of_false packed_zero (Int.lt_irrefl 0)
  · have above : compare M 0 = .gt := Std.compare_eq_gt.mpr positive
    rw [UnpackedFloat.normalize, above]
    exact iff_of_true (round_nonzero .positive (by omega) (by omega)) positive

/-! ### Operations -/

theorem add_above (first : Above x) (second : Above y) : Above (x + y) := by
  rw [above_nonzero] at first second ⊢
  change Nonzero .positive (Float.Model.pack (UnpackedFloat.add .binary64 (unpacked x) (unpacked y))).unpack
  obtain apart | ⟨m, e, pos, apart⟩ := first.forms
  · obtain apart' | ⟨n, f, pos', apart'⟩ := second.forms
    · rw [apart, apart']
      exact packed_infinity .positive
    · rw [apart, apart']
      exact packed_infinity .positive
  · obtain apart' | ⟨n, f, pos', apart'⟩ := second.forms
    · rw [apart, apart']
      exact packed_infinity .positive
    · obtain ⟨settled, -⟩ := finite_settled apart
      obtain ⟨settled', -⟩ := finite_settled apart'
      have some_ : 0 < m <<< (e - min e f).toNat := Nat.shiftLeft_pos_iff.mpr pos
      rw [apart, apart']
      exact (normalize_above (Int.le_min.mpr ⟨settled.least, settled'.least⟩)).mpr
        (Int.add_pos_of_pos_of_nonneg (Int.natCast_pos.mpr some_) (Int.natCast_nonneg _))

/-- A difference is above zero just if the number that is taken away is below the other. -/
theorem sub_above (first : Above x) (second : Above y) : Above (x - y) ↔ Scalar.lt y x = true := by
  rw [above_nonzero] at first second ⊢
  change Nonzero .positive (Float.Model.pack (UnpackedFloat.sub .binary64 (unpacked x) (unpacked y))).unpack ↔ _
  rw [lt_eq]
  obtain apart | ⟨m, e, pos, apart⟩ := first.forms
  · obtain apart' | ⟨n, f, pos', apart'⟩ := second.forms
    · have nothing : ¬ Nonzero .positive (Float.Model.pack .notANumber).unpack := by
        rintro ⟨⟩
      rw [apart, apart']
      exact iff_of_false nothing (by rintro ⟨⟩)
    · rw [apart, apart']
      exact iff_of_true (packed_infinity .positive) rfl
  · obtain apart' | ⟨n, f, pos', apart'⟩ := second.forms
    · rw [apart, apart']
      exact iff_of_false (fun above => absurd (above.unique (packed_infinity .negative)) (by rintro ⟨⟩)) (by rintro ⟨⟩)
    · obtain ⟨settled, -⟩ := finite_settled apart
      obtain ⟨settled', -⟩ := finite_settled apart'
      have lexical := lexicographic pos' pos settled' settled
      have ordered : UnpackedFloat.lt (.finite .positive n f pos') (.finite .positive m e pos) = true ↔ scaled n f < scaled m e := by
        change (some ((compare f e).then (compare n m)) == some .lt) = true ↔ _
        rw [lexical, ← compare_lt_iff_lt]
        simp
      rw [apart, apart', ordered, ← scaled_down m (min_le_left e f), ← scaled_down n (min_le_right e f), scaled_lt]
      refine (normalize_above (Int.le_min.mpr ⟨settled.least, settled'.least⟩)).trans ?_
      change 0 < ((m <<< (e - min e f).toNat : Nat) : Int) - ((n <<< (f - min e f).toNat : Nat) : Int) ↔ _
      omega

/-- A quotient by a power of two does not vanish, unless it is less than the least double. -/
theorem div_nonzero {c : Nat} (pos : 0 < m) (least : -1074 ≤ m.log2 + e - c) :
    Nonzero .positive (Float.Model.pack (UnpackedFloat.div .binary64 (.finite .positive m e pos) (.finite .positive (2 ^ 52) (c - 52) (by decide)))).unpack := by
  obtain ⟨shift, rounded, fits, low⟩ := div_rounded .positive .positive e (c - 52) pos (by decide : 0 < 2 ^ 52)
  rw [Nat.log2_two_pow] at low
  have bits := log2_shift pos.ne' shift
  have long : 52 ≤ m.log2 + shift := by omega
  have power : 2 ^ (m.log2 + shift - 52) ≤ (m <<< shift) / 2 ^ 52 := by
    refine (Nat.le_div_iff_mul_le (by decide)).mpr ?_
    rw [← Nat.pow_add, Nat.sub_add_cancel long, ← bits]
    exact Nat.log2_self_le (Nat.shiftLeft_pos_iff.mpr pos).ne'
  have some_ : (m <<< shift) / 2 ^ 52 ≠ 0 := (Nat.lt_of_lt_of_le (Nat.two_pow_pos _) power).ne'
  have above := (Nat.le_log2 some_).mpr power
  rw [rounded]
  exact rounded_nonzero .positive some_ fits (by omega)

/-- Positive numbers are compared by their exponents, and then by their mantissas. -/
theorem lt_finite {pos : 0 < m} {pos' : 0 < n} :
    UnpackedFloat.lt (.finite .positive m e pos) (.finite .positive n f pos') = true ↔ e < f ∨ e = f ∧ m < n := by
  change (some ((compare e f).then (compare m n)) == some .lt) = true ↔ _
  rw [beq_iff_eq, Option.some_inj, Ordering.then_eq_lt, compare_lt_iff_lt, compare_eq_iff_eq, compare_lt_iff_lt]

/-- A quotient by a power of two is above zero just if the dividend is above a bound, where this is so for the dividends
    that are few times the least double. -/
theorem quotient_above {c : Nat} {z : Float} {pos : 0 < k} (above : Above x) (cut : c ≤ 52) (small : k < 2 ^ c)
    (power : unpacked y = .finite .positive (2 ^ 52) (c - 52) (by decide)) (bound : unpacked z = .finite .positive k (-1074) pos)
    (few : ∀ m pos', m < 2 ^ c → (Nonzero .positive (Float.Model.pack (UnpackedFloat.div .binary64
      (.finite .positive m (-1074) pos') (.finite .positive (2 ^ 52) (c - 52) (by decide)))).unpack ↔ k < m)) :
    Above (x / y) ↔ Scalar.lt z x = true := by
  rw [above_nonzero] at above ⊢
  change Nonzero .positive (Float.Model.pack (UnpackedFloat.div .binary64 (unpacked x) (unpacked y))).unpack ↔ _
  rw [lt_eq, power, bound]
  obtain apart | ⟨m, e, pos', apart⟩ := above.forms
  · rw [apart]
    exact iff_of_true (packed_infinity .positive) rfl
  · obtain ⟨settled, -⟩ := finite_settled apart
    have lowest := settled.least
    have size : m.log2 < c ↔ m < 2 ^ c := Nat.log2_lt pos'.ne'
    rw [apart, lt_finite]
    by_cases fits : -1074 ≤ m.log2 + e - c
    · refine iff_of_true (div_nonzero pos' fits) ?_
      by_contra below
      have short : m.log2 < c := size.mpr (by omega)
      omega
    · have short : m < 2 ^ c := size.mp (by omega)
      have slight : m < 2 ^ 52 := short.trans_le (Nat.pow_le_pow_right (by decide) cut)
      obtain rfl : e = -1074 := settled.full.resolve_left (by omega)
      rw [few m pos' short]
      omega

/-- Half of a double above zero is above zero, but for the least one. -/
theorem half_above (above : Above x) : Above (Scalar.half x) ↔ Scalar.lt (Float.ofBits 1) x = true := by
  refine quotient_above (c := 1) (y := Scalar.ofInt 2) above (by decide) (by decide : 1 < 2 ^ 1) rfl rfl fun m pos short => ?_
  obtain rfl : m = 1 := by omega
  have vanishes : UnpackedFloat.div .binary64 (.finite .positive 1 (-1074) pos)
    (.finite .positive (2 ^ 52) ((1 : Nat) - 52) (by decide)) = .zero .positive := by rfl
  rw [vanishes]
  exact iff_of_false packed_zero (by omega)

/-- A quarter of a double above zero is above zero, but for the least two. -/
theorem quarter_above (above : Above x) : Above (x / Scalar.ofInt 4) ↔ Scalar.lt (Float.ofBits 2) x = true := by
  refine quotient_above (c := 2) above (by decide) (by decide : 2 < 2 ^ 2) rfl rfl fun m pos short => ?_
  -- three quarters of the least double are nearer to it than to zero, and a half is as near to both
  rcases (by omega : m = 1 ∨ m = 2 ∨ m = 3) with rfl | rfl | rfl
  · have vanishes : UnpackedFloat.div .binary64 (.finite .positive 1 (-1074) pos)
      (.finite .positive (2 ^ 52) ((2 : Nat) - 52) (by decide)) = .zero .positive := by rfl
    rw [vanishes]
    exact iff_of_false packed_zero (by omega)
  · have vanishes : UnpackedFloat.div .binary64 (.finite .positive 2 (-1074) pos)
      (.finite .positive (2 ^ 52) ((2 : Nat) - 52) (by decide)) = .zero .positive := by rfl
    rw [vanishes]
    exact iff_of_false packed_zero (by omega)
  · have up : UnpackedFloat.div .binary64 (.finite .positive 3 (-1074) pos)
      (.finite .positive (2 ^ 52) ((2 : Nat) - 52) (by decide)) = .finite .positive 1 (-1074) (by decide) := by rfl
    rw [up]
    exact iff_of_true (packed_nonzero .positive ⟨by decide, by decide, .inr rfl⟩) (by omega)

/-! ### Numbers that are given -/

theorem ofNat_above (some_ : 0 < n) : Above (Float.ofNat n) := by
  rw [above_nonzero]
  by_cases short : n < 2 ^ 53
  · have converted : Nonzero .positive (unpacked n.toUInt64.toFloat) := by
      rw [toFloat_unpacked short]
      exact (normalize_above (by decide)).mpr (Int.natCast_pos.mpr some_)
    rw [ofNat_product short]
    change Nonzero .positive (Float.Model.pack (UnpackedFloat.mul .binary64 (unpacked n.toUInt64.toFloat) (unpacked (Float.ofBits 0x3FF0000000000000)))).unpack
    rw [unit_unpacked]
    obtain apart | ⟨m, e, pos, apart⟩ := converted.forms
    · rw [apart]
      exact packed_infinity .positive
    · obtain ⟨settled, -⟩ := finite_settled apart
      have one : Settled (2 ^ 52) (-52) := ⟨by decide, by decide, .inl (le_refl _)⟩
      have bits := log2_shift pos.ne' 52
      have least := settled.least
      rw [Nat.shiftLeft_eq] at bits
      rw [apart]
      exact rounded_nonzero .positive (by omega) (product_bits pos (by decide) settled one).1 (by omega)
  · have bits := log2_shift some_.ne' 53
    have long : Float.ofNat n = Float.ofModel (Float.Model.ofScientific n 0) := by
      change Float.ofScientific n false 0 = _
      rw [Float.ofScientific, dif_neg fun fits => short fits.1]
      rfl
    have product : UnpackedFloat.ofScientific .binary64 n 0 = roundWithAccuracy .binary64 .positive (n <<< 53 * 10 ^ 0) (-53 + 0) .exact := by
      have near : ¬ (0 : Int) < -(2 ^ 11 + n.log2) := by omega
      rw [UnpackedFloat.ofScientific, dif_neg some_.ne', if_neg (by decide), if_neg near, if_pos (le_refl 0)]
      rfl
    rw [long]
    change Nonzero .positive (Float.Model.pack (UnpackedFloat.ofScientific .binary64 n 0)).unpack
    rw [product, Nat.pow_zero, Nat.mul_one]
    exact rounded_nonzero .positive (Nat.shiftLeft_pos_iff.mpr some_).ne' (.inl (by omega)) (by omega)

theorem toScalar_above {given : Number Float} (positive : given.isPositive = true) (converted : given.toScalar = .ok x) : Above x := by
  cases given with
  | real y =>
    cases converted
    exact positive
  | int i =>
    have some_ : 0 < i := of_decide_eq_true positive
    obtain ⟨n, rfl⟩ := Int.eq_ofNat_of_zero_le some_.le
    change (Scalar.convert (n : Int) : Except Failure Float) = .ok x at converted
    by_cases great : Double.integerLimit ≤ (n : Int).natAbs
    · rw [convert_tooGreat great] at converted
      cases converted
    · rw [convert_near (Nat.lt_of_not_le great)] at converted
      rw [← Except.ok.inj converted]
      exact ofNat_above (Int.natCast_pos.mp some_)

end Lindenmayer.Signs
