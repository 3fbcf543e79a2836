import Mathlib.Algebra.Order.Field.Power
import Mathlib.Tactic.Linarith
import Mathlib.Tactic.Ring
import Lindenmayer.Proofs.Doubles

/-!
Sizes of doubles as rational numbers. What a number is rounded to depends on the number, not on the mantissa and
the exponent that it is given with (`round_congr`), and is at most what any double above the number is
(`rounded_le`). So what is computed from doubles is at most what the exact result is, where that is a double.
-/
namespace Lindenmayer.Magnitudes
open Float.Model UnpackedFloat Rounding Doubles

/-- The number of a mantissa and an exponent. -/
def scaled (m : Nat) (e : Int) : ℚ := m * 2 ^ e

/-- The size of a finite number, zero of what is none. -/
def magnitude : UnpackedFloat → ℚ
  | .finite _ m e _ => scaled m e
  | _ => 0

variable {m n : Nat} {e f t : Int}

theorem scaled_nonneg (m : Nat) (e : Int) : 0 ≤ scaled m e := mul_nonneg (Nat.cast_nonneg m) (zpow_nonneg zero_le_two e)

@[simp] theorem scaled_zero (e : Int) : scaled 0 e = 0 := by rw [scaled, Nat.cast_zero, zero_mul]

theorem magnitude_nonneg (u : UnpackedFloat) : 0 ≤ magnitude u := by
  cases u with
  | finite s m e pos => exact scaled_nonneg m e
  | zero | infinity | notANumber => exact le_refl 0

theorem scaled_pos (e : Int) (pos : 0 < m) : 0 < scaled m e := mul_pos (Nat.cast_pos.mpr pos) (zpow_pos zero_lt_two e)

theorem scaled_shift (m n : Nat) (e : Int) : scaled (m <<< n) e = scaled m (e + n) := by
  rw [scaled, scaled, Nat.shiftLeft_eq, zpow_add₀ two_ne_zero, zpow_natCast]
  push_cast
  ring

theorem scaled_le : scaled m e ≤ scaled n e ↔ m ≤ n :=
  (mul_le_mul_iff_of_pos_right (zpow_pos zero_lt_two e)).trans Nat.cast_le

theorem scaled_lt : scaled m e < scaled n e ↔ m < n :=
  (mul_lt_mul_iff_of_pos_right (zpow_pos zero_lt_two e)).trans Nat.cast_lt

theorem scaled_inj : scaled m e = scaled n e ↔ m = n :=
  (mul_left_inj' (zpow_ne_zero e two_ne_zero)).trans Nat.cast_inj

theorem pow_le_scaled (pos : m ≠ 0) (e : Int) : (2 : ℚ) ^ (m.log2 + e) ≤ scaled m e := by
  rw [zpow_add₀ two_ne_zero, zpow_natCast, scaled]
  exact mul_le_mul_of_nonneg_right (by exact_mod_cast Nat.log2_self_le pos) (zpow_nonneg zero_le_two e)

theorem scaled_lt_pow {k : Nat} (short : m < 2 ^ k) (e : Int) : scaled m e < 2 ^ (k + e) := by
  rw [zpow_add₀ two_ne_zero, zpow_natCast, scaled]
  exact mul_lt_mul_of_pos_right (by exact_mod_cast short) (zpow_pos zero_lt_two e)

/-! ### Shifts -/

theorem shift_add (em : ExtendedMantissa) (j k : Nat) : em >>> (j + k) = em >>> j >>> k := by
  induction k with
  | zero => rfl
  | succ k ih =>
    change (em >>> (j + k)).shiftRightOne = (em >>> j >>> k).shiftRightOne
    rw [ih]

/-- A mantissa of which nothing was lost. -/
def whole (m : Nat) : ExtendedMantissa := ⟨m, false, false⟩

/-- Zeros are shifted out without a trace. -/
theorem shift_zeros (m n : Nat) : whole (m <<< n) >>> n = whole m := by
  induction n generalizing m with
  | zero => rfl
  | succ n ih =>
    have doubled : m <<< (n + 1) = (2 * m) <<< n := by
      rw [Nat.shiftLeft_eq, Nat.shiftLeft_eq, Nat.pow_succ]
      ring
    rw [shift_add, doubled, ih]
    change (⟨2 * m / 2, 2 * m % 2 != 0, false⟩ : ExtendedMantissa) = _
    rw [Nat.mul_div_cancel_left m two_pos, Nat.mul_mod_right]
    rfl

/-- A mantissa brought to an exponent, with what is lost. -/
def aligned (m : Nat) (e t : Int) : ExtendedMantissa := whole (m <<< (e - t).toNat) >>> (t - e).toNat

theorem aligned_shift (m n : Nat) (e t : Int) : aligned (m <<< n) e t = aligned m (e + n) t := by
  rw [aligned, aligned, ← Nat.shiftLeft_add]
  rcases le_total t e with above | below
  · have none_ : (t - e).toNat = (t - (e + n)).toNat := by omega
    have left : n + (e - t).toNat = (e + n - t).toNat := by omega
    rw [none_, left]
  · have low : n + (e - t).toNat = n := by omega
    rw [low]
    rcases le_total n (t - e).toNat with few | many
    · have none_ : (e + n - t).toNat = 0 := by omega
      have right : (t - e).toNat = n + (t - (e + n)).toNat := by omega
      rw [none_, right, shift_add, shift_zeros]
      rfl
    · have none_ : (t - (e + n)).toNat = 0 := by omega
      have left : n = (e + n - t).toNat + (t - e).toNat := by omega
      rw [none_, left, Nat.shiftLeft_add, shift_zeros, ← left]
      rfl

/-! ### Rounding -/

/-- The number of a mantissa that was rounded, which is shifted once more if it has become too long. -/
def settle (s : Sign) (m : Nat) (t : Int) : UnpackedFloat :=
  let last := shiftToTargetExponent .binary64 m t .exact
  if zero : last.1.mantissa = 0 then .zero s else .finite s last.1.mantissa last.2 (Nat.pos_of_ne_zero zero)

theorem roundWithAccuracy_settle (s : Sign) (m : Nat) (e : Int) (a : Accuracy) : roundWithAccuracy .binary64 s m e a =
    settle s (shiftToTargetExponent .binary64 m e a).1.roundedMantissa (shiftToTargetExponent .binary64 m e a).2 := rfl

theorem round_settle (s : Sign) (pos : m ≠ 0) (aimed : max (m.log2 + e - 52) (-1074) = t) :
    UnpackedFloat.round .binary64 s m e = settle s (aligned m e t).roundedMantissa t := by
  have bits := log2_shift pos (e - t).toNat
  rw [UnpackedFloat.round, targetExponent_eq, aimed, decreaseExponent]
  dsimp only
  rw [roundWithAccuracy_settle, shiftToTargetExponent, targetExponent_eq, shiftToExponent]
  have same : max ((m <<< (e - t).toNat).log2 + (e - (e - t).toNat) - 52) (-1074) = t := by omega
  rw [same, aligned]
  have right : (t - (e - (e - t).toNat)).toNat = (t - e).toNat := by omega
  have reached : e - ((e - t).toNat : Int) + ((t - e).toNat : Int) = t := by omega
  dsimp only
  rw [right, reached]
  rfl

theorem round_shift (s : Sign) (pos : m ≠ 0) (n : Nat) (e : Int) :
    UnpackedFloat.round .binary64 s (m <<< n) e = UnpackedFloat.round .binary64 s m (e + n) := by
  have bits := log2_shift pos n
  have longer : m <<< n ≠ 0 := (Nat.shiftLeft_pos_iff.mpr (Nat.pos_of_ne_zero pos)).ne'
  rw [round_settle s pos rfl, round_settle s longer rfl, aligned_shift]
  have same : max ((m <<< n).log2 + e - 52) (-1074) = max (m.log2 + (e + n) - 52) (-1074) := by omega
  rw [same]

/-- Mantissas and exponents of one number are rounded to one number. -/
theorem round_congr (s : Sign) (pos : m ≠ 0) (same : scaled m e = scaled n f) :
    UnpackedFloat.round .binary64 s m e = UnpackedFloat.round .binary64 s n f := by
  have other : n ≠ 0 := by
    rintro rfl
    have some_ := scaled_pos e (Nat.pos_of_ne_zero pos)
    rw [same, scaled_zero] at some_
    exact lt_irrefl 0 some_
  -- the number with the larger exponent is brought down to the other's, where their mantissas are one
  rcases le_total e f with below | above
  · have up : e + ((f - e).toNat : Int) = f := by omega
    rw [← up, ← scaled_shift, scaled_inj] at same
    rw [same, round_shift s other, up]
  · have up : f + ((e - f).toNat : Int) = e := by omega
    rw [← up, ← scaled_shift, scaled_inj] at same
    rw [← same, round_shift s pos, up]

/-- A settled number is rounded to itself. -/
theorem round_settled (s : Sign) (pos : 0 < m) (settled : Settled m e) : UnpackedFloat.round .binary64 s m e = .finite s m e pos := by
  obtain ⟨short, least, full⟩ := settled
  obtain ⟨t, pos', rounded, ⟨short', least', -⟩, le⟩ := round_exact s pos short least
  obtain rfl : t = e := by
    rcases full with full | lowest
    · have bits := log2_shift pos.ne' (e - t).toNat
      have long := log2_full full short
      have low := log2_short short'
      omega
    · omega
  have none_ : (t - t).toNat = 0 := by omega
  rw [rounded]
  congr 1
  rw [none_]
  rfl

/-- A number has one settled form. -/
theorem settled_unique (s : Sign) {pos : 0 < m} {pos' : 0 < n} (first : Settled m e) (second : Settled n f) (same : scaled m e = scaled n f) :
    UnpackedFloat.finite s m e pos = .finite s n f pos' := by
  rw [← round_settled s pos first, ← round_settled s pos' second, round_congr s pos.ne' same]

theorem rounded_round (s : Sign) (fits : 52 ≤ m.log2 ∨ e ≤ -1074) :
    roundWithAccuracy .binary64 s m e .exact = UnpackedFloat.round .binary64 s m e := by
  have none_ : (e - max (m.log2 + e - 52) (-1074)).toNat = 0 := by omega
  rw [UnpackedFloat.round, targetExponent_eq, decreaseExponent, none_]
  dsimp only
  rw [Nat.shiftLeft_zero, Int.natCast_zero, Int.sub_zero]

/-- A number is kept when it is multiplied by one. -/
theorem mul_unit {k : Nat} {u : UnpackedFloat} (within : Within .positive k u) :
    UnpackedFloat.mul .binary64 u (.finite .positive (2 ^ 52) (-52) (by decide)) = u := by
  obtain rfl | ⟨m, e, pos, rfl, settled, -⟩ := within.forms
  · rfl
  · have one : Settled (2 ^ 52) (-52) := ⟨by decide, by decide, .inl (le_refl _)⟩
    have same : scaled (m * 2 ^ 52) (e + -52) = scaled m e := by
      rw [← Nat.shiftLeft_eq, scaled_shift]
      congr 1
      omega
    change roundWithAccuracy .binary64 .positive (m * 2 ^ 52) (e + -52) .exact = _
    rw [rounded_round _ (product_bits pos (by decide) settled one).1, round_congr _ (by omega) same, round_settled _ pos settled]

theorem settle_magnitude (s : Sign) (le : m ≤ 2 ^ 53) (least : -1074 ≤ t) : magnitude (settle s m t) = scaled m t := by
  have last : magnitude (settle s m t) =
      scaled (shiftToTargetExponent .binary64 m t .exact).1.mantissa (shiftToTargetExponent .binary64 m t .exact).2 := by
    rw [settle]
    by_cases zero : (shiftToTargetExponent .binary64 m t .exact).1.mantissa = 0
    · rw [dif_pos zero, zero, scaled_zero]
      rfl
    · rw [dif_neg zero]
      rfl
  rw [last]
  rcases le.lt_or_eq with fitting | rfl
  · rw [shift_settled fitting least]
  · obtain ⟨kept, more⟩ := shift_carried least
    rw [kept, more]
    exact (scaled_shift (2 ^ 52) 1 t).symm

/-- What is rounded is at most what any double above it is. -/
theorem rounded_le (s : Sign) {a : Accuracy} (fits : 52 ≤ m.log2 ∨ e ≤ -1074) (short : n < 2 ^ 53) (least : -1074 ≤ f)
    (le : scaled m e ≤ scaled n f) (reached : scaled m e = scaled n f → a = .exact) :
    magnitude (roundWithAccuracy .binary64 s m e a) ≤ scaled n f := by
  rw [roundWithAccuracy_settle]
  have exponent := shiftToTargetExponent_exponent m e a
  have mantissa := shiftToTargetExponent_mantissa m e a
  have short' := shifted_short m e a
  have near := roundedMantissa_between (shiftToTargetExponent .binary64 m e a).1
  rw [settle_magnitude s (by omega) (by omega)]
  generalize aimed : max (m.log2 + e - 52) (-1074) = t at exponent mantissa
  have same : (shiftToTargetExponent .binary64 m e a).2 = t := by omega
  rw [same]
  rcases le_or_gt t f with low | high
  · -- the bound is a multiple of the last place, so rounding up reaches it at most
    have up : t + ((f - t).toNat : Int) = f := by omega
    have down : e + ((t - e).toNat : Int) = t := by omega
    rw [← up, ← scaled_shift] at le reached ⊢
    generalize n <<< (f - t).toNat = bound at le reached ⊢
    refine scaled_le.mpr ?_
    rw [← down, ← scaled_shift] at le reached
    rcases (scaled_le.mp le).eq_or_lt with equal | less
    · obtain rfl := reached (congrArg (scaled · e) equal)
      have kept : (shiftToTargetExponent .binary64 m e .exact).1 = whole bound := by
        rw [shiftToTargetExponent, targetExponent_eq, aimed, shiftToExponent, equal]
        exact shift_zeros bound _
      rw [kept]
      exact le_refl bound
    · rw [Nat.shiftLeft_eq] at less
      have floor := (Nat.div_lt_iff_lt_mul (Nat.two_pow_pos (t - e).toNat)).mpr less
      omega
  · -- the last place is above that of the bound, and so is the number
    have some_ : m ≠ 0 := by
      rintro rfl
      rw [Nat.log2_zero] at fits aimed
      omega
    have long : (53 : Nat) + f ≤ m.log2 + e := by omega
    have above := (zpow_le_zpow_right₀ one_le_two long).trans (pow_le_scaled some_ e)
    exact absurd (le.trans_lt (scaled_lt_pow short f)) above.not_gt

theorem round_le (s : Sign) (pos : m ≠ 0) (short : n < 2 ^ 53) (least : -1074 ≤ f) (le : scaled m e ≤ scaled n f) :
    magnitude (UnpackedFloat.round .binary64 s m e) ≤ scaled n f := by
  rw [UnpackedFloat.round, targetExponent_eq, decreaseExponent]
  dsimp only
  generalize shifted : (e - max (m.log2 + e - 52) (-1074)).toNat = k
  have longer := log2_shift pos k
  refine rounded_le s (by omega) short least ?_ fun _ => rfl
  rwa [scaled_shift, sub_add_cancel]

theorem normalize_le {M : Nat} (short : n < 2 ^ 53) (least : -1074 ≤ f) (le : scaled M e ≤ scaled n f) :
    magnitude (UnpackedFloat.normalize .binary64 M e .positive) ≤ scaled n f := by
  rcases Nat.eq_zero_or_pos M with rfl | pos
  · exact scaled_nonneg n f
  · have above : compare (M : Int) 0 = .gt := Std.compare_eq_gt.mpr (by omega)
    rw [UnpackedFloat.normalize, above]
    exact round_le .positive pos.ne' short least le

/-! ### Operations -/

theorem scaled_mul (m n : Nat) (e f : Int) : scaled m e * scaled n f = scaled (m * n) (e + f) := by
  rw [scaled, scaled, scaled, zpow_add₀ two_ne_zero, Nat.cast_mul]
  ring

theorem scaled_add (m n : Nat) (e : Int) : scaled m e + scaled n e = scaled (m + n) e := by
  rw [scaled, scaled, scaled, Nat.cast_add]
  ring

theorem scaled_sub (e : Int) (le : n ≤ m) : scaled m e - scaled n e = scaled (m - n) e := by
  rw [scaled, scaled, scaled, Nat.cast_sub le]
  ring

/-- A mantissa that is brought down to an exponent stands for the same number. -/
theorem scaled_down (m : Nat) (below : t ≤ e) : scaled (m <<< (e - t).toNat) t = scaled m e := by
  rw [scaled_shift]
  congr 1
  omega

variable {s t : Sign} {j k : Nat} {u v : UnpackedFloat}

theorem mul_le (first : Within s j u) (second : Within t k v) (short : n < 2 ^ 53) (least : -1074 ≤ f)
    (le : magnitude u * magnitude v ≤ scaled n f) : magnitude (UnpackedFloat.mul .binary64 u v) ≤ scaled n f := by
  obtain rfl | ⟨m, e, pos, rfl, settled, -⟩ := first.forms
  · obtain rfl | ⟨m', e', pos', rfl, -⟩ := second.forms
    · exact scaled_nonneg n f
    · exact scaled_nonneg n f
  · obtain rfl | ⟨m', e', pos', rfl, settled', -⟩ := second.forms
    · exact scaled_nonneg n f
    · refine rounded_le _ (product_bits pos pos' settled settled').1 short least ?_ fun _ => rfl
      rw [← scaled_mul]
      exact le

theorem add_le (first : Within .positive k u) (second : Within .positive k v) (short : n < 2 ^ 53) (least : -1074 ≤ f)
    (le : magnitude u + magnitude v ≤ scaled n f) :
    Within .positive (k + 2) (UnpackedFloat.add .binary64 u v) ∧ magnitude (UnpackedFloat.add .binary64 u v) ≤ scaled n f := by
  obtain rfl | ⟨m, e, pos, rfl, -, size⟩ := first.forms
  · obtain rfl | ⟨m', e', pos', rfl, -⟩ := second.forms
    · exact ⟨rfl, scaled_nonneg n f⟩
    · exact ⟨second.mono (Nat.le_add_right k 2), (zero_add _).symm.trans_le le⟩
  · obtain rfl | ⟨m', e', pos', rfl, -, size'⟩ := second.forms
    · exact ⟨first.mono (Nat.le_add_right k 2), (add_zero _).symm.trans_le le⟩
    · obtain ⟨r, within, positive⟩ := add_finite_within (s := .positive) (t := .positive) pos pos' size size'
      rw [positive (Int.add_nonneg (Int.natCast_nonneg _) (Int.natCast_nonneg _))] at within
      refine ⟨within, normalize_le (M := m <<< (e - min e e').toNat + m' <<< (e' - min e e').toNat) short least ?_⟩
      rw [← scaled_add, scaled_down m (min_le_left e e'), scaled_down m' (min_le_right e e')]
      exact le

theorem sub_le (first : Within .positive k u) (second : Within .positive k v) (short : n < 2 ^ 53) (least : -1074 ≤ f)
    (less : magnitude v ≤ magnitude u) (le : magnitude u - magnitude v ≤ scaled n f) :
    Within .positive (k + 2) (UnpackedFloat.sub .binary64 u v) ∧ magnitude (UnpackedFloat.sub .binary64 u v) ≤ scaled n f := by
  obtain rfl | ⟨m, e, pos, rfl, settled, size⟩ := first.forms
  · obtain rfl | ⟨m', e', pos', rfl, -⟩ := second.forms
    · exact ⟨rfl, scaled_nonneg n f⟩
    · exact absurd less (scaled_pos e' pos').not_ge
  · obtain rfl | ⟨m', e', pos', rfl, -, size'⟩ := second.forms
    · exact ⟨first.mono (Nat.le_add_right k 2), (sub_zero _).symm.trans_le le⟩
    · obtain ⟨r, within, positive⟩ := sub_finite_within (s := .positive) (t := .positive) pos pos' size size'
      have difference : UnpackedFloat.sub .binary64 (.finite .positive m e pos) (.finite .positive m' e' pos') = UnpackedFloat.normalize .binary64
        ((m <<< (e - min e e').toNat : Nat) - (m' <<< (e' - min e e').toNat : Nat) : Int) (min e e') .positive := rfl
      change 0 ≤ ((m <<< (e - min e e').toNat : Nat) - (m' <<< (e' - min e e').toNat : Nat) : Int) → _ at positive
      change scaled m' e' ≤ scaled m e at less
      change scaled m e - scaled m' e' ≤ scaled n f at le
      rw [← scaled_down m (min_le_left e e'), ← scaled_down m' (min_le_right e e')] at less le
      rw [difference] at within ⊢
      generalize m <<< (e - min e e').toNat = a at *
      generalize m' <<< (e' - min e e').toNat = b at *
      have fewer := scaled_le.mp less
      have gap : (a : Int) - b = ((a - b : Nat) : Int) := by omega
      rw [positive (by omega)] at within
      refine ⟨within, ?_⟩
      rw [gap]
      refine normalize_le short least ?_
      rwa [← scaled_sub _ fewer]

theorem div_le {pos' : 0 < m} (within : Within s k u) (short : n < 2 ^ 53) (least : -1074 ≤ f)
    (le : magnitude u ≤ scaled n f * scaled m e) : magnitude (UnpackedFloat.div .binary64 u (.finite t m e pos')) ≤ scaled n f := by
  obtain rfl | ⟨p, d, pos, rfl, -⟩ := within.forms
  · exact scaled_nonneg n f
  · obtain ⟨shift, rounded, fits, -⟩ := div_rounded s t d e pos pos'
    change scaled p d ≤ _ at le
    have up : d - shift + (shift : Int) = d := by omega
    have down : d - e - shift + e = d - shift := by omega
    have some_ := scaled_pos e pos'
    rw [← up, ← scaled_shift] at le
    have floor : scaled ((p <<< shift) / m) (d - e - shift) * scaled m e ≤ scaled (p <<< shift) (d - shift) := by
      rw [scaled_mul, down]
      exact scaled_le.mpr (Nat.div_mul_le_self _ m)
    rw [rounded]
    refine rounded_le _ fits short least (le_of_mul_le_mul_right (floor.trans le) some_) fun reached => ?_
    -- a quotient that is not less than the bound leaves no remainder
    rw [← reached, scaled_mul, down, scaled_le] at le
    have none_ : (p <<< shift) % m = 0 := by
      have split := Nat.div_add_mod' (p <<< shift) m
      omega
    rw [none_]
    rfl

end Lindenmayer.Magnitudes
