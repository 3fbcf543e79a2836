import Mathlib.Algebra.Order.Group.Nat
import Lindenmayer.Scalar.Double

/-!
Rounding to doubles. A finite number that is rounded is one that doubles have (`Settled`), and is less than
twice as large (`rounded_within`). So sums, differences, products and quotients of numbers that are not
too large stay in the range of doubles (`add_finite_within`, `sub_finite_within`, `mul_within`, `div_within`), and
a number that fits is left as it is (`round_exact`).
-/
namespace Lindenmayer.Rounding
open Float.Model UnpackedFloat

/-- The mantissa and the exponent of a finite double: the mantissa has all its bits, unless the exponent
    is the least. -/
structure Settled (m : Nat) (e : Int) : Prop where
  short : m < 2 ^ 53
  least : -1074 ≤ e
  full : 2 ^ 52 ≤ m ∨ e = -1074

/-- A finite number with a sign, smaller in size than a power of two. -/
def Within (s : Sign) (k : Nat) : UnpackedFloat → Prop
  | .zero t => t = s
  | .finite t m e _ => t = s ∧ Settled m e ∧ m.log2 + 1 + e ≤ k
  | _ => False

/-! ### Numbers of digits -/

theorem log2_full {m : Nat} (full : 2 ^ 52 ≤ m) (short : m < 2 ^ 53) : m.log2 = 52 :=
  (Nat.log2_eq_iff (by omega)).mpr ⟨full, short⟩

theorem log2_short {m : Nat} (short : m < 2 ^ 53) : m.log2 ≤ 52 := by
  by_cases zero : m = 0
  · simp [zero]
  · have low : m.log2 < 53 := (Nat.log2_lt zero).mpr short
    omega

theorem log2_le_log2 {m n : Nat} (le : m ≤ n) : m.log2 ≤ n.log2 := by
  by_cases zero : m = 0
  · rw [zero, Nat.log2_zero]
    exact Nat.zero_le _
  · exact (Nat.le_log2 (by omega)).mpr (Nat.le_trans (Nat.log2_self_le zero) le)

theorem log2_shift {m : Nat} (pos : m ≠ 0) (n : Nat) : (m <<< n).log2 = m.log2 + n := by
  rw [Nat.shiftLeft_eq]
  have some_ : m * 2 ^ n ≠ 0 := Nat.mul_ne_zero pos (Nat.two_pow_pos n).ne'
  refine (Nat.log2_eq_iff some_).mpr ⟨?_, ?_⟩
  · rw [Nat.pow_add]
    exact Nat.mul_le_mul_right _ (Nat.log2_self_le pos)
  · rw [Nat.add_right_comm, Nat.pow_add]
    exact Nat.mul_lt_mul_of_pos_right Nat.lt_log2_self (Nat.two_pow_pos n)

/-! ### Rounding -/

theorem shift_mantissa (em : ExtendedMantissa) (n : Nat) : (em >>> n).mantissa = em.mantissa / 2 ^ n := by
  induction n with
  | zero => simp [HShiftRight.hShiftRight, Nat.repeat]
  | succ n ih =>
    change (em >>> n).mantissa / 2 = _
    rw [ih, Nat.div_div_eq_div_mul, ← Nat.pow_succ]

/-- Rounding goes up by one at most. -/
theorem roundedMantissa_between (em : ExtendedMantissa) :
    em.mantissa ≤ em.roundedMantissa ∧ em.roundedMantissa ≤ em.mantissa + 1 := by
  obtain ⟨m, roundBit, stickyBit⟩ := em
  cases roundBit <;> cases stickyBit
  · exact ⟨Nat.le_refl m, Nat.le_succ m⟩
  · exact ⟨Nat.le_refl m, Nat.le_succ m⟩
  · change m ≤ m + m % 2 ∧ m + m % 2 ≤ m + 1
    omega
  · exact ⟨Nat.le_succ m, Nat.le_refl _⟩

theorem targetExponent_eq (m : Nat) (e : Int) :
    Format.binary64.targetExponent (totalExponent m e) = max (m.log2 + e - 52) (-1074) := by
  change max ((m.log2 : Int) + 1 + e - 53) (3 - 2 ^ 10 - 53) = _
  omega

theorem shiftToTargetExponent_mantissa (m : Nat) (e : Int) (a : Accuracy) :
    (shiftToTargetExponent .binary64 m e a).1.mantissa = m / 2 ^ (max (m.log2 + e - 52) (-1074) - e).toNat := by
  rw [← targetExponent_eq]
  refine (shift_mantissa (.ofMantissaAndAccuracy m a) _).trans ?_
  cases a with
  | exact => rfl
  | inexact o => cases o <;> rfl

theorem shiftToTargetExponent_exponent (m : Nat) (e : Int) (a : Accuracy) :
    (shiftToTargetExponent .binary64 m e a).2 = max e (max (m.log2 + e - 52) (-1074)) := by
  change e + ((Format.binary64.targetExponent (totalExponent m e) - e).toNat : Int) = _
  rw [targetExponent_eq]
  omega

/-- What fits is not shifted. -/
theorem shift_settled {m : Nat} {e : Int} (short : m < 2 ^ 53) (least : -1074 ≤ e) :
    shiftToTargetExponent .binary64 m e .exact = (⟨m, false, false⟩, e) := by
  have low := log2_short short
  have none_ : (max (m.log2 + e - 52) (-1074) - e).toNat = 0 := by omega
  rw [shiftToTargetExponent, targetExponent_eq, shiftToExponent, none_]
  exact congrArg (Prod.mk _) (Int.add_zero e)

/-- What is rounded up to one bit more is shifted once. -/
theorem shift_carried {e : Int} (least : -1074 ≤ e) :
    (shiftToTargetExponent .binary64 (2 ^ 53) e .exact).1.mantissa = 2 ^ 52 ∧
      (shiftToTargetExponent .binary64 (2 ^ 53) e .exact).2 = e + 1 := by
  have one : (max (53 + e - 52) (-1074) - e).toNat = 1 := by omega
  rw [shiftToTargetExponent_mantissa, shiftToTargetExponent_exponent, Nat.log2_two_pow]
  exact ⟨congrArg (2 ^ 53 / 2 ^ ·) one, by omega⟩

theorem shifted_short (m : Nat) (e : Int) (a : Accuracy) : (shiftToTargetExponent .binary64 m e a).1.mantissa < 2 ^ 53 := by
  rw [shiftToTargetExponent_mantissa]
  refine (Nat.div_lt_iff_lt_mul (Nat.two_pow_pos _)).mpr ?_
  rw [← Nat.pow_add]
  exact Nat.lt_of_lt_of_le Nat.lt_log2_self (Nat.pow_le_pow_right (by decide) (by omega))

/-- What is rounded to has the sign, and is at most twice as large. -/
theorem rounded_within {s : Sign} {m : Nat} {e : Int} {a : Accuracy} {k : Nat} (fits : 52 ≤ m.log2 ∨ e ≤ -1074)
    (size : m.log2 + 1 + e ≤ k) : Within s (k + 1) (roundWithAccuracy .binary64 s m e a) := by
  have exponent := shiftToTargetExponent_exponent m e a
  have mantissa := shiftToTargetExponent_mantissa m e a
  have short := shifted_short m e a
  rw [roundWithAccuracy]
  generalize shiftToTargetExponent .binary64 m e a = first at exponent mantissa short
  obtain ⟨em, t⟩ := first
  dsimp only at exponent mantissa short ⊢
  generalize shifted : (max (m.log2 + e - 52) (-1074) - e).toNat = n at mantissa
  have least : -1074 ≤ t := by omega
  have full : 2 ^ 52 ≤ em.mantissa ∨ t = -1074 := by
    by_cases lowest : t = -1074
    · exact .inr lowest
    · left
      have long : 52 + n = m.log2 := by omega
      rw [mantissa]
      refine (Nat.le_div_iff_mul_le (Nat.two_pow_pos n)).mpr ?_
      rw [← Nat.pow_add, long]
      refine Nat.log2_self_le fun zero => ?_
      rw [zero, Nat.log2_zero] at long
      omega
  obtain ⟨low, high⟩ := roundedMantissa_between em
  generalize em.roundedMantissa = r at low high
  by_cases fitting : r < 2 ^ 53
  · rw [shift_settled fitting least]
    dsimp only
    by_cases zero : r = 0
    · rw [dif_pos zero]
      rfl
    · rw [dif_neg zero]
      have short := log2_short fitting
      exact ⟨rfl, ⟨fitting, least, full.imp_left fun full => Nat.le_trans full low⟩, by omega⟩
  · obtain rfl : r = 2 ^ 53 := by omega
    obtain ⟨kept, more⟩ := shift_carried least
    rw [kept, more, dif_neg (by decide)]
    refine ⟨rfl, ⟨by decide, by omega, .inl (Nat.le_refl _)⟩, ?_⟩
    rw [Nat.log2_two_pow]
    omega

theorem Within.forms {s : Sign} {k : Nat} {u : UnpackedFloat} (within : Within s k u) :
    u = .zero s ∨ ∃ m e pos, u = .finite s m e pos ∧ Settled m e ∧ m.log2 + 1 + e ≤ k := by
  cases u with
  | zero t => exact .inl (congrArg UnpackedFloat.zero within)
  | finite t m e pos =>
    obtain ⟨rfl, settled, size⟩ := within
    exact .inr ⟨m, e, pos, rfl, settled, size⟩
  | infinity t => cases within
  | notANumber => cases within

theorem Within.mono {s : Sign} {j k : Nat} {u : UnpackedFloat} (within : Within s j u) (le : j ≤ k) : Within s k u := by
  obtain rfl | ⟨m, e, pos, rfl, settled, size⟩ := within.forms
  · rfl
  · exact ⟨rfl, settled, by omega⟩

theorem round_within {s : Sign} {m : Nat} {e : Int} {k : Nat} (pos : m ≠ 0) (size : m.log2 + 1 + e ≤ k) :
    Within s (k + 1) (UnpackedFloat.round .binary64 s m e) := by
  rw [UnpackedFloat.round, targetExponent_eq, decreaseExponent]
  dsimp only
  generalize shifted : (e - max (m.log2 + e - 52) (-1074)).toNat = n
  have longer := log2_shift pos n
  refine rounded_within ?_ ?_
  · omega
  · omega

/-- A signed mantissa that is rounded. -/
theorem normalize_within {m e : Int} {k : Nat} (size : m.natAbs.log2 + 1 + e ≤ k) :
    ∃ s, Within s (k + 1) (UnpackedFloat.normalize .binary64 m e .positive) ∧ (0 ≤ m → s = .positive) := by
  rcases Int.lt_trichotomy m 0 with negative | rfl | positive
  · have below : compare m 0 = .lt := Std.compare_eq_lt.mpr negative
    refine ⟨.negative, ?_, fun _ => by omega⟩
    rw [UnpackedFloat.normalize, below]
    refine round_within (by omega) ?_
    have same : (-m).toNat = m.natAbs := by omega
    rwa [same]
  · exact ⟨.positive, rfl, fun _ => rfl⟩
  · have above : compare m 0 = .gt := Std.compare_eq_gt.mpr positive
    refine ⟨.positive, ?_, fun _ => rfl⟩
    rw [UnpackedFloat.normalize, above]
    refine round_within (by omega) ?_
    have same : m.toNat = m.natAbs := by omega
    rwa [same]

/-! ### Operations -/

/-- A product of two mantissas fits, and has as many bits as they have together, or one more. -/
theorem product_bits {m n : Nat} {e f : Int} (pos : 0 < m) (pos' : 0 < n) (first : Settled m e) (second : Settled n f) :
    (52 ≤ (m * n).log2 ∨ e + f ≤ -1074) ∧ (m * n).log2 < m.log2 + 1 + (n.log2 + 1) := by
  have low := Nat.mul_le_mul (Nat.log2_self_le pos.ne') (Nat.log2_self_le pos'.ne')
  have high := Nat.mul_lt_mul'' (Nat.lt_log2_self (n := m)) (Nat.lt_log2_self (n := n))
  rw [← Nat.pow_add] at low high
  have some_ : m * n ≠ 0 := Nat.mul_ne_zero pos.ne' pos'.ne'
  have atLeast := (Nat.le_log2 some_).mpr low
  refine ⟨?_, (Nat.log2_lt some_).mpr high⟩
  -- a product of two mantissas fits unless both are the shortest, whose exponents are the least
  rcases first.full with full | least
  · have long := (Nat.le_log2 pos.ne').mpr full
    omega
  · rcases second.full with full | least'
    · have long := (Nat.le_log2 pos'.ne').mpr full
      omega
    · omega

theorem mul_within {s t : Sign} {j k : Nat} {u v : UnpackedFloat} (first : Within s j u) (second : Within t k v) :
    Within (s * t) (j + k + 1) (UnpackedFloat.mul .binary64 u v) := by
  obtain rfl | ⟨m, e, pos, rfl, settled, size⟩ := first.forms
  · obtain rfl | ⟨n, f, pos', rfl, _⟩ := second.forms
    · rfl
    · rfl
  · obtain rfl | ⟨n, f, pos', rfl, settled', size'⟩ := second.forms
    · rfl
    · obtain ⟨fits, below⟩ := product_bits pos pos' settled settled'
      exact rounded_within fits (by omega)

/-- A mantissa that is brought down to an exponent is below the power that its number is below. -/
private theorem aligned_lt {m : Nat} {e low : Int} {k : Nat} (le : low ≤ e) (size : m.log2 + 1 + e ≤ k) :
    m <<< (e - low).toNat < 2 ^ (k - low).toNat := by
  rw [Nat.shiftLeft_eq]
  refine Nat.lt_of_lt_of_le (Nat.mul_lt_mul_of_pos_right Nat.lt_log2_self (Nat.two_pow_pos _)) ?_
  rw [← Nat.pow_add]
  exact Nat.pow_le_pow_right (by decide) (by omega)

/-- A sum or difference of mantissas that are brought down to one exponent. -/
private theorem sum_size {m n : Nat} {e f M : Int} {k : Nat} (first : m.log2 + 1 + e ≤ k) (second : n.log2 + 1 + f ≤ k)
    (sum : M.natAbs ≤ m <<< (e - min e f).toNat + n <<< (f - min e f).toNat) : M.natAbs.log2 + 1 + min e f ≤ (k + 1 : Nat) := by
  by_cases zero : M.natAbs = 0
  · rw [zero, Nat.log2_zero]
    omega
  · have one := aligned_lt (Int.min_le_left e f) first
    have two := aligned_lt (Int.min_le_right e f) second
    have short : M.natAbs < 2 ^ ((k - min e f).toNat + 1) := by
      rw [Nat.pow_succ]
      omega
    have low := (Nat.log2_lt zero).mpr short
    omega

private theorem apply_add_le (s t : Sign) (a b : Nat) : (s.apply a + t.apply b).natAbs ≤ a + b := by
  cases s <;> cases t <;> simp only [Sign.apply] <;> omega

private theorem apply_sub_le (s t : Sign) (a b : Nat) : (s.apply a - t.apply b).natAbs ≤ a + b := by
  cases s <;> cases t <;> simp only [Sign.apply] <;> omega

theorem add_finite_within {s t : Sign} {m n : Nat} {e f : Int} {k : Nat} (pos : 0 < m) (pos' : 0 < n)
    (first : m.log2 + 1 + e ≤ k) (second : n.log2 + 1 + f ≤ k) :
    ∃ r, Within r (k + 2) (UnpackedFloat.add .binary64 (.finite s m e pos) (.finite t n f pos')) ∧
      (0 ≤ s.apply (m <<< (e - min e f).toNat : Nat) + t.apply (n <<< (f - min e f).toNat : Nat) → r = .positive) :=
  normalize_within (sum_size first second (apply_add_le s t _ _))

theorem sub_finite_within {s t : Sign} {m n : Nat} {e f : Int} {k : Nat} (pos : 0 < m) (pos' : 0 < n)
    (first : m.log2 + 1 + e ≤ k) (second : n.log2 + 1 + f ≤ k) :
    ∃ r, Within r (k + 2) (UnpackedFloat.sub .binary64 (.finite s m e pos) (.finite t n f pos')) ∧
      (0 ≤ s.apply (m <<< (e - min e f).toNat : Nat) - t.apply (n <<< (f - min e f).toNat : Nat) → r = .positive) :=
  normalize_within (sum_size first second (apply_sub_le s t _ _))

/-- A quotient of mantissas has all bits that fit, and is no larger than the quotient of the numbers. -/
private theorem quotient_bits {m n : Nat} (shift : Nat) (pos : 0 < m) (pos' : 0 < n) :
    ((m <<< shift) / n ≠ 0 → ((m <<< shift) / n).log2 + n.log2 ≤ m.log2 + shift) ∧
      (53 + n.log2 ≤ m.log2 + shift → 52 ≤ ((m <<< shift) / n).log2) := by
  have some_ : m <<< shift ≠ 0 := (Nat.shiftLeft_pos_iff.mpr pos).ne'
  have bits := log2_shift pos.ne' shift
  constructor
  · intro left
    have low := Nat.mul_le_mul (Nat.log2_self_le left) (Nat.log2_self_le pos'.ne')
    rw [← Nat.pow_add] at low
    have below := Nat.lt_of_le_of_lt (Nat.le_trans low (Nat.div_mul_le_self _ n)) Nat.lt_log2_self
    have short := (Nat.pow_lt_pow_iff_right (by decide)).mp below
    omega
  · intro long
    have full : 2 ^ 52 ≤ (m <<< shift) / n := by
      refine (Nat.le_div_iff_mul_le pos').mpr ?_
      calc 2 ^ 52 * n ≤ 2 ^ 52 * 2 ^ (n.log2 + 1) := Nat.mul_le_mul_left _ Nat.lt_log2_self.le
        _ = 2 ^ (53 + n.log2) := by rw [← Nat.pow_add]; congr 1; omega
        _ ≤ 2 ^ (m <<< shift).log2 := Nat.pow_le_pow_right (by decide) (by omega)
        _ ≤ m <<< shift := Nat.log2_self_le some_
    exact (Nat.le_log2 (by omega)).mpr full

/-- A quotient is rounded from one of mantissas, the first of which is long enough. -/
theorem div_rounded (s t : Sign) {m n : Nat} (e f : Int) (pos : 0 < m) (pos' : 0 < n) : ∃ shift : Nat,
    UnpackedFloat.div .binary64 (.finite s m e pos) (.finite t n f pos') = roundWithAccuracy .binary64 (s / t)
      ((m <<< shift) / n) (e - f - shift) (accuracyOfFraction ((m <<< shift) % n) n) ∧
    (52 ≤ ((m <<< shift) / n).log2 ∨ e - f - shift ≤ -1074) ∧ e - f - shift ≤ max (m.log2 + e - n.log2 - f - 53) (-1074) := by
  have target : Format.binary64.targetExponent (totalExponent m e - totalExponent n f) = max (m.log2 + e - n.log2 - f - 53) (-1074) := by
    change max ((m.log2 : Int) + 1 + e - (n.log2 + 1 + f) - 53) (3 - 2 ^ 10 - 53) = _
    omega
  generalize aimed : max (m.log2 + e - n.log2 - f - 53) (-1074) = low at target ⊢
  obtain ⟨-, long⟩ := quotient_bits (e - f - min (e - f) low).toNat pos pos'
  have reached : e - f - ((e - f - min (e - f) low).toNat : Int) = min (e - f) low := by omega
  refine ⟨(e - f - min (e - f) low).toNat, ?_, ?_, ?_⟩
  · change roundWithAccuracy .binary64 _ ((m <<< (e - f - min (e - f) (Format.binary64.targetExponent _)).toNat) / n)
      (min (e - f) (Format.binary64.targetExponent _)) (accuracyOfFraction ((m <<< (e - f - min (e - f) (Format.binary64.targetExponent _)).toNat) % n) n) = _
    rw [target, reached]
  · omega
  · omega

/-- Dividing by a number that is not below one in size. -/
theorem div_within {s t : Sign} {k n : Nat} {f : Int} {u : UnpackedFloat} (within : Within s k u) (pos' : 0 < n)
    (one : 0 ≤ n.log2 + f) : Within (s / t) (k + 1) (UnpackedFloat.div .binary64 u (.finite t n f pos')) := by
  obtain rfl | ⟨m, e, pos, rfl, settled, size⟩ := within.forms
  · rfl
  · obtain ⟨shift, rounded, fits, low⟩ := div_rounded s t e f pos pos'
    obtain ⟨short, -⟩ := quotient_bits shift pos pos'
    rw [rounded]
    refine rounded_within fits ?_
    by_cases zero : (m <<< shift) / n = 0
    · rw [zero, Nat.log2_zero]
      omega
    · have short := short zero
      omega

/-- A number that fits is rounded to itself. -/
theorem round_exact (s : Sign) {m : Nat} {e : Int} (pos : 0 < m) (short : m < 2 ^ 53) (least : -1074 ≤ e) :
    ∃ t pos', UnpackedFloat.round .binary64 s m e = .finite s (m <<< (e - t).toNat) t pos' ∧
      Settled (m <<< (e - t).toNat) t ∧ t ≤ e := by
  have low := log2_short short
  generalize aimed : max (m.log2 + e - 52) (-1074) = t
  have longer := log2_shift pos.ne' (e - t).toNat
  have some_ : 0 < m <<< (e - t).toNat := Nat.shiftLeft_pos_iff.mpr pos
  have fitting : m <<< (e - t).toNat < 2 ^ 53 := (Nat.log2_lt some_.ne').mp (by omega)
  have same : e - ((e - t).toNat : Int) = t := by omega
  have full : 2 ^ 52 ≤ m <<< (e - t).toNat ∨ t = -1074 := by
    by_cases lowest : t = -1074
    · exact .inr lowest
    · exact .inl ((Nat.le_log2 some_.ne').mp (by omega))
  refine ⟨t, some_, ?_, ⟨fitting, by omega, full⟩, by omega⟩
  rw [UnpackedFloat.round, targetExponent_eq, aimed, decreaseExponent, same]
  dsimp only
  rw [roundWithAccuracy, shift_settled fitting (by omega)]
  dsimp only
  have kept : ExtendedMantissa.roundedMantissa ⟨m <<< (e - t).toNat, false, false⟩ = m <<< (e - t).toNat := rfl
  rw [kept, shift_settled fitting (by omega)]
  exact dif_neg some_.ne'

theorem round_zero (s : Sign) {e : Int} (least : -1074 ≤ e) : UnpackedFloat.round .binary64 s 0 e = .zero s := by
  rw [UnpackedFloat.round, targetExponent_eq, decreaseExponent, Nat.zero_shiftLeft]
  dsimp only
  rw [roundWithAccuracy, shift_settled (by decide) (by omega)]
  dsimp only
  have kept : ExtendedMantissa.roundedMantissa ⟨0, false, false⟩ = 0 := rfl
  rw [kept, shift_settled (by decide) (by omega)]
  rfl

end Lindenmayer.Rounding
