import Lindenmayer.Proofs.Magnitudes

/-!
Doubles that are at most so many halves (`UpTo`), a half being what a channel is rounded with. What is computed from
them is at most what their bounds give: products, sums, quotients and differences that are not below zero. What they
are truncated to, rounded to and written as is bounded as they are (`UpTo.truncated`, `UpTo.rounded`, `UpTo.written`).
-/
namespace Lindenmayer.Halves
open Float.Model UnpackedFloat Rounding Doubles Magnitudes

/-- The size of a double. -/
def size (x : Float) : ℚ := magnitude (unpacked x)

/-- A double without a sign that is at most so many halves. -/
structure UpTo (n : Nat) (x : Float) : Prop where
  within : Within .positive 30 (unpacked x)
  most : size x ≤ scaled n (-1)

/-- A double that is a natural number. -/
structure Counts (n : Nat) (x : Float) : Prop where
  within : Within .positive 30 (unpacked x)
  number : size x = n

variable {a b c n : Nat} {s : Sign} {j k : Nat} {x y : Float}

theorem scaled_halves (n : Nat) : scaled (2 * n) (-1) = n := by
  rw [scaled, Nat.cast_mul, zpow_neg_one]
  push_cast
  ring

theorem scaled_one : scaled 2 (-1) = 1 := (scaled_halves 1).trans Nat.cast_one

theorem Counts.upTo (counts : Counts n x) : UpTo (2 * n) x :=
  ⟨counts.within, (counts.number.trans (scaled_halves n).symm).le⟩

/-- A natural number that is not zero, taken apart. -/
theorem Counts.forms (counts : Counts n x) (pos : 0 < n) : ∃ m e pos', unpacked x = .finite .positive m e pos' ∧ scaled m e = n := by
  have number := counts.number
  obtain zero | ⟨m, e, pos', apart, -⟩ := counts.within.forms
  · rw [size, zero] at number
    exact absurd number (Nat.cast_pos.mpr pos).ne
  · rw [size, apart] at number
    exact ⟨m, e, pos', apart, number⟩

theorem bits_below {m : Nat} {e : Int} (pos : m ≠ 0) (below : scaled m e < 2 ^ k) : m.log2 + 1 + e ≤ k := by
  have low := (pow_le_scaled pos e).trans_lt below
  rw [← zpow_natCast] at low
  have less := (zpow_lt_zpow_iff_right₀ one_lt_two).mp low
  omega

/-- A number is within what it is below. -/
theorem within_below {u : UnpackedFloat} (within : Within s k u) (below : magnitude u < 2 ^ j) : Within s j u := by
  obtain rfl | ⟨m, e, pos, rfl, settled, _⟩ := within.forms
  · rfl
  · exact ⟨rfl, settled, bits_below pos.ne' below⟩

theorem upTo_packed {u : UnpackedFloat} (within : Within .positive k u) (range : k ≤ 1024) (packed : unpacked x = (Float.Model.pack u).unpack)
    (few : n < 2 ^ 31) (most : magnitude u ≤ scaled n (-1)) : UpTo n x := by
  rw [unpack_pack within range] at packed
  have below := most.trans_lt (scaled_lt_pow few (-1))
  refine ⟨?_, ?_⟩
  · rw [packed]
    exact within_below within below
  · rwa [size, packed]

/-! ### Operations -/

theorem UpTo.mul (first : UpTo a x) (second : UpTo b y) (le : a * b ≤ 2 * c) (few : c < 2 ^ 31) : UpTo c (x * y) := by
  refine upTo_packed (mul_within first.within second.within) (by decide) rfl few ?_
  refine mul_le first.within second.within (by omega) (by decide) ?_
  calc size x * size y ≤ scaled a (-1) * scaled b (-1) := mul_le_mul first.most second.most (magnitude_nonneg _) (scaled_nonneg a _)
    _ = scaled (a * b) (-2) := scaled_mul a b (-1) (-1)
    _ ≤ scaled (2 * c) (-2) := scaled_le.mpr le
    _ = scaled (c <<< 1) (-2) := by rw [Nat.shiftLeft_eq, Nat.pow_one, Nat.mul_comm]
    _ = scaled c (-1) := scaled_shift c 1 (-2)

theorem UpTo.add (first : UpTo a x) (second : UpTo b y) (le : a + b ≤ c) (few : c < 2 ^ 31) : UpTo c (x + y) := by
  have sum : size x + size y ≤ scaled c (-1) := by
    refine (add_le_add first.most second.most).trans ?_
    rw [scaled_add]
    exact scaled_le.mpr le
  obtain ⟨within, most⟩ := add_le first.within second.within (by omega) (by decide) sum
  exact upTo_packed within (by decide) rfl few most

theorem UpTo.sub (first : UpTo a x) (second : UpTo b y) (less : size y ≤ size x) (le : size x - size y ≤ scaled c (-1)) (few : c < 2 ^ 31) :
    UpTo c (x - y) := by
  obtain ⟨within, most⟩ := sub_le first.within second.within (by omega) (by decide) less le
  exact upTo_packed within (by decide) rfl few most

/-- A quotient of a double and a natural number. -/
theorem UpTo.div (first : UpTo a x) (second : Counts b y) (pos : 0 < b) (le : a ≤ c * b) (few : c < 2 ^ 31) : UpTo c (x / y) := by
  obtain ⟨m, e, pos', apart, divisor⟩ := second.forms pos
  have one : 0 ≤ m.log2 + e := by
    have above : (1 : ℚ) ≤ scaled m e := divisor ▸ Nat.one_le_cast.mpr pos
    have less := above.trans_lt (scaled_lt_pow Nat.lt_log2_self e)
    rw [← zpow_zero (2 : ℚ)] at less
    have less := (zpow_lt_zpow_iff_right₀ one_lt_two).mp less
    omega
  have within : Within .positive 31 (UnpackedFloat.div .binary64 (unpacked x) (.finite .positive m e pos')) := div_within first.within pos' one
  refine upTo_packed within (by decide) ?_ few ?_
  · change (Float.Model.pack (UnpackedFloat.div .binary64 (unpacked x) (unpacked y))).unpack = _
    rw [apart]
  · refine div_le first.within (by omega) (by decide) (first.most.trans ?_)
    calc scaled a (-1) ≤ scaled (c * b) (-1) := scaled_le.mpr le
      _ = scaled c (-1) * b := by rw [scaled, scaled, Nat.cast_mul]; ring
      _ = scaled c (-1) * scaled m e := congrArg _ divisor.symm

/-! ### Natural numbers -/

theorem counts_toFloat (small : n < 2 ^ 25) : Counts n n.toUInt64.toFloat := by
  rcases Nat.eq_zero_or_pos n with rfl | pos
  · exact ⟨rfl, Nat.cast_zero.symm⟩
  · have above : compare (n : Int) 0 = .gt := Std.compare_eq_gt.mpr (by omega)
    obtain ⟨t, pos', rounded, settled, le⟩ := round_exact .positive pos (by omega) (by decide : -1074 ≤ (0 : Int))
    have apart : unpacked n.toUInt64.toFloat = .finite .positive (n <<< (0 - t).toNat) t pos' := by
      rw [toFloat_unpacked (by omega), UnpackedFloat.normalize, above]
      dsimp only
      rw [Int.toNat_natCast, rounded, unpack_pack_finite .positive pos' settled (by omega)]
    have number : scaled (n <<< (0 - t).toNat) t = n := by
      rw [scaled_down n le, scaled, zpow_zero]
      exact mul_one (n : ℚ)
    have below : scaled (n <<< (0 - t).toNat) t < 2 ^ 30 := by
      rw [number]
      exact_mod_cast small.trans (by decide)
    refine ⟨?_, ?_⟩
    · rw [apart]
      exact ⟨rfl, settled, bits_below pos'.ne' below⟩
    · rw [size, apart]
      exact number

theorem counts_ofInt (n : Nat) (small : n < 2 ^ 25) : Counts n (Scalar.ofInt (n : Int)) := by
  have counts := counts_toFloat small
  have same : unpacked (Scalar.ofInt (n : Int)) = unpacked n.toUInt64.toFloat := by
    change unpacked (Float.ofNat n) = _
    rw [ofNat_product (by omega)]
    change (Float.Model.pack (UnpackedFloat.mul .binary64 (unpacked n.toUInt64.toFloat) (unpacked (Float.ofBits 0x3FF0000000000000)))).unpack = _
    rw [unit_unpacked, mul_unit counts.within, unpack_pack counts.within (by decide)]
  exact ⟨same ▸ counts.within, (congrArg magnitude same).trans counts.number⟩

/-! ### Integer parts and texts -/

theorem numerator_scaled (m : Nat) (e : Int) : (Binary.numerator m e : ℚ) = scaled m e * Binary.denominator e := by
  change ((m * 2 ^ e.toNat : Nat) : ℚ) = m * 2 ^ e * ((2 ^ (-e).toNat : Nat) : ℚ)
  have powers : e + ((-e).toNat : Int) = e.toNat := by omega
  rw [Nat.cast_mul, Nat.cast_pow, Nat.cast_pow, Nat.cast_ofNat, ← zpow_natCast, ← zpow_natCast, mul_assoc, ← zpow_add₀ two_ne_zero, powers]

/-- A double without a sign is read as the fraction that it is. -/
theorem binary_exact (within : Within .positive k (unpacked x)) :
    ∃ m e, Binary.ofFloat x = .finite false m e ∧ (Binary.numerator m e : ℚ) = size x * Binary.denominator e := by
  rw [ofFloat_unpacked, size]
  obtain apart | ⟨m, e, pos, apart, -⟩ := within.forms
  · exact ⟨0, -1074, by rw [apart]; rfl, by rw [numerator_scaled, apart, scaled_zero]; rfl⟩
  · exact ⟨m, e, by rw [apart]; rfl, by rw [numerator_scaled, apart]; rfl⟩

/-- The integer part is the one of the number, and at most what the bound is. -/
theorem UpTo.truncated (upTo : UpTo n x) : ∃ i : Nat, Double.truncate x = .ok i ∧ 2 * i ≤ n ∧ (i : ℚ) ≤ size x ∧ size x < i + 1 := by
  obtain ⟨m, e, stands, fraction⟩ := binary_exact upTo.within
  have some_ : (0 : ℚ) < Binary.denominator e := Nat.cast_pos.mpr (Binary.denominator_pos e)
  have low : ((Binary.numerator m e / Binary.denominator e : Nat) : ℚ) ≤ size x := by
    refine le_of_mul_le_mul_right ?_ some_
    rw [← fraction]
    exact_mod_cast Nat.div_mul_le_self _ _
  have high : size x < (Binary.numerator m e / Binary.denominator e : Nat) + 1 := by
    refine lt_of_mul_lt_mul_right ?_ some_.le
    rw [← fraction]
    exact_mod_cast (Nat.div_lt_iff_lt_mul (Binary.denominator_pos e)).mp (Nat.lt_succ_self _)
  refine ⟨Binary.numerator m e / Binary.denominator e, ?_, ?_, low, high⟩
  · rw [Double.truncate, stands]
    rfl
  · rw [← scaled_le, scaled_halves]
    exact low.trans upTo.most

/-- A fraction below a number is rounded to that number at most. -/
theorem roundDiv_le {num den bound : Nat} (pos : 0 < den) (below : num ≤ bound * den) : Decimal.roundDiv num den ≤ bound := by
  by_contra above
  have up : 2 * (Decimal.roundDiv num den * den) ≤ 2 * num + den := Decimal.roundDiv_mul_le pos
  have more := Nat.mul_le_mul_right den (Nat.lt_of_not_le above)
  rw [Nat.succ_mul] at more
  omega

theorem UpTo.fraction (upTo : UpTo (2 * n) x) : ∃ m e, Binary.ofFloat x = .finite false m e ∧ Binary.numerator m e ≤ n * Binary.denominator e := by
  obtain ⟨m, e, stands, fraction⟩ := binary_exact upTo.within
  refine ⟨m, e, stands, ?_⟩
  have most := mul_le_mul_of_nonneg_right upTo.most (Nat.cast_nonneg (Binary.denominator e))
  rw [← fraction, scaled_halves] at most
  exact_mod_cast most

/-- A double is rounded to an integer below the same bound. -/
theorem UpTo.rounded (upTo : UpTo (2 * n) x) : ∃ i : Nat, Double.round x = .ok i ∧ i ≤ n := by
  obtain ⟨m, e, stands, below⟩ := upTo.fraction
  exact ⟨_, by rw [Double.round, stands]; rfl, roundDiv_le (Binary.denominator_pos e) below⟩

/-- The text of a double is that of a number below the same bound. -/
theorem UpTo.written (upTo : UpTo (2 * n) x) (places : Nat) : ∃ l, Scalar.fixed places x = Decimal.pointed places l ∧ l ≤ n * 10 ^ places := by
  obtain ⟨m, e, stands, below⟩ := upTo.fraction
  refine ⟨Decimal.roundDiv (Binary.numerator m e * Nat.pow 10 places) (Binary.denominator e), ?_, ?_⟩
  · change Decimal.fixedBinary places (Binary.ofFloat x) = _
    rw [stands]
    rfl
  · refine roundDiv_le (Binary.denominator_pos e) ?_
    rw [Nat.mul_right_comm]
    exact Nat.mul_le_mul_right _ below

/-- A number of thousandths is at most what its bound is. -/
theorem upTo_decimal (small : n < 2 ^ 25) (le : n ≤ a * 1000) (few : a < 2 ^ 30) : UpTo (2 * a) (Scalar.decimal n 3) := by
  have thousand : Counts 1000 (Float.ofBits 0x408F400000000000) := by
    refine ⟨?_, ?_⟩
    · rw [thousand_unpacked]
      exact ⟨rfl, ⟨by decide, by decide, .inl (by decide)⟩, by decide +kernel⟩
    · rw [size, thousand_unpacked]
      change scaled (1000 * 2 ^ 43) (-43) = _
      rw [scaled]
      norm_num
  have upTo := (counts_toFloat small).upTo.div (c := 2 * a) thousand (by decide) (by omega) (by omega)
  have same := decimal_quotient (n := n) (by omega)
  exact ⟨same ▸ upTo.within, (congrArg magnitude same).trans_le upTo.most⟩

end Lindenmayer.Halves
