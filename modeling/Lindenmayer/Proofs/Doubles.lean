import Lindenmayer.Proofs.Rounding

/-!
Doubles as the numbers that they stand for. A number that doubles have is packed without a loss
(`unpack_pack`), and a double's bits are read as what it stands for (`ofFloat_unpacked`). From this come what
natural numbers and thousandths are converted to (`ofNat_product`, `decimal_quotient`), and the cases of a remainder
for a positive divisor (`floorMod_zero`, `floorMod_positive`, `floorMod_negative`).
-/
namespace Lindenmayer.Doubles
open Float.Model UnpackedFloat Rounding

/-! ### Bits -/

/-- What a double with these fields stands for. -/
def ofFields (s : Sign) (exponent fraction : Nat) : UnpackedFloat :=
  if exponent = 2047 then if fraction = 0 then .infinity s else .notANumber
  else if exponent = 0 then
    if some_ : 0 < fraction then .finite s fraction (-1074) some_ else .zero s
  else .finite s (2 ^ 52 + fraction) (exponent - 1075) (Nat.add_pos_left (Nat.two_pow_pos 52) fraction)

private theorem finite_congr {s : Sign} {m n : Nat} {e f : Int} {pos : 0 < m} {pos' : 0 < n} (mantissa : m = n) (exponent : e = f) :
    UnpackedFloat.finite s m e pos = .finite s n f pos' := by
  subst mantissa exponent
  rfl

/-- Unpacking reads the three fields. -/
theorem unpack_fields (b : BitVec 64) : UnpackedFloat.unpack .binary64 b =
    ofFields (Sign.ofBitVec (@unpackSign .binary64 b)) (@unpackExponent .binary64 b).toNat (@unpackMantissa .binary64 b).toNat := by
  have ones : @unpackExponent .binary64 b = -1#_ ↔ (@unpackExponent .binary64 b).toNat = 2047 :=
    ⟨fun same => by rw [same]; rfl, fun same => BitVec.eq_of_toNat_eq same⟩
  have zeros : @unpackExponent .binary64 b = 0#_ ↔ (@unpackExponent .binary64 b).toNat = 0 :=
    ⟨fun same => by rw [same]; rfl, fun same => BitVec.eq_of_toNat_eq same⟩
  have nothing : @unpackMantissa .binary64 b = 0#_ ↔ (@unpackMantissa .binary64 b).toNat = 0 :=
    ⟨fun same => by rw [same]; rfl, fun same => BitVec.eq_of_toNat_eq same⟩
  delta UnpackedFloat.unpack
  rw [ofFields]
  dsimp only
  by_cases most : (@unpackExponent .binary64 b).toNat = 2047
  · rw [if_pos most, if_pos (ones.mpr most)]
    by_cases none_ : (@unpackMantissa .binary64 b).toNat = 0
    · rw [if_pos none_, if_pos (nothing.mpr none_)]
    · rw [if_neg none_, if_neg fun same => none_ (nothing.mp same)]
  · rw [if_neg most, if_neg fun same => most (ones.mp same)]
    by_cases least : (@unpackExponent .binary64 b).toNat = 0
    · rw [if_pos least, if_pos (zeros.mpr least)]
      by_cases none_ : (@unpackMantissa .binary64 b).toNat = 0
      · rw [dif_pos (nothing.mpr none_), dif_neg (by omega)]
      · rw [dif_neg fun same => none_ (nothing.mp same), dif_pos (by omega)]
        refine finite_congr rfl ?_
        rw [least]
        rfl
    · rw [if_neg least, if_neg fun same => least (zeros.mp same)]
      refine finite_congr ?_ rfl
      rw [BitVec.toNat_append, ← Nat.shiftLeft_add_eq_or_of_lt (BitVec.isLt _)]
      rfl

private theorem mantissa_bits (b : BitVec 64) : (@unpackMantissa .binary64 b).toNat = b.toNat % 0x10000000000000 := by
  simp [unpackMantissa]

private theorem exponent_bits (b : BitVec 64) : (@unpackExponent .binary64 b).toNat = b.toNat / 0x10000000000000 % 0x800 := by
  simp [unpackExponent, Nat.shiftRight_eq_div_pow]

private theorem sign_bits (b : BitVec 64) : Sign.ofBitVec (@unpackSign .binary64 b) = if 0x8000000000000000 ≤ b.toNat then .negative else .positive := by
  have bit : (@unpackSign .binary64 b).toNat = b.toNat / 0x8000000000000000 % 2 := by
    delta unpackSign
    simp [Nat.shiftRight_eq_div_pow]
  have small := b.isLt
  by_cases negative : 0x8000000000000000 ≤ b.toNat
  · have one : @unpackSign .binary64 b = 1#1 := BitVec.eq_of_toNat_eq (by rw [bit]; change _ = 1; omega)
    rw [if_pos negative, one]
    rfl
  · have zero : @unpackSign .binary64 b = 0#1 := BitVec.eq_of_toNat_eq (by rw [bit]; change _ = 0; omega)
    rw [if_neg negative, zero]
    rfl

/-- The fields of what was packed from them. -/
theorem unpack_components (s : Sign) (e : BitVec 11) (m : BitVec 52) :
    UnpackedFloat.unpack .binary64 (packComponents .binary64 s e m) = ofFields s e.toNat m.toNat := by
  have sign : @unpackSign .binary64 (packComponents .binary64 s e m) = s.toBitVec := by
    have placed : (s.toBitVec ++ e ++ m).getLsbD 63 = s.toBitVec.getLsbD 0 := by
      rw [BitVec.getLsbD_append, BitVec.getLsbD_append]
      rfl
    refine BitVec.eq_of_getLsbD_eq fun i small => ?_
    obtain rfl : i = 0 := by omega
    rw [← placed]
    delta unpackSign packComponents
    rw [BitVec.getLsbD_cast, BitVec.extractLsb, BitVec.getLsbD_extractLsb']
    rfl
  refine (unpack_fields _).trans ?_
  rw [sign, unpackExponent_packComponents, unpackMantissa_packComponents]
  cases s <;> rfl

/-! ### Packing -/

/-- Unpacking gives a settled number back. -/
theorem unpack_pack_finite (s : Sign) {m : Nat} {e : Int} (pos : 0 < m) (settled : Settled m e) (most : e ≤ 971) :
    (Float.Model.pack (.finite s m e pos)).unpack = .finite s m e pos := by
  obtain ⟨short, least, full⟩ := settled
  have biased : (e + (Format.binary64.exponentBias : Int) + (Format.binary64.mantissaBitsWithoutImplicit : Int)).toNat = (e + 1075).toNat := by
    change (e + 1023 + 52).toNat = _
    omega
  change UnpackedFloat.unpack .binary64 (UnpackedFloat.pack .binary64 (.finite s m e pos)) = _
  delta UnpackedFloat.pack
  dsimp only
  rw [biased, if_neg (by omega)]
  by_cases whole : 2 ^ 52 ≤ m
  · have fraction : (BitVec.ofNat 52 m).toNat = m - 2 ^ 52 := by
      rw [BitVec.toNat_ofNat]
      omega
    have exponent : (BitVec.ofNat 11 (e + 1075).toNat).toNat = (e + 1075).toNat := by
      rw [BitVec.toNat_ofNat]
      omega
    rw [if_pos (by rw [log2_full whole short]; rfl)]
    refine (unpack_components s _ _).trans ?_
    rw [exponent, fraction, ofFields, if_neg (by omega), if_neg (by omega)]
    exact finite_congr (by omega) (by omega)
  · obtain rfl := full.resolve_left whole
    have fraction : (BitVec.ofNat 52 m).toNat = m := by
      rw [BitVec.toNat_ofNat]
      omega
    have low : m.log2 < 52 := (Nat.log2_lt (by omega)).mpr (by omega)
    rw [if_neg (by change ¬ m.log2 + 1 = 53; omega)]
    refine (unpack_components s _ _).trans ?_
    rw [fraction, ofFields, if_neg (by decide), if_pos (by decide), dif_pos pos]

theorem unpack_pack {s : Sign} {k : Nat} {u : UnpackedFloat} (within : Within s k u) (small : k ≤ 1024) :
    (Float.Model.pack u).unpack = u := by
  obtain rfl | ⟨m, e, pos, rfl, settled, size⟩ := within.forms
  · cases s <;> rfl
  · refine unpack_pack_finite s pos settled ?_
    rcases settled.full with full | least
    · have long : 52 ≤ m.log2 := (Nat.le_log2 (by omega)).mpr full
      omega
    · omega

/-! ### What a double stands for -/

/-- A double taken apart. -/
def unpacked (x : Float) : UnpackedFloat := x.toModel.unpack

/-- A number that is taken apart, with the sign as a truth value. -/
def toBinary : UnpackedFloat → Binary
  | .notANumber => .nan
  | .infinity s => .infinite (s == .negative)
  | .zero s => .finite (s == .negative) 0 (-1074)
  | .finite s m e _ => .finite (s == .negative) m e

theorem ofFloat_unpacked (x : Float) : Binary.ofFloat x = toBinary (unpacked x) := by
  change Binary.ofBits x.toModel.toBits.toBitVec.toNat = toBinary (UnpackedFloat.unpack .binary64 x.toModel.toBits.toBitVec)
  generalize x.toModel.toBits.toBitVec = b
  have sign : (Sign.ofBitVec (@unpackSign .binary64 b) == .negative) = decide (0x8000000000000000 ≤ b.toNat) := by
    rw [sign_bits]
    by_cases negative : 0x8000000000000000 ≤ b.toNat
    · rw [if_pos negative, decide_eq_true negative]
      rfl
    · rw [if_neg negative, decide_eq_false negative]
      rfl
  rw [unpack_fields, Binary.ofBits, exponent_bits, mantissa_bits, ofFields, ← sign]
  by_cases most : b.toNat / 0x10000000000000 % 0x800 = 2047
  · rw [if_pos most, if_pos most]
    by_cases none_ : b.toNat % 0x10000000000000 = 0
    · rw [if_pos none_, if_pos none_]
      rfl
    · rw [if_neg none_, if_neg none_]
      rfl
  · rw [if_neg most, if_neg most]
    by_cases least : b.toNat / 0x10000000000000 % 0x800 = 0
    · rw [if_pos least, if_pos least]
      by_cases none_ : b.toNat % 0x10000000000000 = 0
      · rw [dif_neg (by omega), none_]
        rfl
      · rw [dif_pos (by omega)]
        rfl
    · rw [if_neg least, if_neg least]
      rfl

/-- A finite double is settled. -/
theorem unpack_finite {x : Float} (finite : x.isFinite = true) : ∃ s, Within s 1024 (unpacked x) := by
  change (UnpackedFloat.unpack .binary64 x.toModel.toBits.toBitVec).isFinite = true at finite
  change ∃ s, Within s 1024 (UnpackedFloat.unpack .binary64 x.toModel.toBits.toBitVec)
  revert finite
  generalize x.toModel.toBits.toBitVec = b
  have fraction : (@unpackMantissa .binary64 b).toNat < 2 ^ 52 := (@unpackMantissa .binary64 b).isLt
  have power : (@unpackExponent .binary64 b).toNat < 2 ^ 11 := (@unpackExponent .binary64 b).isLt
  rw [unpack_fields, ofFields]
  intro finite
  by_cases most : (@unpackExponent .binary64 b).toNat = 2047
  · rw [if_pos most] at finite
    split at finite <;> cases finite
  · rw [if_neg most]
    by_cases least : (@unpackExponent .binary64 b).toNat = 0
    · rw [if_pos least]
      by_cases some_ : 0 < (@unpackMantissa .binary64 b).toNat
      · have short := log2_short (by omega : (@unpackMantissa .binary64 b).toNat < 2 ^ 53)
        rw [dif_pos some_]
        exact ⟨_, rfl, ⟨by omega, by decide, .inr rfl⟩, by omega⟩
      · rw [dif_neg some_]
        exact ⟨_, rfl⟩
    · have short := log2_short (by omega : 2 ^ 52 + (@unpackMantissa .binary64 b).toNat < 2 ^ 53)
      rw [if_neg least]
      exact ⟨_, rfl, ⟨by omega, by omega, .inl (by omega)⟩, by omega⟩

/-! ### Natural numbers -/

theorem toFloat_unpacked {n : Nat} (short : n < 2 ^ 53) :
    unpacked n.toUInt64.toFloat = (Float.Model.pack (UnpackedFloat.normalize .binary64 n 0 .positive)).unpack := by
  have kept : n.toUInt64.toNat = n := by
    rw [UInt64.toNat_ofNat']
    omega
  change (Float.Model.pack (UnpackedFloat.normalize .binary64 (n.toUInt64.toNat : Int) 0 .positive)).unpack = _
  rw [kept]

theorem unit_unpacked : unpacked (Float.ofBits 0x3FF0000000000000) = .finite .positive (2 ^ 52) (-52) (by decide) := by rfl

theorem ofNat_product {n : Nat} (short : n < 2 ^ 53) : Float.ofNat n = n.toUInt64.toFloat * Float.ofBits 0x3FF0000000000000 := by
  change Float.ofScientific n false 0 = _
  rw [Float.ofScientific, dif_pos ⟨short, by decide⟩]
  rfl

/-- A natural number that fits is converted and divided to be one of thousandths. -/
theorem decimal_quotient {n : Nat} (short : n < 2 ^ 53) :
    unpacked (Scalar.decimal n 3) = unpacked (n.toUInt64.toFloat / Float.ofBits 0x408F400000000000) := by
  have digits : (Decimal.digits n).length ≤ 16 := (Nat.length_toDigits_le_iff (by decide) (by decide)).mpr (by omega)
  change unpacked (Decimal.nearestFloat n (-(3 : Nat))) = _
  rw [Decimal.nearestFloat]
  by_cases none_ : n = 0 ∨ ((Decimal.digits n).length : Int) + -(3 : Nat) < -330
  · obtain rfl : n = 0 := by omega
    rw [if_pos none_]
    rfl
  · rw [if_neg none_, if_neg (by omega)]
    change unpacked (Float.ofScientific n true 3) = _
    rw [Float.ofScientific, dif_pos ⟨short, by decide⟩]
    rfl

theorem thousand_unpacked : unpacked (Float.ofBits 0x408F400000000000) = .finite .positive (1000 * 2 ^ 43) (-43) (by decide) := by rfl

theorem convert_tooGreat {n : Int} (great : Double.integerLimit ≤ n.natAbs) :
    (Scalar.convert n : Except Failure Float) = .error .overflow := by
  have converted : (Scalar.convert n : Except Failure Float) = Double.ofInt n := rfl
  rw [converted, Double.ofInt, if_neg (Nat.not_lt.mpr great)]

theorem convert_near {n : Int} (near : n.natAbs < Double.integerLimit) :
    (Scalar.convert n : Except Failure Float) = .ok (Float.ofInt n) := by
  have converted : (Scalar.convert n : Except Failure Float) = Double.ofInt n := rfl
  rw [converted, Double.ofInt, if_pos near]

/-! ### Remainders -/

variable {s t : Sign} {x y : Float}

theorem beq_zero (x : Float) : (x == 0.0) = (unpacked x).beq (.zero .positive) := by rfl

theorem lt_unpacked (x y : Float) : x < y ↔ (unpacked x).lt (unpacked y) = true := by
  change decide (x.toModel < y.toModel) = true ↔ _
  rw [decide_eq_true_iff]
  rfl

theorem finite_settled {n : Nat} {f : Int} {pos : 0 < n} (apart : unpacked y = .finite t n f pos) :
    Settled n f ∧ n.log2 + 1 + f ≤ 1024 := by
  have finite : y.isFinite = true := by
    change (unpacked y).isFinite = true
    rw [apart]
    rfl
  obtain ⟨_, within⟩ := unpack_finite finite
  rw [apart] at within
  exact within.2

/-- The sign of what a truth value says to be negative. -/
def signOf (negative : Bool) : Sign := if negative then .negative else .positive

theorem ofFinite_zero (negative : Bool) {e : Int} (least : -1074 ≤ e) : unpacked (Double.ofFinite negative 0 e) = .zero (signOf negative) := by
  change (Float.Model.pack (UnpackedFloat.round .binary64 (signOf negative) 0 e)).unpack = _
  rw [round_zero _ least]
  exact unpack_pack (k := 0) rfl (by decide)

/-- A number that fits is a double. -/
theorem ofFinite_exact (negative : Bool) {m : Nat} {e : Int} (pos : 0 < m) (short : m < 2 ^ 53) (least : -1074 ≤ e)
    (size : m.log2 + 1 + e ≤ 1024) : ∃ t pos', unpacked (Double.ofFinite negative m e) =
      .finite (signOf negative) (m <<< (e - t).toNat) t pos' ∧ t ≤ e := by
  obtain ⟨t, pos', rounded, settled, le⟩ := round_exact (signOf negative) pos short least
  have bits := log2_shift pos.ne' (e - t).toNat
  refine ⟨t, pos', ?_, le⟩
  change (Float.Model.pack (UnpackedFloat.round .binary64 (signOf negative) m e)).unpack = _
  rw [rounded]
  exact unpack_pack (k := 1024) ⟨rfl, settled, by omega⟩ (Nat.le_refl _)

/-- A remainder of fractions that fit is one that fits. -/
private theorem remainder_fits {m n : Nat} (e f : Int) (pos : 0 < n) (short : m < 2 ^ 53) (short' : n < 2 ^ 53) :
    m * 2 ^ (e - min e f).toNat % (n * 2 ^ (f - min e f).toNat) < 2 ^ 53 := by
  rcases Int.le_total e f with le | le
  · rw [Int.min_eq_left le, Int.sub_self, Int.toNat_zero, Nat.pow_zero, Nat.mul_one]
    exact Nat.lt_of_le_of_lt (Nat.mod_le m _) short
  · rw [Int.min_eq_right le, Int.sub_self, Int.toNat_zero, Nat.pow_zero, Nat.mul_one]
    exact Nat.lt_trans (Nat.mod_lt _ pos) short'

/-- A remainder is computed from mantissas that are brought down to one exponent, and fits. -/
theorem remainder_eq {n : Nat} {f : Int} {pos : 0 < n} (finite : x.isFinite = true) (divisor : unpacked y = .finite .positive n f pos) :
    ∃ negative m e, Binary.ofFloat x = .finite negative m e ∧ -1074 ≤ e ∧
      Double.remainder x y = Double.ofFinite negative (m * 2 ^ (e - min e f).toNat % (n * 2 ^ (f - min e f).toNat)) (min e f) ∧
      m * 2 ^ (e - min e f).toNat % (n * 2 ^ (f - min e f).toNat) < 2 ^ 53 := by
  obtain ⟨settled', -⟩ := finite_settled divisor
  obtain ⟨negative, m, e, stands, short, least⟩ : ∃ negative m e, Binary.ofFloat x = .finite negative m e ∧ m < 2 ^ 53 ∧ -1074 ≤ e := by
    obtain ⟨s, within⟩ := unpack_finite finite
    rw [ofFloat_unpacked]
    generalize unpacked x = u at within
    obtain rfl | ⟨m, e, pos, rfl, settled, _⟩ := within.forms
    · exact ⟨_, 0, -1074, rfl, by decide, Int.le_refl _⟩
    · exact ⟨_, m, e, rfl, settled.short, settled.least⟩
  have stands' : Binary.ofFloat y = .finite false n f := by
    rw [ofFloat_unpacked, divisor]
    rfl
  have some_ : n * 2 ^ (f - min e f).toNat ≠ 0 := Nat.mul_ne_zero pos.ne' (Nat.two_pow_pos _).ne'
  refine ⟨negative, m, e, stands, least, ?_, remainder_fits e f pos short settled'.short⟩
  rw [Double.remainder, stands, stands']
  exact if_neg some_

section
variable {n : Nat} {f : Int} {pos : 0 < n}

private theorem not_below_zero (divisor : unpacked y = .finite .positive n f pos) : ¬ y < 0.0 := by
  rw [lt_unpacked, divisor]
  exact Bool.false_ne_true

/-- A remainder of zero is given without a sign. -/
theorem floorMod_zero (divisor : unpacked y = .finite .positive n f pos) (zero : unpacked (Double.remainder x y) = .zero s) :
    unpacked (Double.floorMod x y) = .zero .positive := by
  have none_ : (Double.remainder x y == 0.0) = true := by
    rw [beq_zero, zero]
    rfl
  rw [Double.floorMod, if_pos none_, if_neg (not_below_zero divisor)]
  rfl

private theorem finite_nonzero {m : Nat} {e : Int} {pos' : 0 < m} (apart : unpacked x = .finite s m e pos') : ¬ (x == 0.0) = true := by
  rw [beq_zero, apart]
  cases s <;> exact Bool.false_ne_true

/-- A remainder above zero is given as it is. -/
theorem floorMod_positive {m : Nat} {e : Int} {pos' : 0 < m} (divisor : unpacked y = .finite .positive n f pos)
    (rest : unpacked (Double.remainder x y) = .finite .positive m e pos') : Double.floorMod x y = Double.remainder x y := by
  have right : ¬ Double.remainder x y < 0.0 := by
    rw [lt_unpacked, rest]
    exact Bool.false_ne_true
  rw [Double.floorMod, if_neg (finite_nonzero rest)]
  simp only [right, not_below_zero divisor, decide_false, bne_self_eq_false, Bool.false_eq_true, ↓reduceIte]

/-- A remainder below zero is brought above it by the divisor. -/
theorem floorMod_negative {m : Nat} {e : Int} {pos' : 0 < m} (divisor : unpacked y = .finite .positive n f pos)
    (rest : unpacked (Double.remainder x y) = .finite .negative m e pos') : Double.floorMod x y = Double.remainder x y + y := by
  have wrong : Double.remainder x y < 0.0 := by
    rw [lt_unpacked, rest]
    rfl
  rw [Double.floorMod, if_neg (finite_nonzero rest)]
  simp only [wrong, not_below_zero divisor, decide_true, decide_false, Bool.true_bne, Bool.not_false, ↓reduceIte]

end

end Lindenmayer.Doubles
