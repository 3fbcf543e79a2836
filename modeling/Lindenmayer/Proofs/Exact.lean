import Mathlib.Algebra.Order.Floor.Ring
import Mathlib.Algebra.Order.Round
import Mathlib.Tactic.Linarith
import Lindenmayer.Decimal.Fixed
import Lindenmayer.Scalar.Basic

/-!
Exact numbers as scalars: the numbers of an ordered field with integer parts, such as the rational or the real
numbers. Nothing is rounded but where a picture asks for whole pixels or decimal places. What a field does not have
is taken from outside (`Outside`): the cosine and sine of a heading, which may be any functions.
-/
namespace Lindenmayer

/-- What exact numbers take from outside. -/
structure Outside (F : Type) where
  cosine : F → Except Failure F
  sine : F → Except Failure F
  /-- What stands for a number above all others. -/
  unbounded : F
  shown : F → List Char

/-- The numbers of a field, with what they take from outside. -/
def Exact (F : Type) (_ : Outside F) : Type := F

namespace Exact

variable {F : Type} {outside : Outside F} [Field F] [LinearOrder F] [IsStrictOrderedRing F] [FloorRing F]

instance : Field (Exact F outside) := inferInstanceAs (Field F)

instance : LinearOrder (Exact F outside) := inferInstanceAs (LinearOrder F)

instance : IsStrictOrderedRing (Exact F outside) := inferInstanceAs (IsStrictOrderedRing F)

instance : FloorRing (Exact F outside) := inferInstanceAs (FloorRing F)

/-- The nearest integer, the even one of two as near. -/
def nearest (x : F) : Int :=
  if 2 * Int.fract x < 1 then ⌊x⌋
  else if 1 < 2 * Int.fract x then ⌊x⌋ + 1
  else if ⌊x⌋ % 2 = 0 then ⌊x⌋ else ⌊x⌋ + 1

instance : Scalar (Exact F outside) where
  ofInt n := (n : Exact F outside)
  convert n := .ok (n : Exact F outside)
  decimal mantissa places := (mantissa : Exact F outside) / 10 ^ places
  unbounded := outside.unbounded
  bounded _ := true
  isNan _ := false
  lt x y := decide (x < y)
  same x y := decide (x = y)
  abs x := |x|
  floorMod x y := x - y * ⌊x / y⌋
  round x := .ok (nearest x)
  truncate x := .ok (if 0 ≤ x then ⌊x⌋ else ⌈x⌉)
  cosDegrees := outside.cosine
  sinDegrees := outside.sine
  fixed places x :=
    let body := Decimal.pointed places (nearest (|x| * 10 ^ places)).toNat
    if x < 0 then '-' :: body else body
  shown := outside.shown

section
variable (x y : Exact F outside)
omit [IsStrictOrderedRing F]

theorem ofInt_exact (n : Int) : (Scalar.ofInt n : Exact F outside) = n := rfl

theorem zero_exact : (Scalar.zero : Exact F outside) = 0 := Int.cast_zero

theorem one_exact : (Scalar.one : Exact F outside) = 1 := Int.cast_one

theorem half_exact : Scalar.half x = x / 2 := congrArg (x / ·) (Int.cast_ofNat 2)

theorem lt_exact : Scalar.lt x y = decide (x < y) := rfl

theorem isZero_exact : Scalar.isZero x = decide (x = 0) := by
  unfold Scalar.isZero
  rw [zero_exact]
  rfl

theorem min_exact : Scalar.min x y = min x y := by
  rw [min_comm, min_def_lt]
  exact if_congr decide_eq_true_iff rfl rfl

theorem max_exact : Scalar.max x y = max x y := by
  rw [max_def_lt]
  exact if_congr decide_eq_true_iff rfl rfl

theorem clampUnit_exact : Scalar.clampUnit x = min (max x 0) 1 := by
  unfold Scalar.clampUnit
  rw [min_exact, max_exact, zero_exact, one_exact]

end

section
variable {x y : Exact F outside}

theorem floorMod_exact {n : Int} (above : 0 ≤ x - y * n) (below : x - y * n < y) : Scalar.floorMod x y = x - y * n := by
  have pos : 0 < y := above.trans_lt below
  have whole : ⌊x / y⌋ = n := by
    rw [Int.floor_eq_iff, le_div_iff₀ pos, div_lt_iff₀ pos]
    constructor
    · linarith
    · linarith
  change x - y * ⌊x / y⌋ = x - y * n
  rw [whole]

omit [IsStrictOrderedRing F] in
theorem truncate_exact (above : 0 ≤ x) : Scalar.truncate x = .ok ⌊x⌋ := congrArg Except.ok (if_pos above)

theorem fixed_exact (places : Nat) (above : 0 ≤ x) :
    Scalar.fixed places x = Decimal.pointed places (nearest (x * 10 ^ places)).toNat := by
  change (if x < 0 then _ else Decimal.pointed places (nearest (|x| * 10 ^ places)).toNat) = _
  rw [if_neg above.not_gt, abs_of_nonneg above]

end

/-! ### Nearest integers -/

section
variable {x : F} {n : Int}

theorem nearest_error (x : F) : |(nearest x : F) - x| ≤ 1 / 2 := by
  have low := Int.fract_nonneg x
  have high := Int.fract_lt_one x
  have parts := Int.floor_add_fract x
  rw [nearest, abs_le]
  split_ifs with below above
  · constructor <;> linarith
  · push_cast
    constructor <;> linarith
  · constructor <;> linarith
  · push_cast
    constructor <;> linarith

theorem nearest_le (le : x ≤ n) : nearest x ≤ n := by
  have error := abs_le.mp (nearest_error x)
  have short : (nearest x : F) < n + 1 := by linarith
  exact Int.lt_add_one_iff.mp (by exact_mod_cast short)

theorem le_nearest (le : n ≤ x) : n ≤ nearest x := by
  have error := abs_le.mp (nearest_error x)
  have short : (n : F) < nearest x + 1 := by linarith
  exact Int.lt_add_one_iff.mp (by exact_mod_cast short)

end

end Exact

end Lindenmayer
