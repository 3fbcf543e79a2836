import Lindenmayer.Scalar.Double

/-!
Numbers that count as one. Doubles compare as equal if they are one or both zeros (`beq_unpacked`), so what
is equal to an equal one is equal. `Like` holds between numbers that are one, no number included, or that
compare as equal, and is as transitive as the comparison is.
-/
namespace Lindenmayer.Comparing
open Float.Model

/-- Numbers that are compared as numbers are: what is equal to an equal one is equal. -/
class LawfulScalar (K : Type) [Scalar K] : Prop where
  same_trans : ∀ a b c : K, Scalar.same a b = true → Scalar.same b c = true → Scalar.same a c = true

/-- Numbers that are one or compare as equal. -/
def Like {K : Type} [Scalar K] (a b : K) : Prop := a = b ∨ Scalar.same a b = true

theorem Like.refl {K : Type} [Scalar K] (a : K) : Like a a := .inl rfl

theorem Like.trans {K : Type} [Scalar K] [LawfulScalar K] {a b c : K} (first : Like a b) (second : Like b c) : Like a c := by
  rcases first with rfl | first
  · exact second
  · rcases second with rfl | second
    · exact .inr first
    · exact .inr (LawfulScalar.same_trans a b c first second)

/-! ### Doubles -/

private theorem finite_equal {e f : Int} {m n : Nat} (equal : (compare e f).then (compare m n) = .eq) : e = f ∧ m = n := by
  obtain ⟨exponents, mantissas⟩ := Ordering.then_eq_eq.mp equal
  exact ⟨Std.LawfulEqOrd.eq_of_compare exponents, Std.LawfulEqOrd.eq_of_compare mantissas⟩

/-- Equal doubles are one, or zeros of any sign. -/
theorem beq_unpacked {a b : UnpackedFloat} (same : a.beq b = true) : (∃ s t, a = .zero s ∧ b = .zero t) ∨ a = b := by
  have equal : a.compare b = some .eq := eq_of_beq same
  cases a with
  | notANumber => cases equal
  | zero s =>
    cases b with
    | zero t => exact .inl ⟨s, t, rfl, rfl⟩
    | notANumber => cases equal
    | infinity t | finite t => cases t <;> cases equal
  | infinity s =>
    cases b with
    | infinity t =>
      have sign : s = t := by cases s <;> cases t <;> first | rfl | cases equal
      exact .inr (sign ▸ rfl)
    | _ => cases s <;> cases equal
  | finite s m e pos =>
    cases b with
    | finite t n f pos' =>
      have parts : s = t ∧ e = f ∧ m = n := by
        cases s <;> cases t
        · exact ⟨rfl, finite_equal (Ordering.swap_eq_eq.mp (Option.some_inj.mp equal))⟩
        · cases equal
        · cases equal
        · exact ⟨rfl, finite_equal (Option.some_inj.mp equal)⟩
      obtain ⟨rfl, rfl, rfl⟩ := parts
      exact .inr rfl
    | notANumber => cases s <;> cases equal
    | infinity t => cases t <;> cases s <;> cases equal
    | zero t => cases s <;> cases equal

instance : LawfulScalar Float where
  same_trans a b c first second := by
    have one : a.toModel.unpack.beq b.toModel.unpack = true := first
    have two : b.toModel.unpack.beq c.toModel.unpack = true := second
    change a.toModel.unpack.beq c.toModel.unpack = true
    rcases beq_unpacked one with ⟨s, t, zeroFirst, zeroSecond⟩ | equal
    · rcases beq_unpacked two with ⟨_, u, _, zeroThird⟩ | equal
      · rw [zeroFirst, zeroThird]
        rfl
      · rwa [← equal]
    · rwa [equal]

end Lindenmayer.Comparing
