import Mathlib.Data.List.DropRight
import Mathlib.Data.Rat.Floor
import Lindenmayer.Proofs.Exact
import Lindenmayer.Proofs.Reading

/-!
Texts of thousandths. A quotient of natural numbers is rounded as the number that it is (`roundDiv_nearest`), to the
nearest integer or the even one of two (`nearest_rounds`, `Rounds.unique`). Without the zeros at the end of its three
places, and the point if all of them are zeros, the text of a number of thousandths has nothing to spare
(`plain_canonical`) and denotes that number (`amount_places`), and no other such text does (`Canonical.unique`).
-/
namespace Lindenmayer.Decimals
open Exact Reading
open Decimal (roundDiv digits padLeft stripEnd pointed)

/-! ### Nearest integers -/

section
variable {x : ℚ} {m n : Int}

/-- An integer is the nearest to a number, and even if another is as near. -/
def Rounds (x : ℚ) (n : Int) : Prop := |x - n| < 1 / 2 ∨ |x - n| = 1 / 2 ∧ n % 2 = 0

theorem Rounds.error (rounds : Rounds x n) : |x - n| ≤ 1 / 2 := by
  rcases rounds with near | ⟨half, -⟩
  · exact near.le
  · exact half.le

theorem rounds_zero : Rounds x 0 ↔ |x| ≤ 1 / 2 := by
  rw [Rounds, Int.cast_zero, sub_zero, le_iff_lt_or_eq]
  exact or_congr_right (and_iff_left rfl)

theorem Rounds.unique (first : Rounds x m) (second : Rounds x n) : m = n := by
  have apart : |(m : ℚ) - n| ≤ |x - m| + |x - n| := by
    rw [abs_sub_comm x (m : ℚ)]
    exact abs_sub_le _ _ _
  -- two such integers are less than one apart, unless both are as near and even
  by_contra other
  have one : (1 : ℚ) ≤ |(m : ℚ) - n| := by
    rw [← Int.cast_sub, ← Int.cast_abs]
    exact_mod_cast Int.one_le_abs (sub_ne_zero.mpr other)
  rcases first with near | ⟨half, even⟩
  · linarith [second.error]
  · rcases second with near | ⟨half', even'⟩
    · linarith
    · have most : |m - n| ≤ 1 := by
        have most : |(m : ℚ) - n| ≤ 1 := by linarith
        exact_mod_cast most
      have := abs_le.mp most
      omega

theorem nearest_rounds (x : ℚ) : Rounds x (nearest x) := by
  have low := Int.fract_nonneg x
  have high := Int.fract_lt_one x
  have below : |x - ⌊x⌋| = Int.fract x := abs_of_nonneg low
  have above : |x - (⌊x⌋ + 1 : Int)| = 1 - Int.fract x := by
    rw [abs_sub_comm, Int.cast_add, Int.cast_one, add_sub_right_comm, ← neg_sub x, Int.self_sub_floor, neg_add_eq_sub]
    exact abs_of_nonneg (sub_nonneg.mpr high.le)
  rw [nearest]
  split_ifs with less more even
  · rw [Rounds, below]
    exact .inl (by linarith)
  · rw [Rounds, above]
    exact .inl (by linarith)
  · rw [Rounds, below]
    exact .inr ⟨by linarith, even⟩
  · rw [Rounds, above]
    exact .inr ⟨by linarith, by omega⟩

theorem nearest_neg (x : ℚ) : nearest (-x) = -nearest x := by
  have rounds : Rounds (-x) (-nearest x) := by
    have mirrored : |-x - (-nearest x : Int)| = |x - nearest x| := by rw [Int.cast_neg, neg_sub_neg, abs_sub_comm]
    rw [Rounds, mirrored, Int.neg_emod_two]
    exact nearest_rounds x
  exact (nearest_rounds (-x)).unique rounds

end

/-- A quotient is rounded as the number that it is. -/
theorem roundDiv_nearest (num : Nat) {den : Nat} (pos : 0 < den) : nearest ((num : ℚ) / den) = roundDiv num den := by
  have some_ : (0 : ℚ) < den := Nat.cast_pos.mpr pos
  have whole : ⌊(num : ℚ) / den⌋ = (num / den : Nat) := Rat.floor_natCast_div_natCast num den
  have twice : 2 * Int.fract ((num : ℚ) / den) = (2 * (num % den) : Nat) / den := by
    rw [Int.fract_div_natCast_eq_div_natCast_mod, Nat.cast_mul, Nat.cast_ofNat, mul_div_assoc]
  have less : 2 * Int.fract ((num : ℚ) / den) < 1 ↔ 2 * (num % den) < den := by rw [twice, div_lt_one some_, Nat.cast_lt]
  have more : 1 < 2 * Int.fract ((num : ℚ) / den) ↔ den < 2 * (num % den) := by rw [twice, one_lt_div some_, Nat.cast_lt]
  have even : ((num / den : Nat) : Int) % 2 = 0 ↔ num / den % 2 = 0 := by omega
  rw [nearest, whole]
  simp only [roundDiv, less, more, even]
  split_ifs <;> rfl

/-! ### Texts without what can be spared -/

/-- Digits before a point and behind it; no point stands before none. -/
def joined (whole places : List Char) : List Char := if places = [] then whole else whole ++ '.' :: places

/-- Digits with no zero before others. -/
structure Row (ds : List Char) : Prop where
  digits : ∀ c ∈ ds, c.isDigit = true
  some_ : ds ≠ []
  begins : ds.head? = some '0' → ds = ['0']

/-- Digits before a point and behind it with nothing to spare: no zero before others, and none at the end. -/
structure Canonical (whole places : List Char) : Prop where
  row : Row whole
  digits : ∀ c ∈ places, c.isDigit = true
  ends : places.getLast? ≠ some '0'

/-- The number of digits with so many places. -/
def amount (ds : List Char) (places : Nat) : ℚ := Nat.ofDigitChars 10 ds 0 / 10 ^ places

/-- The number that a text of digits denotes, with a point and places or without. -/
def magnitude? (cs : List Char) : Option ℚ :=
  let whole := cs.takeWhile Char.isDigit
  match cs.dropWhile Char.isDigit with
  | [] => if whole = [] then none else some (amount whole 0)
  | '.' :: places =>
    if whole = [] ∨ places = [] ∨ places.all Char.isDigit = false then none else some (amount (whole ++ places) places.length)
  | _ => none

/-- The number that a text denotes, with a minus sign before it or without. -/
def read? : List Char → Option ℚ
  | '-' :: cs => (magnitude? cs).map (-·)
  | cs => magnitude? cs

/-- The places of a number of thousandths, without zeros at the end. -/
def places (n : Nat) : List Char := stripEnd '0' (padLeft 3 (digits (n % 1000)))

/-- The text of a number of thousandths. -/
def plain (n : Nat) : List Char := joined (digits (n / 1000)) (places n)

section
variable {c d : Char} {front back cs whole : List Char} {n : Nat}

/-! ### Ends of texts -/

theorem stripEnd_rdropWhile (c : Char) (cs : List Char) : stripEnd c cs = cs.rdropWhile (· == c) := rfl

theorem stripEnd_behind (other : d ≠ c) (front back : List Char) : stripEnd c (front ++ d :: back) = front ++ d :: stripEnd c back := by
  rw [stripEnd_rdropWhile, stripEnd_rdropWhile]
  induction back using List.reverseRecOn with
  | nil => exact List.rdropWhile_concat_neg _ _ _ (by simpa using other)
  | append_singleton back last ih =>
    rw [← List.cons_append, ← List.append_assoc, List.rdropWhile_concat, List.rdropWhile_concat, ih]
    split_ifs
    · rfl
    · rw [List.append_assoc, List.cons_append]

/-- A text that ends in something else keeps its end. -/
theorem stripEnd_kept (ends : c ∉ cs.getLast?) : stripEnd c cs = cs := by
  refine List.rdropWhile_eq_self_iff.mpr fun some_ last => ends ?_
  rw [List.getLast?_eq_some_getLast some_, beq_iff_eq.mp last]
  rfl

theorem stripEnd_last (c : Char) (cs : List Char) : (stripEnd c cs).getLast? ≠ some c := by
  intro last
  have some_ : stripEnd c cs ≠ [] := fun none_ => by rw [none_] at last; cases last
  refine List.rdropWhile_last_not (· == c) cs some_ (beq_iff_eq.mpr ?_)
  rw [List.getLast?_eq_some_getLast some_] at last
  exact Option.some_inj.mp last

/-- What is taken from the end is one character, some times. -/
theorem stripEnd_append (c : Char) (cs : List Char) : ∃ k, stripEnd c cs ++ List.replicate k c = cs := by
  refine ⟨(cs.rtakeWhile (· == c)).length, ?_⟩
  have same : cs.rtakeWhile (· == c) = List.replicate (cs.rtakeWhile (· == c)).length c :=
    List.eq_replicate_of_mem fun d member => by simpa using List.mem_rtakeWhile_imp member
  rw [stripEnd_rdropWhile, ← same, List.rdropWhile_append_rtakeWhile]

theorem stripEnd_mem (member : d ∈ stripEnd c cs) : d ∈ cs := by
  obtain ⟨k, parts⟩ := stripEnd_append c cs
  exact parts ▸ List.mem_append_left _ member

/-- A point is taken away with the zeros behind it. -/
theorem strip_pointed (whole : '.' ∉ front) (behind : '.' ∉ back) :
    stripEnd '.' (stripEnd '0' (front ++ '.' :: back)) = joined front (stripEnd '0' back) := by
  rw [stripEnd_behind (by decide), joined]
  split_ifs with none_
  · rw [none_, stripEnd_rdropWhile, List.rdropWhile_concat_pos _ _ _ (by rfl)]
    exact stripEnd_kept fun last => whole (List.mem_of_getLast? last)
  · refine stripEnd_kept fun last => behind (stripEnd_mem (c := '0') (List.mem_of_getLast? ?_))
    rwa [List.getLast?_append_of_ne_nil _ (List.cons_ne_nil _ _), List.getLast?_cons_of_ne_nil none_] at last

/-! ### Texts of thousandths -/

theorem places_isDigit (member : c ∈ places n) : c.isDigit = true := padLeft_isDigit (stripEnd_mem member)

theorem places_length (n : Nat) : (places n).length ≤ 3 := by
  rw [← thousandths_length n]
  exact List.IsPrefix.length_le (List.rdropWhile_prefix _ _)

theorem digits_head (n : Nat) : (digits n).head? = some '0' → n = 0 := by
  induction n using Nat.strongRecOn with
  | ind n ih =>
    intro zero
    rcases Nat.lt_or_ge n 10 with less | more
    · have one : ∀ n < 10, n.digitChar = '0' → n = 0 := by decide
      rw [digits, Nat.toDigits_of_lt_base less] at zero
      exact one n less (Option.some_inj.mp zero)
    · rw [digits, Nat.toDigits_of_base_le (by decide) more, List.head?_append_of_ne_nil _ Nat.toDigits_ne_nil] at zero
      have := ih (n / 10) (by omega) zero
      omega

theorem digits_row (n : Nat) : Row (digits n) where
  digits := fun _ member => digits_isDigit member
  some_ := Nat.toDigits_ne_nil
  begins := fun zero => by rw [digits_head n zero]; rfl

theorem plain_canonical (n : Nat) : Canonical (digits (n / 1000)) (places n) where
  row := digits_row _
  digits := fun _ member => places_isDigit member
  ends := stripEnd_last _ _

theorem joined_append (front whole places : List Char) : joined (front ++ whole) places = front ++ joined whole places := by
  rw [joined, joined]
  split_ifs
  · rfl
  · exact List.append_assoc ..

/-- A number of thousandths with what stands before it is written without the places that can be spared. -/
theorem strip_thousandths (pointless : '.' ∉ front) (n : Nat) : stripEnd '.' (stripEnd '0' (front ++ pointed 3 n)) = front ++ plain n := by
  have whole : '.' ∉ front ++ digits (n / 1000) := fun member => by
    rcases List.mem_append.mp member with first | digit
    · exact pointless first
    · cases digits_isDigit digit
  have behind : '.' ∉ padLeft 3 (digits (n % 1000)) := fun member => by cases padLeft_isDigit member
  change stripEnd '.' (stripEnd '0' (front ++ (digits (n / 1000) ++ '.' :: padLeft 3 (digits (n % 1000))))) = _
  rw [← List.append_assoc, strip_pointed whole behind, joined_append]
  rfl

/-! ### Reading -/

section
variable {places : List Char} (canonical : Canonical whole places)
include canonical

theorem Canonical.joined_isDigit (member : c ∈ joined whole places) : c.isDigit = true ∨ c = '.' := by
  rw [joined] at member
  split_ifs at member with none_
  · exact .inl (canonical.row.digits c member)
  · rcases List.mem_append.mp member with before | behind
    · exact .inl (canonical.row.digits c before)
    · rcases List.mem_cons.mp behind with point | place
      · exact .inr point
      · exact .inl (canonical.digits c place)

theorem Canonical.unsigned : '-' ∉ joined whole places := fun member => by
  rcases canonical.joined_isDigit member with ⟨⟨⟩⟩ | ⟨⟨⟩⟩

theorem Canonical.magnitude_joined : magnitude? (joined whole places) = some (amount (whole ++ places) places.length) := by
  have digits := canonical.row.digits
  have digits' : places.all Char.isDigit = true := List.all_eq_true.mpr canonical.digits
  by_cases none_ : places = []
  · rw [joined, if_pos none_, magnitude?, List.takeWhile_eq_self_iff.mpr digits, List.dropWhile_eq_nil_iff.mpr digits]
    dsimp only
    rw [if_neg canonical.row.some_, none_, List.append_nil]
    rfl
  · rw [joined, if_neg none_, magnitude?, List.takeWhile_append_of_pos digits, List.dropWhile_append_of_pos digits,
      List.takeWhile_cons_of_neg (by decide), List.dropWhile_cons_of_neg (by decide), List.append_nil]
    exact if_neg (by simp [canonical.row.some_, none_, digits'])

theorem Canonical.read_joined : read? (joined whole places) = some (amount (whole ++ places) places.length) := by
  rw [← canonical.magnitude_joined]
  unfold read?
  split
  next rest signed => exact absurd (signed ▸ List.mem_cons_self) canonical.unsigned
  next => rfl

theorem Canonical.read_minus : read? ('-' :: joined whole places) = some (-amount (whole ++ places) places.length) := by
  change (magnitude? (joined whole places)).map (-·) = _
  rw [canonical.magnitude_joined]
  rfl

end

theorem amount_places (n : Nat) : amount (digits (n / 1000) ++ places n) (places n).length = n / 1000 := by
  obtain ⟨k, padded⟩ : ∃ k, places n ++ List.replicate k '0' = padLeft 3 (digits (n % 1000)) := stripEnd_append _ _
  have three : k + (places n).length = 3 := by
    rw [← thousandths_length n, ← padded, List.length_append, List.length_replicate, Nat.add_comm]
  have all : 10 ^ k * Nat.ofDigitChars 10 (digits (n / 1000) ++ places n) 0 = n := by
    rw [← Nat.ofDigitChars_replicate_zero, ← Nat.ofDigitChars_append, List.append_assoc, padded, ← ofDigits_digitOf, List.map_append]
    exact ofDigits_thousandths n
  calc amount (digits (n / 1000) ++ places n) (places n).length
    _ = 10 ^ k * Nat.ofDigitChars 10 (digits (n / 1000) ++ places n) 0 / (10 ^ k * 10 ^ (places n).length) :=
      (mul_div_mul_left _ _ (by positivity)).symm
    _ = n / 1000 := by
      rw [← pow_add, three]
      congr 1
      exact_mod_cast all

end

/-! ### One text for a number -/

section
variable {c : Char} {ds whole whole' places places' : List Char}

theorem digitOf_lt (digit : c.isDigit = true) : digitOf c < 10 := by
  have := digit_range digit
  rw [digitOf]
  omega

theorem digitChar_digitOf (digit : c.isDigit = true) : (digitOf c).digitChar = c := by
  have range := digit_range digit
  have each : ∀ n < 10, n.digitChar = Char.ofNat (48 + n) := by decide
  have code : 48 + digitOf c = c.toNat := by
    rw [digitOf]
    omega
  rw [each _ (digitOf_lt digit), code, Char.ofNat_toNat]

theorem ofDigitChars_snoc (ds : List Char) (c : Char) : Nat.ofDigitChars 10 (ds ++ [c]) 0 = 10 * Nat.ofDigitChars 10 ds 0 + digitOf c := by
  rw [Nat.ofDigitChars_append, Nat.ofDigitChars_cons, Nat.ofDigitChars_nil]
  rfl

theorem ofDigitChars_lt (all : ∀ c ∈ ds, c.isDigit = true) : Nat.ofDigitChars 10 ds 0 < 10 ^ ds.length := by
  induction ds using List.reverseRecOn with
  | nil => decide
  | append_singleton ds c ih =>
    have last := digitOf_lt (all c (by simp))
    have front := ih fun d member => all d (List.mem_append_left _ member)
    rw [ofDigitChars_snoc, List.length_append, List.length_singleton, Nat.pow_succ]
    omega

/-- Digits with no zero before others are those of their number. -/
theorem Row.digits_value (row : Row ds) : Decimal.digits (Nat.ofDigitChars 10 ds 0) = ds := by
  induction ds using List.reverseRecOn with
  | nil => exact absurd rfl row.some_
  | append_singleton ds c ih =>
    have digit := row.digits c (by simp)
    have small := digitOf_lt digit
    rw [ofDigitChars_snoc]
    cases ds with
    | nil =>
      rw [Nat.ofDigitChars_nil, Nat.mul_zero, Nat.zero_add, Decimal.digits, Nat.toDigits_of_lt_base small, digitChar_digitOf digit]
      rfl
    | cons d ds =>
      have other : d ≠ '0' := by
        rintro rfl
        have alone := row.begins rfl
        simp at alone
      have front : Decimal.digits (Nat.ofDigitChars 10 (d :: ds) 0) = d :: ds :=
        ih ⟨fun d member => row.digits d (List.mem_append_left _ member), List.cons_ne_nil _ _,
          fun zero => absurd (Option.some_inj.mp zero) other⟩
      generalize Nat.ofDigitChars 10 (d :: ds) 0 = n at *
      have pos : 0 < n := by
        refine Nat.pos_of_ne_zero ?_
        rintro rfl
        exact other (List.cons.inj front).1.symm
      have quotient : (10 * n + digitOf c) / 10 = n := by omega
      have rest : (10 * n + digitOf c) % 10 = digitOf c := by omega
      rw [Decimal.digits, Nat.toDigits_of_base_le (by decide) (by omega), quotient, rest, digitChar_digitOf digit, ← front]
      rfl

theorem Row.unique (row : Row whole) (row' : Row whole') (same : Nat.ofDigitChars 10 whole 0 = Nat.ofDigitChars 10 whole' 0) :
    whole = whole' := by
  rw [← row.digits_value, ← row'.digits_value, same]

/-- As many digits as others are told by their number: behind a one they have no zero before them. -/
theorem digits_unique (all : ∀ c ∈ places, c.isDigit = true) (all' : ∀ c ∈ places', c.isDigit = true) (long : places.length = places'.length)
    (same : Nat.ofDigitChars 10 places 0 = Nat.ofDigitChars 10 places' 0) : places = places' := by
  have row {ds : List Char} (all : ∀ c ∈ ds, c.isDigit = true) : Row ('1' :: ds) :=
    ⟨List.forall_mem_cons.mpr ⟨by rfl, all⟩, List.cons_ne_nil _ _, fun zero => by cases zero⟩
  refine (List.cons.inj ((row all).unique (row all') ?_)).2
  rw [Nat.ofDigitChars_cons, Nat.ofDigitChars_cons, Nat.ofDigitChars_eq_ofDigitChars_zero, long, same]
  exact Nat.ofDigitChars_eq_ofDigitChars_zero.symm

/-- The last of some places is not zero, so their number is no multiple of ten. -/
theorem Canonical.odd (canonical : Canonical whole places) (some_ : places ≠ []) : ¬ 10 ∣ Nat.ofDigitChars 10 (whole ++ places) 0 := by
  rcases List.eq_nil_or_concat' places with none_ | ⟨front, last, rfl⟩
  · exact absurd none_ some_
  · intro multiple
    have digit := canonical.digits last (by simp)
    have small := digitOf_lt digit
    rw [← List.append_assoc, ofDigitChars_snoc] at multiple
    have zero : digitOf last = 0 := by omega
    have char := digitChar_digitOf digit
    rw [zero] at char
    refine canonical.ends ?_
    rw [← char, List.getLast?_concat]
    rfl

theorem Canonical.longer (canonical' : Canonical whole' places')
    (same : amount (whole ++ places) places.length = amount (whole' ++ places') places'.length) : places'.length ≤ places.length := by
  by_contra! more
  refine canonical'.odd (List.ne_nil_of_length_pos (by omega)) ?_
  obtain ⟨k, long⟩ : ∃ k, places'.length = places.length + (k + 1) := ⟨places'.length - places.length - 1, by omega⟩
  have scaled : Nat.ofDigitChars 10 (whole ++ places) 0 * 10 ^ (k + 1) = Nat.ofDigitChars 10 (whole' ++ places') 0 := by
    rw [amount, amount, long, pow_add, ← div_div, div_right_comm, div_left_inj' (by positivity), eq_div_iff (by positivity)] at same
    exact_mod_cast same
  rw [← scaled, Nat.pow_succ]
  exact ⟨Nat.ofDigitChars 10 (whole ++ places) 0 * 10 ^ k, by ring⟩

/-- A number has one text with nothing to spare. -/
theorem Canonical.unique (canonical : Canonical whole places) (canonical' : Canonical whole' places')
    (same : amount (whole ++ places) places.length = amount (whole' ++ places') places'.length) : whole = whole' ∧ places = places' := by
  have long : places.length = places'.length := Nat.le_antisymm (canonical.longer same.symm) (canonical'.longer same)
  have low := ofDigitChars_lt canonical.digits
  have low' := ofDigitChars_lt canonical'.digits
  rw [amount, amount, long, div_left_inj' (by positivity), Nat.cast_inj, Nat.ofDigitChars_append, Nat.ofDigitChars_append,
    Nat.ofDigitChars_eq_ofDigitChars_zero, Nat.ofDigitChars_eq_ofDigitChars_zero (l := places'), long] at same
  rw [long] at low
  have pos : 0 < 10 ^ places'.length := Nat.pow_pos (by decide)
  have wholes : Nat.ofDigitChars 10 whole 0 = Nat.ofDigitChars 10 whole' 0 := by
    have quotients := congrArg (· / 10 ^ places'.length) same
    simpa only [Nat.mul_add_div pos, Nat.div_eq_of_lt low, Nat.div_eq_of_lt low', Nat.add_zero] using quotients
  rw [wholes, Nat.add_left_cancel_iff] at same
  exact ⟨canonical.row.unique canonical'.row wholes, digits_unique canonical.digits canonical'.digits long same⟩

end

end Lindenmayer.Decimals
