import Mathlib.Data.Nat.Digits.Defs
import Mathlib.Data.List.Induction
import Lindenmayer.Text.Numeral

/-!
Texts of integers. A run of decimal digits is one of any script or of several, and single underscores may stand between
two of them (`Digits`). Reading a text finds the integer that a run of it stands for, behind a sign if there is one and
apart from blanks around it, and finds none in a text of another form (`integer_denotes`).
-/
namespace Lindenmayer.Numerals
open Text

/-- A run of decimal digits and what each of them stands for. -/
inductive Digits : List Nat → List Nat → Prop where
  | last {c d : Nat} (digit : digit? c = some d) : Digits [c] [d]
  | next {c d : Nat} {cs ds : List Nat} (digit : digit? c = some d) (more : Digits cs ds) : Digits (c :: cs) (d :: ds)
  | apart {c d : Nat} {cs ds : List Nat} (digit : digit? c = some d) (more : Digits cs ds) : Digits (c :: 95 :: cs) (d :: ds)

/-- What may stand behind a digit of a run. -/
def Behind (cs ds : List Nat) : Prop := cs = [] ∧ ds = [] ∨ Digits cs ds ∨ ∃ more, cs = 95 :: more ∧ Digits more ds

/-- The number of a row of decimal digits, the first of which counts most. -/
def number (ds : List Nat) : Nat := Nat.ofDigits 10 ds.reverse

/-- A text of codes denotes an integer: it is a run of digits, of as many as are read at most, with or without a sign. -/
inductive Denotes : List Nat → Int → Prop where
  | unsigned {cs ds : List Nat} (run : Digits cs ds) (few : ds.length ≤ digitLimit) : Denotes cs (number ds)
  | plus {cs ds : List Nat} (run : Digits cs ds) (few : ds.length ≤ digitLimit) : Denotes (43 :: cs) (number ds)
  | minus {cs ds : List Nat} (run : Digits cs ds) (few : ds.length ≤ digitLimit) : Denotes (45 :: cs) (-number ds)

/-! ### Runs of digits -/

theorem digits_cons {c : Nat} {cs ds : List Nat} : Digits (c :: cs) ds ↔ ∃ d es, digit? c = some d ∧ ds = d :: es ∧ Behind cs es := by
  constructor
  · intro run
    cases run with
    | last digit => exact ⟨_, _, digit, rfl, .inl ⟨rfl, rfl⟩⟩
    | next digit more => exact ⟨_, _, digit, rfl, .inr (.inl more)⟩
    | apart digit more => exact ⟨_, _, digit, rfl, .inr (.inr ⟨_, rfl, more⟩)⟩
  · rintro ⟨d, es, digit, rfl, ⟨rfl, rfl⟩ | more | ⟨rest, rfl, more⟩⟩
    · exact .last digit
    · exact .next digit more
    · exact .apart digit more

theorem digits_lt {cs ds : List Nat} (run : Digits cs ds) : ∀ d ∈ ds, d < 10 := by
  induction run with
  | last digit => simpa using digit?_lt digit
  | next digit _ ih | apart digit _ ih => exact List.forall_mem_cons.mpr ⟨digit?_lt digit, ih⟩

/-- A scan to the end of a text finds the digits of a run, or those behind the first digit of one. -/
theorem scanDigits_digits (cs : List Nat) : ∀ ds, (scanDigits? digit? true cs = some (ds, []) ↔ Digits cs ds) ∧
    (scanDigits? digit? false cs = some (ds, []) ↔ Behind cs ds) := by
  induction cs with
  | nil =>
    intro ds
    constructor
    · exact ⟨nofun, nofun⟩
    · constructor
      · rintro ⟨⟩
        exact .inl ⟨rfl, rfl⟩
      · rintro (⟨-, rfl⟩ | ⟨⟨⟩⟩ | ⟨_, ⟨⟩, -⟩)
        rfl
  | cons c rest ih =>
    intro ds
    cases digit : digit? c with
    | some d =>
      have other : c ≠ 95 := by
        rintro rfl
        cases digit
      have scanned (isOpen : Bool) : scanDigits? digit? isOpen (c :: rest) = some (ds, []) ↔ Digits (c :: rest) ds := by
        simp only [scanDigits?, digit, Option.map_eq_some_iff, digits_cons, Option.some.injEq]
        constructor
        · rintro ⟨⟨es, left⟩, found, same⟩
          obtain ⟨rfl, rfl⟩ := Prod.mk.inj same
          exact ⟨d, es, rfl, rfl, (ih es).2.mp found⟩
        · rintro ⟨_, es, rfl, rfl, behind⟩
          exact ⟨(es, []), (ih es).2.mpr behind, rfl⟩
      have behind : Behind (c :: rest) ds ↔ Digits (c :: rest) ds := by simp [Behind, other]
      exact ⟨scanned true, (scanned false).trans behind.symm⟩
    | none =>
      have noRun : ¬ Digits (c :: rest) ds := by
        rw [digits_cons, digit]
        rintro ⟨_, _, ⟨⟩, -⟩
      constructor
      · simp only [scanDigits?, digit, ↓reduceIte]
        exact ⟨nofun, fun run => absurd run noRun⟩
      · rw [Behind, scanDigits?, digit]
        by_cases underscore : c = 95
        · simp [underscore, underscore ▸ noRun, (ih ds).1]
        · simp [underscore, noRun]

theorem ofDigits_number (ds : List Nat) : ofDigits ds = number ds := by
  induction ds using List.reverseRecOn with
  | nil => rfl
  | append_singleton ds d ih =>
    rw [ofDigits_append_singleton, ih, number, number, List.reverse_append, List.reverse_singleton, List.singleton_append,
      Nat.ofDigits_cons, Nat.add_comm]

theorem natural_digits {cs : List Nat} {n : Nat} :
    natural? cs = some n ↔ ∃ ds, Digits cs ds ∧ ds.length ≤ digitLimit ∧ number ds = n := by
  rw [natural?]
  constructor
  · intro found
    split at found
    next ds scanned =>
      split at found
      next few =>
        cases found
        exact ⟨ds, (scanDigits_digits cs ds).1.mp scanned, few, (ofDigits_number ds).symm⟩
      next => cases found
    next => cases found
  · rintro ⟨ds, run, few, rfl⟩
    rw [(scanDigits_digits cs ds).1.mpr run]
    dsimp only
    rw [if_pos few, ofDigits_number]

/-! ### Signs -/

/-- A run does not begin with a sign. -/
theorem digits_unsigned {c : Nat} {cs ds : List Nat} (run : Digits (c :: cs) ds) : c ≠ 43 ∧ c ≠ 45 := by
  obtain ⟨d, _, digit, -⟩ := digits_cons.mp run
  constructor
  · rintro rfl
    cases digit
  · rintro rfl
    cases digit

/-- The integer that is read from a text is the one that it denotes without the blanks around it. -/
theorem integer_denotes {s : Text} {n : Int} : integer? s = some n ↔ Denotes ((trim s).map Fin.val) n := by
  rw [integer?]
  generalize (trim s).map Fin.val = codes
  constructor
  · intro found
    split at found
    next cs =>
      obtain ⟨m, read, rfl⟩ := Option.map_eq_some_iff.mp found
      obtain ⟨ds, run, few, rfl⟩ := natural_digits.mp read
      exact .plus run few
    next cs =>
      cases read : natural? cs with
      | none =>
        rw [read] at found
        cases found
      | some m =>
        rw [read] at found
        cases found
        obtain ⟨ds, run, few, rfl⟩ := natural_digits.mp read
        exact .minus run few
    next =>
      obtain ⟨m, read, rfl⟩ := Option.map_eq_some_iff.mp found
      obtain ⟨ds, run, few, rfl⟩ := natural_digits.mp read
      exact .unsigned run few
  · intro denotes
    cases denotes with
    | unsigned run few =>
      split
      next => exact absurd rfl (digits_unsigned run).1
      next => exact absurd rfl (digits_unsigned run).2
      next =>
        rw [natural_digits.mpr ⟨_, run, few, rfl⟩]
        rfl
    | plus run few | minus run few => simp [natural_digits.mpr ⟨_, run, few, rfl⟩]

/-- An integer begins with a sign or a digit. -/
theorem Denotes.begins {cs : List Nat} {n : Int} (denotes : Denotes cs n) :
    ∃ c ∈ cs.head?, c = 43 ∨ c = 45 ∨ ∃ d, digit? c = some d := by
  cases denotes with
  | plus => exact ⟨43, rfl, .inl rfl⟩
  | minus => exact ⟨45, rfl, .inr (.inl rfl)⟩
  | unsigned run few =>
    cases run with
    | last digit | next digit | apart digit => exact ⟨_, rfl, .inr (.inr ⟨_, digit⟩)⟩

/-- What is denoted can be written again. -/
theorem Denotes.short {cs : List Nat} {n : Int} (denotes : Denotes cs n) : n.natAbs < 10 ^ digitLimit := by
  have small {cs ds : List Nat} (run : Digits cs ds) (few : ds.length ≤ digitLimit) : number ds < 10 ^ digitLimit := by
    have below := Nat.ofDigits_lt_base_pow_length (b := 10) (l := ds.reverse) (by decide) fun d member => digits_lt run d (List.mem_reverse.mp member)
    rw [List.length_reverse] at below
    exact below.trans_le (Nat.pow_le_pow_right (by decide) few)
  cases denotes with
  | unsigned run few | plus run few =>
    rw [Int.natAbs_natCast]
    exact small run few
  | minus run few =>
    rw [Int.natAbs_neg, Int.natAbs_natCast]
    exact small run few

end Lindenmayer.Numerals
