import Mathlib.Data.List.DropRight
import Lindenmayer.Environment

/-!
Values without what stands around them. A value is cleaned of the byte-order marks before it first, and of the blanks
around it then, so what is left begins with no blank, and with a mark just if one stands behind a blank before the
value (`Buried`, `cleaned_head`). In all other values marks and blanks are dropped in any order (`cleaned_bare`), and
what is left does not depend on them (`bare_padded`).
-/
namespace Lindenmayer.Cleaning
open Text Environment

/-- Whether a code point is white space. -/
def isSpace (c : CodePoint) : Bool := isBlank c.val

/-- Whether a code point is white space or a byte-order mark. -/
def isMargin (c : CodePoint) : Bool := c == byteOrderMark || isSpace c

/-- A value without the marks and blanks before it, in any order, and without the blanks behind it. -/
def bare (value : Text) : Text := trim (value.dropWhile isMargin)

/-- Before a value a mark stands behind a blank. -/
def Buried (value : Text) : Prop := ∃ marks blanks rest, value = marks ++ (blanks ++ byteOrderMark :: rest) ∧
  (∀ c ∈ marks, c = byteOrderMark) ∧ blanks ≠ [] ∧ ∀ c ∈ blanks, isSpace c = true

/-- A value with marks and blanks before it, in any order, and blanks behind it. -/
def Padded (value padded : Text) : Prop := ∃ before after, padded = before ++ (value ++ after) ∧
  (∀ c ∈ before, isMargin c = true) ∧ ∀ c ∈ after, isSpace c = true

/-! ### Dropping from lists -/

section
variable {α : Type} {p : α → Bool} {l after : List α}

theorem dropWhile_head : ∀ c ∈ (l.dropWhile p).head?, p c = false := by
  intro c first
  have stopped := List.head?_dropWhile_not p l
  rw [Option.mem_def.mp first] at stopped
  exact stopped

theorem dropWhile_same (stops : ∀ c ∈ l.head?, p c = false) : l.dropWhile p = l := by
  cases l with
  | nil => rfl
  | cons c rest => exact List.dropWhile_cons_of_neg (by rw [stops c rfl]; decide)

theorem rdropWhile_append (all : ∀ c ∈ after, p c = true) : (l ++ after).rdropWhile p = l.rdropWhile p := by
  rw [List.rdropWhile, List.reverse_append, List.dropWhile_append_of_pos fun c member => all c (List.mem_reverse.mp member)]
  rfl

end

/-! ### Trimming -/

variable {s value : Text}

theorem trim_eq (s : Text) : trim s = (s.dropWhile isSpace).rdropWhile isSpace := rfl

/-- What is trimmed begins where the blanks before it end. -/
theorem trim_head (s : Text) : (trim s).head? = (s.dropWhile isSpace).head? := by
  rw [trim_eq]
  cases dropped : s.dropWhile isSpace with
  | nil => rfl
  | cons c rest =>
    have dark : isSpace c = false := dropWhile_head c (by rw [dropped]; rfl)
    obtain ⟨behind, split⟩ := List.rdropWhile_prefix isSpace (c :: rest)
    cases left : (c :: rest).rdropWhile isSpace with
    | nil =>
      rw [List.rdropWhile_eq_nil_iff.mp left c List.mem_cons_self] at dark
      cases dark
    | cons d more =>
      rw [left] at split
      exact congrArg some (List.cons.inj split).1

theorem trim_space (s : Text) : ∀ c ∈ (trim s).head?, isSpace c = false := by
  rw [trim_head]
  exact dropWhile_head

theorem trim_trim (s : Text) : trim (trim s) = trim s := by
  rw [trim_eq (trim s), dropWhile_same (trim_space s), trim_eq, List.rdropWhile_idempotent]

theorem trim_dropped (s : Text) : trim (s.dropWhile isSpace) = trim s := by
  rw [trim_eq, trim_eq, List.dropWhile_idempotent]

theorem trim_append {after : Text} (white : ∀ c ∈ after, isSpace c = true) : trim (s ++ after) = trim s := by
  rw [trim_eq, trim_eq, List.dropWhile_append]
  by_cases nothing : (s.dropWhile isSpace).isEmpty = true
  · rw [if_pos nothing, List.isEmpty_iff.mp nothing, List.dropWhile_eq_nil_iff.mpr white]
  · rw [if_neg nothing, rdropWhile_append white]

/-! ### Values -/

theorem margin_mark : isMargin byteOrderMark = true := rfl

theorem space_margin {c : CodePoint} (white : isSpace c = true) : isMargin c = true := Bool.or_eq_true_iff.mpr (.inr white)

theorem space_mark : isSpace byteOrderMark = false := isBlank_byteOrderMark

theorem stripMarks_head (value : Text) : byteOrderMark ∉ (stripMarks value).head? := by
  intro first
  have other := dropWhile_head (p := (· == byteOrderMark)) byteOrderMark first
  rw [beq_self_eq_true] at other
  cases other

/-- The parts of a value: marks, blanks, and what begins with no blank. -/
theorem value_parts (value : Text) : ∃ marks blanks, value = marks ++ (blanks ++ (stripMarks value).dropWhile isSpace) ∧
    stripMarks value = blanks ++ (stripMarks value).dropWhile isSpace ∧ (∀ c ∈ marks, c = byteOrderMark) ∧ ∀ c ∈ blanks, isSpace c = true := by
  refine ⟨value.takeWhile (· == byteOrderMark), (stripMarks value).takeWhile isSpace, ?_, List.takeWhile_append_dropWhile.symm, ?_, ?_⟩
  · rw [List.takeWhile_append_dropWhile, stripMarks, List.takeWhile_append_dropWhile]
  · exact fun c member => eq_of_beq (List.mem_takeWhile_imp (p := (· == byteOrderMark)) member)
  · exact fun c member => List.mem_takeWhile_imp member

theorem buried_head : Buried value ↔ ((stripMarks value).dropWhile isSpace).head? = some byteOrderMark := by
  constructor
  · rintro ⟨marks, blanks, rest, rfl, marked, some_, white⟩
    have stripped : stripMarks (marks ++ (blanks ++ byteOrderMark :: rest)) = blanks ++ byteOrderMark :: rest := by
      rw [stripMarks, List.dropWhile_append_of_pos fun c member => beq_iff_eq.mpr (marked c member)]
      refine dropWhile_same fun c first => beq_eq_false_iff_ne.mpr ?_
      rintro rfl
      rw [List.head?_append_of_ne_nil _ some_] at first
      have dark := white _ (List.mem_of_mem_head? first)
      rw [space_mark] at dark
      cases dark
    rw [stripped, List.dropWhile_append_of_pos white, List.dropWhile_cons_of_neg (by rw [space_mark]; decide)]
    rfl
  · intro first
    obtain ⟨marks, blanks, split, stripped, marked, white⟩ := value_parts value
    obtain ⟨rest, left⟩ := List.head?_eq_some_iff.mp first
    rw [left] at split stripped
    refine ⟨marks, blanks, rest, split, marked, ?_, white⟩
    rintro rfl
    exact stripMarks_head value (by rw [stripped]; rfl)

instance : DecidablePred Buried := fun _ => decidable_of_iff' _ buried_head

/-- What is cleaned begins with no blank, and with a mark just if one is buried. -/
theorem cleaned_head (value : Text) :
    (∀ c ∈ (cleaned value).head?, isSpace c = false) ∧ (byteOrderMark ∈ (cleaned value).head? ↔ Buried value) := by
  refine ⟨trim_space _, ?_⟩
  rw [buried_head, cleaned, trim_head]
  rfl

theorem bare_head (value : Text) : ∀ c ∈ (bare value).head?, isMargin c = false := by
  have same : (value.dropWhile isMargin).dropWhile isSpace = value.dropWhile isMargin :=
    dropWhile_same fun c first => (Bool.or_eq_false_iff.mp (dropWhile_head c first)).2
  rw [bare, trim_head, same]
  exact dropWhile_head

/-- Unless a mark is buried, the order in which marks and blanks are dropped makes no difference. -/
theorem cleaned_bare : cleaned value = bare value ↔ ¬ Buried value := by
  constructor
  · intro same buried
    have first := (cleaned_head value).2.mpr buried
    rw [same] at first
    have other := bare_head value byteOrderMark first
    rw [margin_mark] at other
    cases other
  · intro clear
    obtain ⟨marks, blanks, split, -, marked, white⟩ := value_parts value
    have stops : ∀ c ∈ ((stripMarks value).dropWhile isSpace).head?, isMargin c = false := by
      intro c first
      refine Bool.or_eq_false_iff.mpr ⟨beq_eq_false_iff_ne.mpr ?_, dropWhile_head c first⟩
      rintro rfl
      exact clear (buried_head.mpr first)
    have dropped : value.dropWhile isMargin = (stripMarks value).dropWhile isSpace := by
      conv_lhs => rw [split]
      rw [List.dropWhile_append_of_pos fun c member => (marked c member) ▸ margin_mark,
        List.dropWhile_append_of_pos fun c member => space_margin (white c member), dropWhile_same stops]
    rw [bare, dropped, trim_dropped, cleaned]

theorem bare_padded {padded : Text} (more : Padded value padded) : bare padded = bare value := by
  obtain ⟨before, after, rfl, margin, white⟩ := more
  rw [bare, bare, List.dropWhile_append_of_pos margin, List.dropWhile_append]
  by_cases nothing : (value.dropWhile isMargin).isEmpty = true
  · have gone : after.dropWhile isMargin = [] := List.dropWhile_eq_nil_iff.mpr fun c member => space_margin (white c member)
    rw [if_pos nothing, List.isEmpty_iff.mp nothing, gone]
  · rw [if_neg nothing, trim_append white]

theorem trim_cleaned (value : Text) : trim (cleaned value) = cleaned value := trim_trim _

end Lindenmayer.Cleaning
