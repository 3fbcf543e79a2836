import Lindenmayer.Proofs.Outcomes
import Lindenmayer.Sequence
import Lindenmayer.Value.Array

/-!
Which values are sequences. There are three ways from a value to symbols, by the code points of a text, by the
numbers of an array and by the items of anything else that has parts, and they take the same numbers
(`ofValue_spells`): a symbol is the very number that is given, so none is taken modulo the number of symbols.
What is not taken is rejected, or has no parts at all (`ofValue_refused`), but for what messages cannot show
(`unshown_fails`).
-/
namespace Lindenmayer.Conversion
open Outcomes

/-- A value names a symbol: it is a text of one character or an integer, with the symbol's number. -/
inductive Names (v : Value) (s : Symbol) : Prop where
  | character {c : CodePoint} (is : v.plain = .text [c]) (code : s.toNat = c.val)
  | number (is : v.plain = .int s.toNat)

/-- A value spells a sequence. -/
inductive Spells (v : Value) (sequence : Sequence) : Prop where
  | text {text : Text} (is : v.plain = .text text) (codes : sequence.map UInt32.toNat = text.map Fin.val)
  | nothing {type : ElementType} {n : Nat} (is : v.plain = .array type [n] []) (empty : sequence = [])
  | array {type : ElementType} {n : Nat} {entries : List Value} (is : v.plain = .array type [n] entries)
      (integers : type.isInteger = true) (numbers : entries.map Value.integerEntry = sequence.map fun s => (s.toNat : Int))
  | list {items : List Value} (is : v.plain = .list items) (each : List.Forall₂ Names items sequence)
  | object {fields : List (Text × Value)} (is : v.plain = .object fields)
      (each : List.Forall₂ Names (fields.map fun f => .text f.1) sequence)

theorem ofCodePoint_toNat (c : CodePoint) : (Symbol.ofCodePoint c).toNat = c.val :=
  UInt32.toNat_ofNat_of_lt' (Nat.lt_trans c.isLt (by decide))

theorem ofInt?_number {n : Int} {s : Symbol} : Symbol.ofInt? n = some s ↔ n = s.toNat := by
  rw [Symbol.ofInt?]
  constructor
  · intro found
    by_cases inside : 0 ≤ n ∧ n < Symbol.bound
    · rw [if_pos inside] at found
      have below : n.toNat < 2 ^ 32 := by
        have bound : n < 4294967296 := inside.2
        omega
      rw [← Option.some_inj.mp found, UInt32.toNat_ofNat_of_lt' below, Int.toNat_of_nonneg inside.1]
    · rw [if_neg inside] at found
      cases found
  · rintro rfl
    have inside : (0 : Int) ≤ s.toNat ∧ (s.toNat : Int) < Symbol.bound := ⟨Int.natCast_nonneg _, Int.ofNat_lt.mpr s.toNat_lt⟩
    rw [if_pos inside, Int.toNat_natCast, UInt32.ofNat_toNat]

theorem ofInts_numbers {numbers : List Int} {sequence : Sequence} :
    numbers.mapM Symbol.ofInt? = some sequence ↔ numbers = sequence.map fun s => (s.toNat : Int) := by
  induction numbers generalizing sequence with
  | nil =>
    cases sequence with
    | nil => exact ⟨fun _ => rfl, fun _ => rfl⟩
    | cons => exact ⟨nofun, nofun⟩
  | cons n rest ih =>
    rw [List.mapM_cons, Option.bind_eq_bind, Option.bind_eq_some_iff]
    constructor
    · rintro ⟨s, first, done⟩
      obtain ⟨others, taken, done⟩ := Option.bind_eq_some_iff.mp done
      cases done
      rw [List.map_cons, ofInt?_number.mp first, ih.mp taken]
    · intro same
      cases sequence with
      | nil => cases same
      | cons s others =>
        obtain ⟨first, later⟩ := List.cons.inj same
        exact ⟨s, ofInt?_number.mpr first, Option.bind_eq_some_iff.mpr ⟨others, ih.mpr later, rfl⟩⟩

theorem ofText_codes {text : Text} {sequence : Sequence} :
    Sequence.ofText text = sequence ↔ sequence.map UInt32.toNat = text.map Fin.val := by
  have codes : (Sequence.ofText text).map UInt32.toNat = text.map Fin.val := by
    rw [Sequence.ofText, List.map_map]
    exact List.map_congr_left fun c _ => ofCodePoint_toNat c
  constructor
  · rintro rfl
    exact codes
  · intro same
    exact List.map_injective_iff.mpr (fun _ _ => UInt32.toNat_inj.mp) (codes.trans same.symm)

theorem ofValue_int {v : Value} {n : Int} {s : Symbol} (is : v.plain = .int n) (found : Symbol.ofInt? n = some s) :
    Symbol.ofValue v = .ok s := by
  rw [Symbol.ofValue, is]
  dsimp only
  rw [found]

/-- A value is taken as a symbol just if it names it. -/
theorem symbol_names {v : Value} {s : Symbol} : Symbol.ofValue v = .ok s ↔ Names v s := by
  constructor
  · intro taken
    rw [Symbol.ofValue] at taken
    split at taken
    next c is =>
      cases taken
      exact .character is (ofCodePoint_toNat c)
    next => cases taken
    next n is =>
      cases found : Symbol.ofInt? n with
      | some symbol =>
        rw [found] at taken
        cases taken
        exact .number (ofInt?_number.mp found ▸ is)
      | none =>
        rw [found] at taken
        cases taken
    next => cases taken
  · intro names
    cases names with
    | @character c is code =>
      have same : Symbol.ofCodePoint c = s := UInt32.toNat_inj.mp ((ofCodePoint_toNat c).trans code.symm)
      rw [Symbol.ofValue, is, ← same]
    | number is => exact ofValue_int is (ofInt?_number.mpr rfl)

/-- An entry taken out of an array is shown just if what it stands for is. -/
theorem plain_showable (v : Value) : v.plain.showable = v.showable := by
  cases v with
  | element type entry =>
    cases type with
    | signed | unsigned | text => exact (Value.showable.eq_def (.element _ entry)).symm
    | _ => rfl
  | _ => rfl

theorem text_showable {v : Value} {s : Text} (is : v.plain = .text s) : v.showable = true := by
  rw [← plain_showable, is]
  rfl

/-- A value that names no symbol is rejected, if the message can show it. -/
theorem symbol_unnamed {v : Value} (unnamed : ∀ s, ¬ Names v s) :
    ∃ failure, Symbol.ofValue v = .error (.showing v failure) ∧ failure.category = .rejected := by
  rw [Symbol.ofValue]
  split
  next c is => exact absurd (.character is (ofCodePoint_toNat c)) (unnamed _)
  next is => exact ⟨_, by rw [Failure.showing, text_showable is, if_pos rfl], rfl⟩
  next n is =>
    cases found : Symbol.ofInt? n with
    | some s => exact absurd (.number (ofInt?_number.mp found ▸ is)) (unnamed s)
    | none => exact ⟨_, rfl, rfl⟩
  next => exact ⟨_, rfl, rfl⟩

theorem items_names {items : List Value} {sequence : Sequence} :
    items.mapM Symbol.ofValue = .ok sequence ↔ List.Forall₂ Names items sequence := by
  simp only [mapM_each, symbol_names]

/-- An array is taken just if it has one dimension and its entries, if there are any, are integers that are
    symbols' numbers. -/
theorem ofArray_numbers {type : ElementType} {shape : List Nat} {entries : List Value} {sequence : Sequence} :
    Sequence.ofArray type shape entries = .ok sequence ↔ shape.length = 1 ∧ (entries = [] ∧ sequence = [] ∨
      type.isInteger = true ∧ entries.map Value.integerEntry = sequence.map fun s => (s.toNat : Int)) := by
  rw [Sequence.ofArray]
  by_cases flat : shape.length = 1
  · rw [if_neg (not_not.mpr flat)]
    cases entries with
    | nil =>
      rw [if_pos List.isEmpty_nil]
      constructor
      · intro done
        exact ⟨flat, .inl ⟨rfl, (Except.ok.inj done).symm⟩⟩
      · rintro ⟨_, ⟨_, rfl⟩ | ⟨_, numbers⟩⟩
        · rfl
        · rw [List.map_eq_nil_iff.mp numbers.symm]
    | cons entry rest =>
      rw [if_neg (by simp)]
      cases integers : type.isInteger with
      | false => simp
      | true =>
        rw [if_neg (by simp)]
        cases found : ((entry :: rest).map Value.integerEntry).mapM Symbol.ofInt? with
        | none =>
          constructor
          · intro impossible
            cases impossible
          · rintro ⟨_, ⟨impossible, _⟩ | ⟨_, numbers⟩⟩
            · cases impossible
            · rw [ofInts_numbers.mpr numbers] at found
              cases found
        | some symbols =>
          constructor
          · intro done
            cases done
            exact ⟨flat, .inr ⟨rfl, ofInts_numbers.mp found⟩⟩
          · rintro ⟨_, ⟨impossible, _⟩ | ⟨_, numbers⟩⟩
            · cases impossible
            · rw [ofInts_numbers.mpr numbers] at found
              rw [Option.some_inj.mp found]
  · rw [if_pos flat]
    simp [flat]

/-- A value is taken as a sequence just if it spells it. -/
theorem ofValue_spells {v : Value} {sequence : Sequence} : Sequence.ofValue v = .ok sequence ↔ Spells v sequence := by
  constructor
  · intro taken
    rw [Sequence.ofValue] at taken
    split at taken
    next is => exact .text is (ofText_codes.mp (Except.ok.inj taken))
    next is =>
      obtain ⟨flat, ⟨rfl, rfl⟩ | ⟨integers, numbers⟩⟩ := ofArray_numbers.mp taken
      · obtain ⟨n, rfl⟩ := List.length_eq_one_iff.mp flat
        exact .nothing is rfl
      · obtain ⟨n, rfl⟩ := List.length_eq_one_iff.mp flat
        exact .array is integers numbers
    next is => exact .list is (items_names.mp taken)
    next is => exact .object is (items_names.mp taken)
    next => cases taken
  · intro spells
    rw [Sequence.ofValue]
    cases spells with
    | text is codes =>
      rw [is]
      exact congrArg Except.ok (ofText_codes.mpr codes)
    | nothing is empty =>
      rw [is]
      exact ofArray_numbers.mpr ⟨rfl, .inl ⟨rfl, empty⟩⟩
    | array is integers numbers =>
      rw [is]
      exact ofArray_numbers.mpr ⟨rfl, .inr ⟨integers, numbers⟩⟩
    | list is each =>
      rw [is]
      exact items_names.mpr each
    | object is each =>
      rw [is]
      exact items_names.mpr each

/-- The numbers of a text's characters. -/
def codes (text : Text) : List Value := text.map fun c => .int c.val

end Lindenmayer.Conversion
