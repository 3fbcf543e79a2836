import Lindenmayer.Proofs.Conversion
import Lindenmayer.RuleTable.Basic
import Lindenmayer.Value.Pairs

/-!
What is shown of symbols and sequences says what they are. The text of a sequence is the one whose sequence it
is, and there is one just if all symbols are code points (`toText_ok`, `toText_refused`). A symbol without a
character is shown as its number and a sequence without a text as its numbers, so what is shown is always read
as what it was (`display_names`, `display_spells`), and the symbols of a table are shown as different keys
(`dictionary_display`).
-/
namespace Lindenmayer.Displays
open Conversion

/-! ### Texts of sequences -/

theorem codePoint?_some {s : Symbol} {c : CodePoint} : s.codePoint? = some c ↔ Symbol.ofCodePoint c = s := by
  rw [Symbol.codePoint?]
  constructor
  · intro found
    by_cases inside : s.toNat < 0x110000
    · rw [dif_pos inside] at found
      rw [← Option.some_inj.mp found]
      exact UInt32.ofNat_toNat
    · rw [dif_neg inside] at found
      cases found
  · rintro rfl
    have code := ofCodePoint_toNat c
    have inside : (Symbol.ofCodePoint c).toNat < 0x110000 := code ▸ c.isLt
    rw [dif_pos inside, Option.some_inj]
    exact Fin.ext code

/-- A sequence has a text just if it is the sequence of that text. -/
theorem toText?_some {sequence : Sequence} {text : Text} : sequence.toText? = some text ↔ Sequence.ofText text = sequence := by
  induction sequence generalizing text with
  | nil =>
    rw [Sequence.ofText, List.map_eq_nil_iff]
    exact ⟨fun found => (Option.some_inj.mp found).symm, fun empty => congrArg some empty.symm⟩
  | cons s rest ih =>
    rw [Sequence.toText?, List.mapM_cons, Option.bind_eq_bind, Option.bind_eq_some_iff]
    constructor
    · rintro ⟨c, first, done⟩
      obtain ⟨others, later, done⟩ := Option.bind_eq_some_iff.mp done
      cases done
      exact congrArg₂ List.cons (codePoint?_some.mp first) (ih.mp later)
    · intro same
      cases text with
      | nil => cases same
      | cons c others =>
        obtain ⟨first, later⟩ := List.cons.inj same
        exact ⟨c, codePoint?_some.mpr first, Option.bind_eq_some_iff.mpr ⟨others, ih.mpr later, rfl⟩⟩

/-- A sequence has no text just if a symbol of it is beyond the code points. -/
theorem toText?_none {sequence : Sequence} : sequence.toText? = none ↔ ∃ s ∈ sequence, 0x10FFFF < s.toNat := by
  constructor
  · intro absent
    by_contra within
    have inside : ∀ s ∈ sequence, s.toNat < 0x110000 := fun s member => by
      by_contra beyond
      exact within ⟨s, member, by omega⟩
    have text : sequence.toText? = some (sequence.attach.map fun s => ⟨s.1.toNat, inside s.1 s.2⟩) := by
      refine toText?_some.mpr ?_
      rw [Sequence.ofText, List.map_map]
      refine Eq.trans (List.map_congr_left fun s _ => ?_) (List.attach_map_subtype_val sequence)
      exact UInt32.ofNat_toNat
    rw [absent] at text
    cases text
  · rintro ⟨s, member, beyond⟩
    cases found : sequence.toText? with
    | none => rfl
    | some text =>
      rw [← toText?_some.mp found] at member
      obtain ⟨c, _, rfl⟩ := List.mem_map.mp member
      rw [ofCodePoint_toNat] at beyond
      have inside := c.isLt
      omega

theorem toText_ok {sequence : Sequence} {text : Text} : sequence.toText = .ok text ↔ Sequence.ofText text = sequence := by
  rw [← toText?_some, Sequence.toText]
  cases sequence.toText? with
  | some found =>
    constructor
    · exact fun same => congrArg some (Except.ok.inj same)
    · exact fun same => congrArg Except.ok (Option.some_inj.mp same)
  | none => exact ⟨nofun, nofun⟩

theorem toText_refused {sequence : Sequence} :
    sequence.toText = .error .noStringForm ↔ ∃ s ∈ sequence, 0x10FFFF < s.toNat := by
  rw [← toText?_none, Sequence.toText]
  cases sequence.toText? with
  | some found => exact ⟨nofun, nofun⟩
  | none => exact ⟨fun _ => rfl, fun _ => rfl⟩

theorem toText_outcome (sequence : Sequence) :
    (∃ text, sequence.toText = .ok text) ∨ sequence.toText = .error .noStringForm := by
  rw [Sequence.toText]
  cases sequence.toText? with
  | some found => exact .inl ⟨found, rfl⟩
  | none => exact .inr rfl

/-- A text is the text of its symbols. -/
theorem toText_ofText (text : Text) : (Sequence.ofText text).toText = .ok text := toText_ok.mpr rfl

theorem ofText_injective : Function.Injective Sequence.ofText := fun first second same =>
  Except.ok.inj ((toText_ofText first).symm.trans (same ▸ toText_ofText second))

theorem ofCodePoint_injective : Function.Injective Symbol.ofCodePoint := fun _ _ same =>
  Option.some_inj.mp ((codePoint?_some.mpr rfl).symm.trans (codePoint?_some.mpr same.symm))

/-! ### Reading what is shown -/

theorem display_names (s : Symbol) : Names s.display s := by
  rw [Symbol.display]
  cases found : s.codePoint? with
  | some c => exact .character rfl ((codePoint?_some.mp found) ▸ ofCodePoint_toNat c)
  | none => exact .number rfl

theorem display_spells (sequence : Sequence) : Spells sequence.display sequence := by
  rw [Sequence.display]
  cases found : sequence.toText? with
  | some text => exact .text rfl (ofText_codes.mp (toText?_some.mp found))
  | none =>
    refine .list rfl ?_
    rw [List.forall₂_map_left_iff, List.forall₂_same]
    exact fun s _ => .number rfl

theorem symbol_displayed (s : Symbol) : Symbol.ofValue s.display = .ok s := symbol_names.mpr (display_names s)

theorem sequence_displayed (sequence : Sequence) : Sequence.ofValue sequence.display = .ok sequence :=
  ofValue_spells.mpr (display_spells sequence)

/-! ### Keys that are shown -/

/-- What comes of entries that are put into a dictionary one after the other: a later value takes the place of
    an earlier one of the same key. -/
def dictionary (entries : List (Value × Value)) : List (Value × Value) :=
  entries.foldl (fun kept e => Value.insertField e.1 e.2 kept) []

theorem insertField_new {key : Value} (value : Value) {fields : List (Value × Value)}
    (new : ∀ f ∈ fields, Value.sameKey f.1 key = false) : Value.insertField key value fields = fields ++ [(key, value)] := by
  induction fields with
  | nil => rfl
  | cons field rest ih =>
    have other : ¬ Value.sameKey field.1 key = true := by simp [new field List.mem_cons_self]
    rw [Value.insertField, if_neg other, ih fun f member => new f (List.mem_cons_of_mem _ member)]
    rfl

/-- Entries of different keys all keep their place in a dictionary. -/
theorem dictionary_apart {entries : List (Value × Value)}
    (apart : entries.Pairwise fun a b => Value.sameKey a.1 b.1 = false) : dictionary entries = entries := by
  have kept (before : List (Value × Value)) (apart : (before ++ entries).Pairwise fun a b => Value.sameKey a.1 b.1 = false) :
      entries.foldl (fun kept e => Value.insertField e.1 e.2 kept) before = before ++ entries := by
    induction entries generalizing before with
    | nil => exact (List.append_nil before).symm
    | cons e rest ih =>
      have new : ∀ f ∈ before, Value.sameKey f.1 e.1 = false := fun f member =>
        (List.pairwise_append.mp apart).2.2 f member e List.mem_cons_self
      rw [List.foldl_cons, insertField_new e.2 new]
      have later := ih (List.Pairwise.of_cons ‹_›) (before ++ [e]) (by simpa using apart)
      simpa using later
  exact kept [] apart

theorem display_apart {s u : Symbol} (other : s ≠ u) : Value.sameKey s.display u.display = false := by
  rw [Symbol.display, Symbol.display]
  cases first : s.codePoint? with
  | some c =>
    cases second : u.codePoint? with
    | some d =>
      refine beq_eq_false_iff_ne.mpr fun same => other ?_
      rw [← codePoint?_some.mp first, ← codePoint?_some.mp second, (List.cons.inj same).1]
    | none => rfl
  | none =>
    cases second : u.codePoint? with
    | some d => rfl
    | none => exact beq_eq_false_iff_ne.mpr fun same => other (UInt32.toNat_inj.mp (Int.ofNat_inj.mp same))

/-- The keys of a table do not get in each other's way when they are shown, characters and numbers mixed. -/
theorem dictionary_display {t : RuleTable} (distinct : t.keys.Nodup) : dictionary t.display = t.display := by
  refine dictionary_apart ?_
  rw [RuleTable.display, List.pairwise_map]
  exact (List.pairwise_map.mp distinct).imp display_apart

end Lindenmayer.Displays
